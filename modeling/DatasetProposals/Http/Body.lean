import DatasetProposals.Http.Message
import DatasetProposals.Json.Decode
/-! Reading a JSON request body: the media type, then the size limit, then the text, each fault
named with the path of the value where it lies. -/
namespace DatasetProposals
namespace Http
open Json

/-- The type, subtype and suffix of a media type, in lower case. -/
structure MediaType where
  type : String
  subtype : String
  suffix : Option String
  deriving Repr, BEq, Inhabited

namespace MediaType

def isTokenChar (c : Char) : Bool := c.isAlphanum || "!#$%&\x27*+-.^_`|~".toList.contains c

def isQuotedChar (c : Char) : Bool := 31 < c.toNat && c.toNat != 127

/-- Where a parameter list is being read. -/
inductive ParamState where
  | nameStart
  | name
  | valueStart
  | value
  | quoteStart
  | quoted
  | quoteEnd
  deriving Repr, DecidableEq, Inhabited

def paramsWellFormed : ParamState → List Char → Bool
  | .nameStart, [] => true
  | .nameStart, c :: cs =>
    if c == ' ' then paramsWellFormed .nameStart cs
    else isTokenChar c && paramsWellFormed .name cs
  | .name, [] => false
  | .name, c :: cs =>
    if c == '=' then paramsWellFormed .valueStart cs
    else isTokenChar c && paramsWellFormed .name cs
  | .valueStart, [] => true
  | .valueStart, c :: cs =>
    if c == '"' then paramsWellFormed .quoteStart cs
    else isTokenChar c && paramsWellFormed .value cs
  | .value, [] => true
  | .value, c :: cs =>
    if c == ';' then paramsWellFormed .nameStart cs
    else isTokenChar c && paramsWellFormed .value cs
  | .quoteStart, [] => false
  | .quoteStart, c :: cs => isQuotedChar c && paramsWellFormed .quoted cs
  | .quoted, [] => false
  | .quoted, c :: cs =>
    if c == '"' then paramsWellFormed .quoteEnd cs
    else isQuotedChar c && paramsWellFormed .quoted cs
  | .quoteEnd, [] => true
  | .quoteEnd, c :: cs =>
    if c == ';' then paramsWellFormed .nameStart cs
    else c == ' ' && paramsWellFormed .quoteEnd cs

def lower (cs : List Char) : String := String.ofList (cs.map Char.toLower)

def splitSuffix (sub : List Char) : String × Option String :=
  match (sub.zipIdx.filter (fun (c, i) => c == '+' && i > 0)).getLast? with
  | some (_, i) => (lower (sub.take i), some (lower (sub.drop (i + 1))))
  | none => (lower sub, none)

def parse? (s : String) : Option MediaType :=
  if s == "*/*" then some ⟨"*", "*", none⟩
  else
    let cs := s.toList
    match cs.findIdx? (· == '/') with
    | none | some 0 => none
    | some slash =>
      let top := cs.take slash
      let rest := cs.drop (slash + 1)
      let sub := rest.takeWhile (· != ';')
      let params := rest.drop sub.length
      let (subtype, suffix) := splitSuffix sub
      let essence : MediaType := ⟨lower top, subtype, suffix⟩
      if !(top.all isTokenChar && sub.all isTokenChar) then none
      else
        match params with
        | [] => some essence
        | _ :: ps => if !sub.isEmpty && paramsWellFormed .nameStart ps then some essence else none

def isJson (m : MediaType) : Bool :=
  m.type == "application" && (m.subtype == "json" || m.suffix == some "json")

end MediaType

/-- Why a body could not be read as JSON. -/
inductive BodyRejection where
  | missingJsonContentType
  | lengthLimitExceeded
  | failedToBuffer
  | unreadable (message : String)
  | mismatched (message : String)
  deriving Repr, BEq, Inhabited

def BodyRejection.message : BodyRejection → String
  | .missingJsonContentType => "Expected request with `Content-Type: application/json`"
  | .lengthLimitExceeded => "Failed to buffer the request body: length limit exceeded"
  | .failedToBuffer => "Failed to buffer the request body: error reading a body from connection"
  | .unreadable m => "Failed to parse the request body as JSON: " ++ m
  | .mismatched m => "Failed to deserialize the JSON body into the target type: " ++ m

def bodyLimit : Nat := 1048576

def Request.hasJsonBody (r : Request) : Bool :=
  match r.headerText? "content-type" with
  | some v => (MediaType.parse? v).any MediaType.isJson
  | none => false

def Request.readJson {α : Type} (r : Request) (d : Decoder α) : Except BodyRejection α :=
  if !r.hasJsonBody then .error .missingJsonContentType
  else
    match r.body with
    | .failed => .error .failedToBuffer
    | .text text =>
      if text.utf8ByteSize > bodyLimit then .error .lengthLimitExceeded
      else
        let (doc, trailing) := Doc.ofText text
        match d doc with
        | .error e =>
          if e.isSyntax then .error (.unreadable (e.pathMessage text))
          else .error (.mismatched (e.pathMessage text))
        | .ok v =>
          match trailing with
          | some e => .error (.unreadable ((DecodeError.mk (.malformed e.code) [] e.offset).textMessage text))
          | none => .ok v

end Http
end DatasetProposals
