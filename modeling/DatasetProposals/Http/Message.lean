import DatasetProposals.Json.Value
import DatasetProposals.Proposal.Status
/-! Requests and responses of the HTTP interface, with header names compared without letter case. -/
namespace DatasetProposals
namespace Http

abbrev Header := String × String

/-- A request body as the connection delivers it: all of its text, or a failure before its
end, such as chunks that cannot be read or a sender that stops early. -/
inductive Body where
  | text (s : String)
  | failed
  deriving Repr, BEq, Inhabited

/-- An HTTP request as the server receives it. -/
structure Request where
  method : String
  target : String
  headers : List Header
  body : Body
  deriving Repr, Inhabited

def sameName (a b : String) : Bool := Status.equalsIgnoringAsciiCase a b

def isFieldBlank (c : Char) : Bool := c == ' ' || c == '\t'

def fieldValue (s : String) : String :=
  String.ofList ((s.toList.dropWhile isFieldBlank).reverse.dropWhile isFieldBlank).reverse

def isFieldText (s : String) : Bool :=
  s.all fun c => c == '\t' || (' ' ≤ c && c.toNat < 127)

namespace Request

def header? (r : Request) (name : String) : Option String :=
  (r.headers.find? (fun (n, _) => sameName n name)).map (fun (_, v) => fieldValue v)

def headerText? (r : Request) (name : String) : Option String :=
  (r.header? name).filter isFieldText

def hasHeader (r : Request) (name : String) : Bool := (r.header? name).isSome

end Request

/-! The target of a request. -/

def isPathChar (c : Char) : Bool :=
  let n := c.toNat
  n == 0x21 || n == 0x22 || (0x24 ≤ n && n ≤ 0x3B) || n == 0x3D || (0x40 ≤ n && n ≤ 0x5F) ||
    (0x61 ≤ n && n ≤ 0x7E)

def isQueryChar (c : Char) : Bool :=
  let n := c.toNat
  n == 0x21 || (0x24 ≤ n && n ≤ 0x3B) || n == 0x3D || (0x3F ≤ n && n ≤ 0x7E)

def isAuthorityChar (c : Char) : Bool :=
  c.isAlphanum || "!$&\x27()*+,-.:;=@[]_~".toList.contains c

def isSchemeChar (c : Char) : Bool := c.isAlphanum || c == '+' || c == '-' || c == '.'

def splitPathQuery (cs : List Char) : Option (String × Option String) :=
  let path := cs.takeWhile (fun c => c != '?' && c != '#')
  if !path.all isPathChar then none
  else
    match cs.drop path.length with
    | '?' :: rest =>
      let query := rest.takeWhile (· != '#')
      if query.all isQueryChar then some (String.ofList path, some (String.ofList query)) else none
    | _ => some (String.ofList path, none)

def targetLocation? (target : String) : Option (String × Option String) :=
  let cs := target.toList
  match cs with
  | [] => none
  | '/' :: _ => splitPathQuery cs
  | ['*'] => some ("*", none)
  | _ =>
    let scheme := cs.takeWhile isSchemeChar
    match cs.drop scheme.length with
    | ':' :: '/' :: '/' :: rest =>
      let authority := rest.takeWhile (fun c => c != '/' && c != '?' && c != '#')
      if !authority.all isAuthorityChar then none
      else
        (splitPathQuery (rest.drop authority.length)).map fun (p, q) =>
          (if p.isEmpty then "/" else p, q)
    | _ => if cs.all isAuthorityChar then some ("", none) else none

namespace Request

def hasValidTarget (r : Request) : Bool := (targetLocation? r.target).isSome

def path (r : Request) : String := ((targetLocation? r.target).map (·.1)).getD r.target

def query? (r : Request) : Option String := (targetLocation? r.target).bind (·.2)

end Request

/-- What a response carries. -/
inductive Payload where
  | empty
  | json (j : Json)
  | text (s : String)
  deriving Repr, Inhabited

/-- An HTTP response. -/
structure Response where
  status : Nat
  headers : List Header
  payload : Payload
  deriving Repr, Inhabited

def Response.ofJson (status : Nat) (j : Json) : Response := ⟨status, [], .json j⟩

def errorDocument (message : String) : Json := .obj [("error", .str message)]

def Response.error (status : Nat) (message : String) : Response :=
  Response.ofJson status (errorDocument message)

def Response.setHeader (r : Response) (name value : String) : Response :=
  { r with headers := r.headers.filter (fun (n, _) => !sameName n name) ++ [(name, value)] }

def Response.addHeader (r : Response) (name value : String) : Response :=
  { r with headers := r.headers ++ [(name, value)] }

end Http
end DatasetProposals
