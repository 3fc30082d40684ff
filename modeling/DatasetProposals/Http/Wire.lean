import DatasetProposals.Http.Form
import DatasetProposals.Json.Text
/-! HTTP/1.1 messages as bytes: reading a request from what a client has sent so far, and writing
a response, one exchange per connection. -/
namespace DatasetProposals
namespace Http

/-- What the bytes received so far hold: a request whose head has been read, not yet a whole
head, or something refused with the status of the answer. -/
inductive Reading where
  | complete (r : Request)
  | incomplete
  | refused (status : Nat)
  deriving Repr, Inhabited

def textBytes (s : String) : List UInt8 := s.toUTF8.toList

def bytesText (bs : List UInt8) : String := String.ofList (decodeUtf8Lossy bs)

/-! The head: the request line and the header lines, up to an empty line. -/

def maxHeaders : Nat := 100

def maxHeadBytes : Nat := 8192 + 4096 * 100

def maxTargetBytes : Nat := 65534

def isTokenByte (b : UInt8) : Bool :=
  let c := Char.ofNat b.toNat
  c.isAlphanum || "!#$%&\x27*+-.^_\x60|~".toList.contains c

def isValueByte (b : UInt8) : Bool := b == 9 || (b ≥ 32 && b != 127)

def splitHead : Nat → Bool → List UInt8 → Option (List (List UInt8) × List UInt8)
  | 0, _, _ => none
  | fuel + 1, started, bs =>
    let line := bs.takeWhile (· != 10)
    if line.length == bs.length then none
    else
      let rest := bs.drop (line.length + 1)
      let line := if line.getLast? == some 13 then line.dropLast else line
      if line.isEmpty then
        if started then some ([], rest) else splitHead fuel false rest
      else (splitHead fuel true rest).map fun (lines, after) => (line :: lines, after)

def requestLine? (line : List UInt8) : Option (String × String × Bool) :=
  match (bytesText line).splitOn " " with
  | [method, target, version] =>
    if method.isEmpty || !(textBytes method).all isTokenByte || target.isEmpty then none
    else if version == "HTTP/1.1" then some (method, target, false)
    else if version == "HTTP/1.0" then some (method, target, true)
    else none
  | _ => none

def headerLine? (line : List UInt8) : Option Header :=
  let name := line.takeWhile isTokenByte
  match line.drop name.length with
  | 58 :: value =>
    if name.isEmpty || !value.all isValueByte then none
    else some (bytesText name, fieldValue (bytesText value))
  | _ => none

def readHeaders (count : Nat) : List (List UInt8) → Except Nat (List Header)
  | [] => .ok []
  | line :: rest =>
    if !(line.head?.any isTokenByte) then .error 400
    else if count ≥ maxHeaders then .error 431
    else
      match headerLine? line with
      | none => .error 400
      | some h => (readHeaders (count + 1) rest).map (h :: ·)

/-! Framing: where the body ends. -/

/-- How the end of a request body is found: there is none, it has a length, or it comes in
chunks. -/
inductive Framing where
  | none
  | length (n : Nat)
  | chunked
  deriving Repr, BEq, Inhabited

def lengthBound : Nat := 18446744073709551615

def lengthValue? (s : String) : Option Nat :=
  if s.isEmpty || !s.all Char.isDigit then none
  else
    let n := s.toList.foldl (fun acc c => acc * 10 + (c.toNat - 48)) 0
    if n > lengthBound then none else some n

def endsChunked (value : String) : Bool :=
  isFieldText value &&
    Status.equalsIgnoringAsciiCase (fieldValue ((value.splitOn ",").getLastD "")) "chunked"

/-- What the headers seen so far say of the framing: whether a transfer coding was named and
whether the last one named is chunked, and the length given. -/
structure FramingClues where
  transferCoded : Bool
  chunked : Bool
  length : Option Nat

def FramingClues.take (http10 : Bool) (c : FramingClues) (h : Header) : Except Nat FramingClues :=
  if sameName h.1 "transfer-encoding" then
    if http10 then .error 400 else .ok { c with transferCoded := true, chunked := endsChunked h.2 }
  else if sameName h.1 "content-length" then
    if c.transferCoded then .ok c
    else
      match lengthValue? h.2 with
      | none => .error 400
      | some n =>
        match c.length with
        | some m => if m == n then .ok c else .error 400
        | none => if n + 2 > lengthBound then .error 431 else .ok { c with length := some n }
  else .ok c

def framingOf (http10 : Bool) (headers : List Header) : Except Nat Framing := do
  let clues ← headers.foldlM (FramingClues.take http10) ⟨false, false, none⟩
  if clues.transferCoded then
    if clues.chunked then return .chunked else throw 400
  else
    match clues.length with
    | some n => return .length n
    | none => return .none

/-- The head of a request: its method, target and headers, and how its body is framed. -/
structure Head where
  method : String
  target : String
  headers : List Header
  framing : Framing

def readHead (lines : List (List UInt8)) : Except Nat Head := do
  match lines with
  | [] => throw 400
  | first :: rest =>
    match requestLine? first with
    | none => throw 400
    | some (method, target, http10) =>
      let headers ← readHeaders 0 rest
      if target.utf8ByteSize > maxTargetBytes then throw 414
      let framing ← framingOf http10 headers
      return ⟨method, target, headers, framing⟩

/-! The body. -/

/-- What the bytes after a head give as a body: the whole body, not yet all of it, or bytes
that cannot be a body. -/
inductive BodyReading where
  | whole (text : String)
  | waiting
  | broken
  deriving Repr, Inhabited

/-- Where reading a chunked body stands: before a chunk size, within its digits, the blanks
after them or an extension, after the carriage return of the size line, within a chunk's data
or the line end after it, and after the last chunk, within trailer lines up to an empty one. -/
inductive ChunkStep where
  | sizeStart
  | size (n : Nat)
  | sizeBlank (n : Nat)
  | extension (n : Nat)
  | sizeEnd (n : Nat)
  | data (left : Nat)
  | dataCr
  | dataLf
  | endCr
  | trailer
  | trailerLf
  | endLf
  deriving Repr, Inhabited

def afterSize (n : Nat) (b : UInt8) : Option ChunkStep :=
  if b == 9 || b == 32 then some (.sizeBlank n)
  else if b == 59 then some (.extension n)
  else if b == 13 then some (.sizeEnd n)
  else none

def ChunkStep.next (st : ChunkStep) (b : UInt8) : Option (ChunkStep × Bool) :=
  match st with
  | .sizeStart => (hexDigitValue? b).map fun d => (.size d, false)
  | .size n =>
    match hexDigitValue? b with
    | some d => if n * 16 + d > lengthBound then none else some (.size (n * 16 + d), false)
    | none => (afterSize n b).map (·, false)
  | .sizeBlank n => (afterSize n b).map (·, false)
  | .extension n =>
    if b == 13 then some (.sizeEnd n, false)
    else if b == 10 then none
    else some (.extension n, false)
  | .sizeEnd n =>
    if b != 10 then none
    else if n == 0 then some (.endCr, false)
    else some (.data n, false)
  | .data left => some (if left ≤ 1 then .dataCr else .data (left - 1), true)
  | .dataCr => if b == 13 then some (.dataLf, false) else none
  | .dataLf => if b == 10 then some (.sizeStart, false) else none
  | .endCr => some (if b == 13 then .endLf else .trailer, false)
  | .trailer => some (if b == 13 then .trailerLf else .trailer, false)
  | .trailerLf => if b == 10 then some (.endCr, false) else none
  | .endLf => none

def unchunk (st : ChunkStep) (acc : List UInt8) : List UInt8 → BodyReading
  | [] => .waiting
  | b :: rest =>
    match st with
    | .endLf => if b == 10 then .whole (bytesText acc.reverse) else .broken
    | _ =>
      match st.next b with
      | none => .broken
      | some (st', isData) => unchunk st' (if isData then b :: acc else acc) rest

def Framing.take (f : Framing) (rest : List UInt8) (more : String) : BodyReading :=
  match f with
  | .none => .whole ""
  | .length n =>
    if rest.isEmpty && more.utf8ByteSize == n then .whole more
    else
      let bytes := rest ++ textBytes more
      if bytes.length < n then .waiting else .whole (bytesText (bytes.take n))
  | .chunked => unchunk .sizeStart [] (rest ++ textBytes more)

def receive (ended : Bool) (bytes : List UInt8) (more : String) : Reading :=
  match splitHead (bytes.length + 1) false bytes with
  | none => if bytes.length > maxHeadBytes then .refused 431 else .incomplete
  | some (lines, rest) =>
    match readHead lines with
    | .error status => .refused status
    | .ok head =>
      if bytes.length - rest.length > maxHeadBytes then .refused 431
      else
        let request (body : Body) : Request := ⟨head.method, head.target, head.headers, body⟩
        match head.framing.take rest more with
        | .whole text => .complete (request (.text text))
        | .broken => .complete (request .failed)
        | .waiting => if ended then .complete (request .failed) else .incomplete

def readRequest (ended : Bool) (bytes : List UInt8) : Reading := receive ended bytes ""

def reasonPhrase : Nat → String
  | 200 => "OK"
  | 201 => "Created"
  | 400 => "Bad Request"
  | 401 => "Unauthorized"
  | 403 => "Forbidden"
  | 404 => "Not Found"
  | 405 => "Method Not Allowed"
  | 409 => "Conflict"
  | 414 => "URI Too Long"
  | 431 => "Request Header Fields Too Large"
  | 500 => "Internal Server Error"
  | 504 => "Gateway Timeout"
  | _ => ""

def Payload.bodyText : Payload → String
  | .empty => ""
  | .json j => Json.render j
  | .text s => s

def Response.render (r : Response) : String :=
  let body := r.payload.bodyText
  let headers := r.headers ++ [("content-length", toString body.utf8ByteSize), ("connection", "close")]
  "HTTP/1.1 " ++ toString r.status ++ " " ++ reasonPhrase r.status ++ "\r\n" ++
    String.join (headers.map fun (n, v) => n ++ ": " ++ v ++ "\r\n") ++ "\r\n" ++ body

def refusal (status : Nat) : Response := ⟨status, [], .empty⟩

end Http
end DatasetProposals
