import DatasetProposals.Json.Value
/-! Reading JSON text into a positioned document, which keeps the byte offsets a reader reports and
ends in a `broken` node at the first syntax error. -/
namespace DatasetProposals
namespace Json

/-- What went wrong while reading JSON text. -/
inductive SyntaxCode where
  | eofWhileParsingList
  | eofWhileParsingObject
  | eofWhileParsingString
  | eofWhileParsingValue
  | expectedColon
  | expectedListCommaOrEnd
  | expectedObjectCommaOrEnd
  | expectedSomeIdent
  | expectedSomeValue
  | invalidEscape
  | invalidNumber
  | controlCharacterWhileParsingString
  | keyMustBeAString
  | loneLeadingSurrogateInHexEscape
  | trailingComma
  | trailingCharacters
  | unexpectedEndOfHexEscape
  | numberOutOfRange
  | recursionLimitExceeded
  deriving Repr, BEq, Inhabited

def SyntaxCode.message : SyntaxCode → String
  | .eofWhileParsingList => "EOF while parsing a list"
  | .eofWhileParsingObject => "EOF while parsing an object"
  | .eofWhileParsingString => "EOF while parsing a string"
  | .eofWhileParsingValue => "EOF while parsing a value"
  | .expectedColon => "expected `:`"
  | .expectedListCommaOrEnd => "expected `,` or `]`"
  | .expectedObjectCommaOrEnd => "expected `,` or `\x7d`"
  | .expectedSomeIdent => "expected ident"
  | .expectedSomeValue => "expected value"
  | .invalidEscape => "invalid escape"
  | .invalidNumber => "invalid number"
  | .controlCharacterWhileParsingString =>
    "control character (\\u0000-\\u001F) found while parsing a string"
  | .keyMustBeAString => "key must be a string"
  | .loneLeadingSurrogateInHexEscape => "lone leading surrogate in hex escape"
  | .trailingComma => "trailing comma"
  | .trailingCharacters => "trailing characters"
  | .unexpectedEndOfHexEscape => "unexpected end of hex escape"
  | .numberOutOfRange => "number out of range"
  | .recursionLimitExceeded => "recursion limit exceeded"

/-- A syntax fault and the byte offset it is reported at. -/
structure SyntaxError where
  code : SyntaxCode
  offset : Nat
  deriving Repr, BEq, Inhabited

mutual
/-- A positioned JSON document, possibly cut short by a syntax error. -/
inductive Doc where
  | scalar (value : Json) (start stop : Nat)
  | arr (start : Nat) (items : List (Nat × Doc)) (close : Option Nat)
  | obj (start : Nat) (members : List Member) (close : Option Nat)
  | broken (error : SyntaxError)

/-- An object member: its key, the offset just after the key and the blanks after it, and its
value (which is `broken` if reading stopped at the colon or inside the value). -/
inductive Member where
  | field (key : String) (afterKey : Nat) (value : Doc)
  | broken (error : SyntaxError)
end

instance : Inhabited Doc := ⟨.broken default⟩

/-- Reading position: the characters not yet read and the byte offset of the first of them. -/
structure Cursor where
  rest : List Char
  offset : Nat

namespace Cursor

def peek? (c : Cursor) : Option Char := c.rest.head?

def advance (c : Cursor) : Cursor :=
  match c.rest with
  | [] => c
  | ch :: rest => ⟨rest, c.offset + ch.utf8Size⟩

def skipBlanks : Cursor → Cursor
  | ⟨ch :: rest, off⟩ =>
    if ch == ' ' || ch == '\n' || ch == '\t' || ch == '\r' then skipBlanks ⟨rest, off + 1⟩
    else ⟨ch :: rest, off⟩
  | c => c

end Cursor

def digitValue (c : Char) : Nat := c.toNat - 48

def isDigit (c : Char) : Bool := '0' ≤ c && c ≤ '9'

def hexValue? (c : Char) : Option Nat :=
  if '0' ≤ c && c ≤ '9' then some (c.toNat - 48)
  else if 'a' ≤ c && c ≤ 'f' then some (c.toNat - 87)
  else if 'A' ≤ c && c ≤ 'F' then some (c.toNat - 55)
  else none

section Reading

variable (total : Nat)

def errAt (c : Cursor) (code : SyntaxCode) : SyntaxError := ⟨code, c.offset⟩

def errPeek (c : Cursor) (code : SyntaxCode) : SyntaxError := ⟨code, min total (c.offset + 1)⟩

def errNext (c : Cursor) (code : SyntaxCode) : SyntaxError :=
  ⟨code, if c.rest.isEmpty then c.offset else c.offset + 1⟩

def readDigits : List Char → Nat → List Char × List Char × Nat
  | c :: rest, off =>
    if isDigit c then
      let (ds, r, o) := readDigits rest (off + 1)
      (c :: ds, r, o)
    else ([], c :: rest, off)
  | [], off => ([], [], off)

def readDigitValues (c : Cursor) : List Nat × Cursor :=
  let (ds, rest, off) := readDigits c.rest c.offset
  (ds.map digitValue, ⟨rest, off⟩)

def readExponent (c : Cursor) : Except SyntaxError ((ExponentSign × List Nat) × Cursor) :=
  let c := c.advance
  let (sign, c) :=
    match c.peek? with
    | some '+' => (ExponentSign.plus, c.advance)
    | some '-' => (ExponentSign.minus, c.advance)
    | _ => (ExponentSign.unwritten, c)
  match c.peek? with
  | none => .error (errAt c .eofWhileParsingValue)
  | some d =>
    if isDigit d then
      let (ds, c) := readDigitValues c
      .ok ((sign, ds), c)
    else .error (errNext c .invalidNumber)

def readWhole (c : Cursor) : Except SyntaxError (List Nat × Cursor) :=
  match c.peek? with
  | none => .error (errAt c .eofWhileParsingValue)
  | some '0' =>
    let c := c.advance
    match c.peek? with
    | some d => if isDigit d then .error (errPeek total c .invalidNumber) else .ok ([0], c)
    | none => .ok ([0], c)
  | some d =>
    if isDigit d then .ok (readDigitValues c)
    else .error (errNext c .invalidNumber)

def readFraction (c : Cursor) : Except SyntaxError (List Nat × Cursor) :=
  match c.peek? with
  | some '.' =>
    let c := c.advance
    let (ds, c') := readDigitValues c
    if ds.isEmpty then
      match c.peek? with
      | some _ => .error (errPeek total c .invalidNumber)
      | none => .error (errPeek total c .eofWhileParsingValue)
    else .ok (ds, c')
  | _ => .ok ([], c)

def readNumber (c : Cursor) (negative : Bool) (start : Nat) : Except SyntaxError (Json × Cursor) := do
  let (whole, c) ← readWhole total c
  let (fraction, c) ← readFraction total c
  let (exponent, c) ← match c.peek? with
    | some 'e' | some 'E' => do
      let (e, c) ← readExponent c
      pure (some e, c)
    | _ => pure (none, c)
  let numeral : Numeral := ⟨negative, whole, fraction, exponent⟩
  match numeral.reading with
  | .integer n => pure (.int n, c)
  | .double _ => pure (.float numeral, c)
  | .outOfRange k => throw ⟨.numberOutOfRange, start + k⟩

def readHex4 (c : Cursor) : Except SyntaxError (Nat × Cursor) :=
  let digits := match c.rest with
    | a :: b :: d :: e :: rest =>
      match hexValue? a, hexValue? b, hexValue? d, hexValue? e with
      | some w, some x, some y, some z => some (((w * 16 + x) * 16 + y) * 16 + z, rest)
      | _, _, _, _ => none
    | _ => none
  match digits with
  | some (n, rest) => .ok (n, ⟨rest, c.offset + 4⟩)
  | none =>
    if c.offset + 4 ≤ total then .error ⟨.invalidEscape, c.offset + 4⟩
    else .error ⟨.eofWhileParsingString, total⟩

def readUnicodeEscape (c : Cursor) : Except SyntaxError (Char × Cursor) := do
  let (n, c) ← readHex4 total c
  if 0xDC00 ≤ n && n ≤ 0xDFFF then throw (errAt c .loneLeadingSurrogateInHexEscape)
  if n < 0xD800 || n > 0xDBFF then return (Char.ofNat n, c)
  match c.peek? with
  | none => throw ⟨.eofWhileParsingString, total⟩
  | some '\\' =>
    let c := c.advance
    match c.peek? with
    | none => throw ⟨.eofWhileParsingString, total⟩
    | some 'u' =>
      let (n2, c) ← readHex4 total c.advance
      if n2 < 0xDC00 || n2 > 0xDFFF then throw (errAt c .loneLeadingSurrogateInHexEscape)
      return (Char.ofNat (((n - 0xD800) * 1024 + (n2 - 0xDC00)) + 0x10000), c)
    | some _ => throw (errNext c .unexpectedEndOfHexEscape)
  | some _ => throw (errNext c .unexpectedEndOfHexEscape)

def readStringBody : Nat → Cursor → List Char → Except SyntaxError (String × Cursor)
  | 0, _, _ => .error ⟨.eofWhileParsingString, total⟩
  | fuel + 1, c, acc =>
    match c.rest with
    | [] => .error ⟨.eofWhileParsingString, total⟩
    | '"' :: _ => .ok (String.ofList acc.reverse, c.advance)
    | '\\' :: _ =>
      let c := c.advance
      match c.peek? with
      | none => .error ⟨.eofWhileParsingString, total⟩
      | some e =>
        let simple : Option Char :=
          if e == '"' then some '"' else if e == '\\' then some '\\'
          else if e == '/' then some '/' else if e == 'b' then some (Char.ofNat 8)
          else if e == 'f' then some (Char.ofNat 12) else if e == 'n' then some '\n'
          else if e == 'r' then some '\r' else if e == 't' then some '\t' else none
        match simple with
        | some ch => readStringBody fuel c.advance (ch :: acc)
        | none =>
          if e == 'u' then
            match readUnicodeEscape total c.advance with
            | .ok (ch, c) => readStringBody fuel c (ch :: acc)
            | .error err => .error err
          else .error (errNext c .invalidEscape)
    | ch :: _ =>
      if ch.toNat < 32 then .error (errNext c .controlCharacterWhileParsingString)
      else readStringBody fuel c.advance (ch :: acc)

def readString (c : Cursor) : Except SyntaxError (String × Cursor) :=
  readStringBody total (c.rest.length + 1) c []

def readIdent : List Char → Cursor → Except SyntaxError Cursor
  | [], c => .ok c
  | e :: es, c =>
    match c.peek? with
    | none => .error (errAt c .eofWhileParsingValue)
    | some ch => if ch == e then readIdent es c.advance else .error (errNext c .expectedSomeIdent)

mutual
def readValue : Nat → Nat → Cursor → Doc × Cursor
  | 0, _, c => (.broken (errAt c .expectedSomeValue), c)
  | fuel + 1, room, c =>
    let c := c.skipBlanks
    let start := c.offset
    let scalar (r : Except SyntaxError (Json × Cursor)) : Doc × Cursor :=
      match r with
      | .ok (v, c') => (.scalar v start c'.offset, c')
      | .error e => (.broken e, c)
    match c.peek? with
    | none => (.broken (errPeek total c .eofWhileParsingValue), c)
    | some 'n' => scalar ((readIdent ['u', 'l', 'l'] c.advance).map (fun c' => (.null, c')))
    | some 't' => scalar ((readIdent ['r', 'u', 'e'] c.advance).map (fun c' => (.bool true, c')))
    | some 'f' =>
      scalar ((readIdent ['a', 'l', 's', 'e'] c.advance).map (fun c' => (.bool false, c')))
    | some '-' => scalar (readNumber total c.advance true start)
    | some '"' => scalar ((readString total c.advance).map (fun (s, c') => (.str s, c')))
    | some '[' =>
      if room ≤ 1 then (.broken (errPeek total c .recursionLimitExceeded), c)
      else readItems fuel (room - 1) c.advance start true []
    | some '{' =>
      if room ≤ 1 then (.broken (errPeek total c .recursionLimitExceeded), c)
      else readMembers fuel (room - 1) c.advance start true []
    | some ch =>
      if isDigit ch then scalar (readNumber total c false start)
      else (.broken (errPeek total c .expectedSomeValue), c)

def readItems : Nat → Nat → Cursor → Nat → Bool → List (Nat × Doc) → Doc × Cursor
  | 0, _, c, start, _, acc => (.arr start (acc.reverse ++ [(c.offset, .broken (errAt c .expectedSomeValue))]) none, c)
  | fuel + 1, room, c, start, first, acc =>
    let c := c.skipBlanks
    let stop (e : SyntaxError) : Doc × Cursor :=
      (.arr start (acc.reverse ++ [(c.offset, .broken e)]) none, c)
    match c.peek? with
    | none => stop (errPeek total c .eofWhileParsingList)
    | some ']' => (.arr start acc.reverse (some c.offset), c.advance)
    | some ch =>
      let next : Option Cursor :=
        if first then some c
        else if ch == ',' then some c.advance.skipBlanks
        else none
      match next with
      | none => stop (errPeek total c .expectedListCommaOrEnd)
      | some c' =>
        match c'.peek? with
        | some ']' => if first then stop (errPeek total c .expectedSomeValue)
                      else (.arr start (acc.reverse ++ [(c'.offset, .broken (errPeek total c' .trailingComma))]) none, c')
        | none => (.arr start (acc.reverse ++ [(c'.offset, .broken (errPeek total c' .eofWhileParsingValue))]) none, c')
        | some _ =>
          match readValue fuel room c' with
          | (.broken e, c'') => (.arr start (acc.reverse ++ [(c'.offset, .broken e)]) none, c'')
          | (d, c'') => readItems fuel room c'' start false ((c'.offset, d) :: acc)

def readMembers : Nat → Nat → Cursor → Nat → Bool → List Member → Doc × Cursor
  | 0, _, c, start, _, acc => (.obj start (acc.reverse ++ [.broken (errAt c .expectedSomeValue)]) none, c)
  | fuel + 1, room, c, start, first, acc =>
    let c := c.skipBlanks
    let stop (e : SyntaxError) : Doc × Cursor := (.obj start (acc.reverse ++ [.broken e]) none, c)
    match c.peek? with
    | none => stop (errPeek total c .eofWhileParsingObject)
    | some '}' => (.obj start acc.reverse (some c.offset), c.advance)
    | some ch =>
      let next : Except SyntaxError Cursor :=
        if first then
          if ch == '"' then .ok c else .error (errPeek total c .keyMustBeAString)
        else if ch == ',' then
          let c' := c.advance.skipBlanks
          match c'.peek? with
          | some '"' => .ok c'
          | some '}' => .error (errPeek total c' .trailingComma)
          | some _ => .error (errPeek total c' .keyMustBeAString)
          | none => .error (errPeek total c' .eofWhileParsingValue)
        else .error (errPeek total c .expectedObjectCommaOrEnd)
      match next with
      | .error e => stop e
      | .ok c' =>
        match readString total c'.advance with
        | .error e => stop e
        | .ok (key, c'') =>
          let afterKey := c''.skipBlanks
          let member (v : Doc) := Member.field key afterKey.offset v
          match afterKey.peek? with
          | none =>
            (.obj start (acc.reverse ++ [member (.broken (errPeek total afterKey .eofWhileParsingObject))]) none, afterKey)
          | some ':' =>
            match readValue fuel room afterKey.advance with
            | (.broken e, c3) => (.obj start (acc.reverse ++ [member (.broken e)]) none, c3)
            | (d, c3) => readMembers fuel room c3 start false (member d :: acc)
          | some _ =>
            (.obj start (acc.reverse ++ [member (.broken (errPeek total afterKey .expectedColon))]) none, afterKey)
end

end Reading

def Doc.isBroken : Doc → Bool
  | .broken _ => true
  | .arr _ _ none => true
  | .obj _ _ none => true
  | _ => false

def nestingLimit : Nat := 128

def Doc.ofText (text : String) : Doc × Option SyntaxError :=
  let total := text.utf8ByteSize
  let chars := text.toList
  let (d, c) := readValue total (chars.length + 1) nestingLimit ⟨chars, 0⟩
  if d.isBroken then (d, none)
  else
    let c := c.skipBlanks
    match c.peek? with
    | none => (d, none)
    | some _ => (d, some (errPeek total c .trailingCharacters))

def lineColumn (text : String) (offset : Nat) : Nat × Nat :=
  let bytes := (text.toUTF8.toList.take offset)
  let newlines := bytes.foldl (fun (acc : Nat × Nat) b =>
    if b == 10 then (acc.1 + 1, 0) else (acc.1, acc.2 + 1)) (1, 0)
  newlines

def atPosition (text : String) (offset : Nat) : String :=
  let (line, column) := lineColumn text offset
  s!" at line {line} column {column}"

mutual
def Doc.toJson? : Doc → Option Json
  | .scalar v _ _ => some v
  | .arr _ items (some _) => (Doc.itemsToJson? items).map Json.arr
  | .obj _ members (some _) => (Doc.membersToJson? members).map Json.obj
  | _ => none

def Doc.itemsToJson? : List (Nat × Doc) → Option (List Json)
  | [] => some []
  | (_, d) :: rest => do
    let v ← d.toJson?
    let vs ← Doc.itemsToJson? rest
    return v :: vs

def Doc.membersToJson? : List Member → Option (List (String × Json))
  | [] => some []
  | .field k _ d :: rest => do
    let v ← d.toJson?
    let vs ← Doc.membersToJson? rest
    return (k, v) :: vs
  | .broken _ :: _ => none
end

end Json
end DatasetProposals

namespace DatasetProposals
namespace Json

mutual
def Doc.ofJson : Json → Doc
  | .arr xs => .arr 0 (Doc.ofJsonItems xs) (some 0)
  | .obj fs => .obj 0 (Doc.ofJsonFields fs) (some 0)
  | j => .scalar j 0 0

def Doc.ofJsonItems : List Json → List (Nat × Doc)
  | [] => []
  | x :: xs => (0, Doc.ofJson x) :: Doc.ofJsonItems xs

def Doc.ofJsonFields : List (String × Json) → List Member
  | [] => []
  | (k, v) :: fs => .field k 0 (Doc.ofJson v) :: Doc.ofJsonFields fs
end

end Json
end DatasetProposals
