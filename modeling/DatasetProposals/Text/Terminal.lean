/-! Styled text, and what of it reaches a stream that is no terminal, through a parser of control
sequences in two alternating phases. -/
namespace DatasetProposals
namespace Terminal

/-- How a part of a message is shown on a terminal. -/
inductive Style where
  | error
  | header
  | literal
  | invalid
  | valid
  deriving Repr, BEq, Inhabited

def Style.codes : Style → String
  | .error => "\x1b[1m\x1b[31m"
  | .header => "\x1b[1m\x1b[4m"
  | .literal => "\x1b[1m"
  | .invalid => "\x1b[33m"
  | .valid => "\x1b[32m"

def reset : String := "\x1b[0m"

def Style.paint (st : Style) (s : String) : String := st.codes ++ s ++ reset

/-- The states of the parser. `utf8 n` reads a character of several bytes, `n` of them still
to come. -/
inductive ParseState where
  | ground | escape | escapeIntermediate
  | csiEntry | csiParam | csiIntermediate | csiIgnore
  | dcsEntry | dcsParam | dcsIntermediate | dcsPassthrough | dcsIgnore
  | oscString | sosPmApcString
  | utf8 (remaining : Nat)
  deriving Repr, BEq, Inhabited

/-- What the parser does with a byte, as far as printing goes. -/
inductive Action where
  | nothing | print | execute | beginUtf8
  deriving Repr, BEq, Inhabited

def within (low high b : Nat) : Bool := low ≤ b && b ≤ high

def isExecuted (b : Nat) : Bool := b ≤ 0x17 || b == 0x19 || within 0x1C 0x1F b

def continuationCount (b : Nat) : Nat :=
  if b ≥ 0xF0 then 3 else if b ≥ 0xE0 then 2 else 1

def ParseState.change (st : ParseState) (b : Nat) : Option ParseState × Action :=
  if b == 0x18 || b == 0x1A then (some .ground, .execute)
  else if b == 0x1B then (some .escape, .nothing)
  else
    match st with
    | .ground =>
      if isExecuted b then (none, .execute)
      else if within 0x20 0x7F b then (none, .print)
      else if within 0x80 0x8F b || within 0x91 0x9A b || b == 0x9C then (none, .execute)
      else if within 0xC2 0xF4 b then (some (.utf8 (continuationCount b)), .beginUtf8)
      else (none, .nothing)
    | .escape =>
      if isExecuted b then (none, .execute)
      else if within 0x20 0x2F b then (some .escapeIntermediate, .nothing)
      else if b == 0x5B then (some .csiEntry, .nothing)
      else if b == 0x5D then (some .oscString, .nothing)
      else if b == 0x50 then (some .dcsEntry, .nothing)
      else if b == 0x58 || b == 0x5E || b == 0x5F then (some .sosPmApcString, .nothing)
      else if within 0x30 0x7E b then (some .ground, .nothing)
      else (none, .nothing)
    | .escapeIntermediate =>
      if isExecuted b then (none, .execute)
      else if within 0x30 0x7E b then (some .ground, .nothing)
      else (none, .nothing)
    | .csiEntry =>
      if isExecuted b then (none, .execute)
      else if within 0x20 0x2F b then (some .csiIntermediate, .nothing)
      else if within 0x30 0x3F b then (some .csiParam, .nothing)
      else if within 0x40 0x7E b then (some .ground, .nothing)
      else (none, .nothing)
    | .csiParam =>
      if isExecuted b then (none, .execute)
      else if within 0x20 0x2F b then (some .csiIntermediate, .nothing)
      else if within 0x3C 0x3F b then (some .csiIgnore, .nothing)
      else if within 0x40 0x7E b then (some .ground, .nothing)
      else (none, .nothing)
    | .csiIntermediate =>
      if isExecuted b then (none, .execute)
      else if within 0x30 0x3F b then (some .csiIgnore, .nothing)
      else if within 0x40 0x7E b then (some .ground, .nothing)
      else (none, .nothing)
    | .csiIgnore =>
      if isExecuted b then (none, .execute)
      else if within 0x40 0x7E b then (some .ground, .nothing)
      else (none, .nothing)
    | .dcsEntry =>
      if within 0x20 0x2F b then (some .dcsIntermediate, .nothing)
      else if b == 0x3A then (some .dcsIgnore, .nothing)
      else if within 0x30 0x3F b then (some .dcsParam, .nothing)
      else if within 0x40 0x7E b then (some .dcsPassthrough, .nothing)
      else (none, .nothing)
    | .dcsParam =>
      if within 0x20 0x2F b then (some .dcsIntermediate, .nothing)
      else if b == 0x3A || within 0x3C 0x3F b then (some .dcsIgnore, .nothing)
      else if within 0x40 0x7E b then (some .dcsPassthrough, .nothing)
      else (none, .nothing)
    | .dcsIntermediate =>
      if within 0x30 0x3F b then (some .dcsIgnore, .nothing)
      else if within 0x40 0x7E b then (some .dcsPassthrough, .nothing)
      else (none, .nothing)
    | .dcsPassthrough | .dcsIgnore | .sosPmApcString =>
      if b == 0x9C then (some .ground, .nothing) else (none, .nothing)
    | .oscString => if b == 0x07 then (some .ground, .nothing) else (none, .nothing)
    | .utf8 _ => (none, .nothing)

def prints (a : Action) (b : Nat) : Bool :=
  (a == .print && b != 0x7F) || a == .beginUtf8 ||
    (a == .execute && (b == 0x09 || b == 0x0A || b == 0x0C || b == 0x0D || b == 0x20))

/-- The parser between bytes: its state, and whether it is printing. -/
structure Stripper where
  state : ParseState
  printing : Bool
  deriving Repr, Inhabited

def skipByte (st : ParseState) (b : Nat) : Stripper × Bool :=
  let (next, act) := st.change b
  (⟨next.getD st, prints act b⟩, prints act b)

def printByte (st : ParseState) (b : Nat) : Stripper × Bool :=
  match st with
  | .utf8 n => (⟨if n ≤ 1 then .ground else .utf8 (n - 1), true⟩, true)
  | _ =>
    let (next, act) := ParseState.ground.change b
    let st' := next.getD st
    match st' with
    | .utf8 _ => (⟨st', true⟩, true)
    | _ => if prints act b then (⟨st', true⟩, true) else skipByte st' b

def Stripper.feed (m : Stripper) (b : Nat) : Stripper × Bool :=
  match m.state with
  | .utf8 _ => printByte m.state b
  | _ => if m.printing then printByte m.state b else skipByte m.state b

def Stripper.feedChar (m : Stripper) (c : Char) : Stripper × Bool :=
  match (String.utf8EncodeChar c).map UInt8.toNat with
  | [] => (m, false)
  | b :: rest =>
    let (m, kept) := m.feed b
    (rest.foldl (fun m b => (m.feed b).1) m, kept)

def Stripper.keep (m : Stripper) : List Char → List Char
  | [] => []
  | c :: rest =>
    let (m, kept) := m.feedChar c
    if kept then c :: m.keep rest else m.keep rest

def plain (s : String) : String := String.ofList ((Stripper.mk .ground false).keep s.toList)

end Terminal
end DatasetProposals
