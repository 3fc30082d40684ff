import DatasetProposals.Text.Alphanumeric
import DatasetProposals.Text.Blank
/-! Regular expression syntax: whether a pattern is well formed, and whether an automaton over the
bytes of UTF-8 text can stand for it. -/
namespace DatasetProposals
namespace Pattern

/-- Why a pattern cannot be used. -/
inductive PatternFault where
  | malformed
  | unicodeWordBoundary
  deriving Repr, BEq, Inhabited

def PatternFault.message : PatternFault → String
  | .malformed => "error building NFA"
  | .unicodeWordBoundary =>
    "unsupported regex feature for DFAs: cannot build DFAs for regexes with Unicode word " ++
      "boundaries; switch to ASCII word boundaries, or heuristically enable Unicode word " ++
      "boundaries or use a different regex engine"

/-- The flags that change how the rest of a pattern is read. -/
structure Flags where
  extended : Bool
  unicode : Bool
  deriving Repr, BEq, Inhabited

def isMeta (c : Char) : Bool := "\\.+*?()|[]\x7b\x7d^$#&-~".toList.contains c

def isEscapable (c : Char) : Bool :=
  isMeta c || (c.toNat < 128 && !c.isAlphanum && c != '<' && c != '>')

def hexValue (c : Char) : Option Nat :=
  if c.isDigit then some (c.toNat - 48)
  else if 'a' ≤ c && c ≤ 'f' then some (c.toNat - 87)
  else if 'A' ≤ c && c ≤ 'F' then some (c.toNat - 55)
  else none

def hexNumber (cs : List Char) : Option Nat :=
  cs.foldlM (fun n c => (hexValue c).map (n * 16 + ·)) 0

def isScalar (n : Nat) : Bool := n < 0xD800 || (0xDFFF < n && n ≤ 0x10FFFF)

/-- What an escape stands for, as far as the checks need to know. -/
inductive Escaped where
  | plain
  | highByte
  | negatedPerl
  | unicodeClass
  | anchor
  | wordBoundary
  deriving Repr, BEq, Inhabited

def braced (cs : List Char) : Option (List Char × List Char) :=
  let inside := cs.takeWhile (· != '}')
  match cs.drop inside.length with
  | '}' :: rest => some (inside, rest)
  | _ => none

def hexEscape (n : Nat) (cs : List Char) : Option (Nat × List Char) :=
  match cs with
  | '{' :: rest => do
    let (digits, after) ← braced rest
    if digits.isEmpty then none
    let v ← hexNumber digits
    if isScalar v then some (v, after) else none
  | _ => do
    let digits := cs.take n
    if digits.length != n then none
    let v ← hexNumber digits
    if isScalar v then some (v, cs.drop n) else none

def boundaryNames : List String := ["start", "end", "start-half", "end-half"]

def escape (cs : List Char) : Option (Escaped × List Char) :=
  match cs with
  | [] => none
  | c :: rest =>
    if isEscapable c then some (.plain, rest)
    else if c.isDigit then none
    else match c with
      | 'x' => (hexEscape 2 rest).map fun (v, r) => (if v > 127 && v ≤ 255 then .highByte else .plain, r)
      | 'u' => (hexEscape 4 rest).map fun (_, r) => (.plain, r)
      | 'U' => (hexEscape 8 rest).map fun (_, r) => (.plain, r)
      | 'p' | 'P' =>
        match rest with
        | '{' :: more => (braced more).bind fun (name, r) =>
          if name.isEmpty then none else some (.unicodeClass, r)
        | l :: r => if "CLMNPSZ".toList.contains l then some (.unicodeClass, r) else none
        | [] => none
      | 'd' | 's' | 'w' => some (.plain, rest)
      | 'D' | 'S' | 'W' => some (.negatedPerl, rest)
      | 'a' | 'f' | 't' | 'n' | 'r' | 'v' => some (.plain, rest)
      | 'A' | 'z' => some (.anchor, rest)
      | 'B' | '<' | '>' => some (.wordBoundary, rest)
      | 'b' =>
        match rest with
        | '{' :: more =>
          match braced more with
          | some (name, r) =>
            if boundaryNames.contains (String.ofList name) then some (.wordBoundary, r)
            else none
          | none => none
        | _ => some (.wordBoundary, rest)
      | _ => none

def Escaped.allowed (flags : Flags) (inClass : Bool) : Escaped → Bool
  | .plain => true
  | .highByte | .negatedPerl | .unicodeClass => flags.unicode
  | .anchor | .wordBoundary => !inClass

/-- Where a class is being read: just after its `[`, just after a `^` there, or further on.
A `]` in the first two places is a literal. -/
inductive ClassPlace where
  | opened | negated | inside
  deriving Repr, BEq, Inhabited

def skipClass (flags : Flags) : Nat → List Char → Nat → ClassPlace → Option (List Char)
  | 0, _, _, _ => none
  | _ + 1, [], _, _ => none
  | fuel + 1, c :: rest, depth, place =>
    match c, place with
    | '^', .opened => if flags.unicode then skipClass flags fuel rest depth .negated else none
    | ']', .opened | ']', .negated => skipClass flags fuel rest depth .inside
    | ']', .inside =>
      match depth with
      | 0 => some rest
      | d + 1 => skipClass flags fuel rest d .inside
    | '[', _ => skipClass flags fuel rest (depth + 1) .opened
    | '\\', _ =>
      match escape rest with
      | some (e, after) => if e.allowed flags true then skipClass flags fuel after depth .inside else none
      | none => none
    | _, _ => skipClass flags fuel rest depth .inside

def groupFlags (flags : Flags) : List Char → List Char → Bool → Bool → Option (Flags × Bool × List Char)
  | [], _, _, _ => none
  | c :: rest, seen, negated, dangling =>
    if c == ':' || c == ')' then
      if dangling || (c == ')' && seen.isEmpty && !negated) then none
      else some (flags, c == ':', rest)
    else if c == '-' then
      if negated then none else groupFlags flags rest seen true true
    else if "imsuxUR".toList.contains c && !seen.contains c then
      let flags := match c with
        | 'x' => { flags with extended := !negated }
        | 'u' => { flags with unicode := !negated }
        | _ => flags
      groupFlags flags rest (c :: seen) negated false
    else none

def isNameChar (first : Bool) (c : Char) : Bool :=
  c == '_' || (Text.isAlphanumeric c && !(first && c.isDigit)) ||
    (!first && (c == '.' || c == '[' || c == ']'))

def countValue (digits : List Char) : Option Nat :=
  if digits.isEmpty then none
  else
    let n := digits.foldl (fun n d => n * 10 + (d.toNat - 48)) 0
    if n < 4294967296 then some n else none

def skipSpace (extended : Bool) : Bool → List Char → List Char
  | _, [] => []
  | true, c :: rest => skipSpace extended (c != '\n') rest
  | false, c :: rest =>
    if !extended then c :: rest
    else if Text.isBlank c then skipSpace extended false rest
    else if c == '#' then skipSpace extended true rest
    else c :: rest

def counted (extended : Bool) (cs : List Char) : Option (List Char) := do
  let cs := skipSpace extended false cs
  let low := cs.takeWhile Char.isDigit
  let n ← countValue low
  let cs := skipSpace extended false (cs.drop low.length)
  match cs with
  | '}' :: rest => some rest
  | ',' :: rest =>
    let rest := skipSpace extended false rest
    let high := rest.takeWhile Char.isDigit
    let after := skipSpace extended false (rest.drop high.length)
    match after with
    | '}' :: more =>
      if high.isEmpty then some more
      else do
        let m ← countValue high
        if n ≤ m then some more else none
    | _ => none
  | _ => none

/-- Where a pattern is being read. -/
structure Reading where
  flags : Flags
  enclosing : List Flags
  repeatable : Bool
  names : List String
  unicodeBoundary : Bool
  deriving Inhabited

def read : Nat → List Char → Reading → Option Reading
  | 0, _, _ => none
  | fuel + 1, cs, r =>
    match skipSpace r.flags.extended false cs with
    | [] => if r.enclosing.isEmpty then some r else none
    | c :: rest =>
      match c with
      | '(' =>
        let opened := { r with enclosing := r.flags :: r.enclosing, repeatable := false }
        match rest with
        | '?' :: more =>
          match more with
          | '=' :: _ | '!' :: _ | '<' :: '=' :: _ | '<' :: '!' :: _ => none
          | 'P' :: '<' :: named | '<' :: named =>
            let name := named.takeWhile (· != '>')
            match named.drop name.length with
            | '>' :: after =>
              let nameOk := match name with
                | n :: ns => isNameChar true n && ns.all (isNameChar false)
                | [] => false
              let text := String.ofList name
              if !nameOk || r.names.contains text then none
              else read fuel after { opened with names := text :: r.names }
            | _ => none
          | _ =>
            match groupFlags r.flags more [] false false with
            | some (flags, true, after) => read fuel after { opened with flags := flags }
            | some (flags, false, after) => read fuel after { r with flags := flags, repeatable := false }
            | none => none
        | _ => read fuel rest opened
      | ')' =>
        match r.enclosing with
        | outer :: enclosing => read fuel rest { r with flags := outer, enclosing := enclosing, repeatable := true }
        | [] => none
      | '|' => read fuel rest { r with repeatable := false }
      | '[' =>
        match skipClass r.flags (rest.length + 1) rest 0 .opened with
        | some after => read fuel after { r with repeatable := true }
        | none => none
      | '*' | '+' | '?' =>
        if !r.repeatable then none
        else
          let after := match rest with
            | '?' :: more => more
            | more => more
          read fuel after r
      | '{' =>
        if !r.repeatable then none
        else
          match counted r.flags.extended rest with
          | some after =>
            let after := match after with
              | '?' :: more => more
              | more => more
            read fuel after r
          | none => none
      | '\\' =>
        match escape rest with
        | some (e, after) =>
          if !e.allowed r.flags false then none
          else
            let boundary := e == .wordBoundary && r.flags.unicode
            read fuel after { r with repeatable := true, unicodeBoundary := r.unicodeBoundary || boundary }
        | none => none
      | '.' => if r.flags.unicode then read fuel rest { r with repeatable := true } else none
      | _ => read fuel rest { r with repeatable := true }

def check (s : String) : Option PatternFault :=
  let cs := s.toList
  match read (cs.length + 1) cs ⟨⟨false, true⟩, [], false, [], false⟩ with
  | none => some .malformed
  | some r => if r.unicodeBoundary then some .unicodeWordBoundary else none

end Pattern
end DatasetProposals
