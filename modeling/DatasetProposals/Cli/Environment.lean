import DatasetProposals.FileTree
import DatasetProposals.Text.Alphanumeric
import DatasetProposals.Text.Blank
/-! The environment variables a run sees, and the `.env` file that may add to them: quoting,
escapes, multi-line values and `$NAME` substitution, never overriding a set variable. -/
namespace DatasetProposals
namespace Cli

/-- Environment variables, as the entries `NAME=VALUE` of a process environment in their
order. -/
structure Environment where
  entries : List String
  deriving Repr, Inhabited

namespace Environment

def empty : Environment := ⟨[]⟩

def get? (e : Environment) (name : String) : Option String :=
  if name.isEmpty || name.toList.contains (Char.ofNat 0) then none
  else
    let key := (name ++ "=").toList
    (e.entries.find? fun entry => key.isPrefixOf entry.toList).map fun entry =>
      String.ofList (entry.toList.drop key.length)

def set (e : Environment) (name value : String) : Environment :=
  let key := (name ++ "=").toList
  let entry := name ++ "=" ++ value
  match e.entries.findIdx? fun x => key.isPrefixOf x.toList with
  | some i => ⟨e.entries.set i entry⟩
  | none => ⟨e.entries ++ [entry]⟩

def setIfAbsent (e : Environment) (name value : String) : Environment :=
  if (e.get? name).isSome then e else e.set name value

def ofGiven (given : List (String × String)) : Environment :=
  ⟨(given.mergeSort fun a b => decide (a.1 ≤ b.1)).map fun (k, v) => k ++ "=" ++ v⟩

end Environment

namespace DotEnv

/-- Where a line's reader stands after a character: in plain text, after a blank, after a
backslash, inside double quotes (perhaps after a backslash), inside single quotes (perhaps
after a backslash), or in a comment. -/
inductive LineState where
  | complete | blank | escape | weak | weakEscape | strong | strongEscape | comment
  deriving Repr, BEq, Inhabited

def isInlineBlank (c : Char) : Bool := Text.isBlank c && c != '\n' && c != '\r'

def endState (start : LineState) (cs : List Char) : Nat × LineState :=
  let rec go : Nat → LineState → List Char → Nat × LineState
    | pos, st, [] => (pos, st)
    | pos, st, c :: rest =>
      let next : LineState :=
        match st with
        | .blank =>
          if c == '#' then .comment
          else if c == '\\' then .escape
          else if c == '"' then .weak
          else if c == '\'' then .strong
          else .complete
        | .escape => .complete
        | .complete =>
          if isInlineBlank c then .blank
          else if c == '\\' then .escape
          else if c == '"' then .weak
          else if c == '\'' then .strong
          else .complete
        | .weak => if c == '\\' then .weakEscape else if c == '"' then .complete else .weak
        | .weakEscape => .weak
        | .strong => if c == '\\' then .strongEscape else if c == '\'' then .complete else .strong
        | .strongEscape => .strong
        | .comment => .comment
      if next == .comment then (pos, .comment)
      else if rest.isEmpty then (pos, next)
      else go (pos + 1) next rest
  go 0 start cs

def physicalLines (cs : List Char) : List (List Char) :=
  let rec go : List Char → List Char → List (List Char)
    | [], acc => if acc.isEmpty then [] else [acc.reverse]
    | c :: rest, acc => if c == '\n' then (c :: acc).reverse :: go rest [] else go rest (c :: acc)
  go cs []

def dropBreak (cs : List Char) : List Char :=
  match cs.reverse with
  | '\n' :: '\r' :: rest => rest.reverse
  | '\n' :: rest => rest.reverse
  | _ => cs

def logicalLines (cs : List Char) : List (Option (List Char)) :=
  let rec go : List (List Char) → List Char → LineState → List (Option (List Char))
    | [], buf, st => if st == .complete && buf.isEmpty then [] else [none]
    | line :: rest, buf, st =>
      let joined := buf ++ line
      if (joined.dropWhile Text.isBlank).head? == some '#' then some [] :: go rest [] .complete
      else
        let (pos, st') := endState st line
        match st' with
        | .complete => some (dropBreak joined) :: go rest [] .complete
        | .comment => some (joined.take (buf.length + pos)) :: go rest [] .complete
        | _ => go rest joined st'
  go (physicalLines cs) [] .complete

/-- How a `$` substitution is being read: a bare name or a braced one. -/
inductive Substitution where
  | none | bare | braced
  deriving Repr, BEq, Inhabited

def lookup (env : Environment) (earlier : List (String × Option String)) (name : String) :
    String :=
  match env.get? name with
  | some v => v
  | none => ((earlier.find? (·.1 == name)).bind (·.2)).getD ""

/-- The state of reading a value. -/
structure ValueState where
  strong : Bool
  weak : Bool
  escaped : Bool
  expectingEnd : Bool
  out : List Char
  mode : Substitution
  name : List Char
  deriving Inhabited

def parseValue (env : Environment) (earlier : List (String × Option String)) (cs : List Char) :
    Option String :=
  let subst (s : ValueState) : ValueState :=
    { s with out := s.out ++ (lookup env earlier (String.ofList s.name)).toList, name := [] }
  let rec go : ValueState → List Char → Option ValueState
    | s, [] => some s
    | s, c :: rest =>
      if s.expectingEnd then
        if c == ' ' || c == '\t' then go s rest
        else if c == '#' then some s
        else none
      else if s.escaped then
        if c == '\\' || c == '\'' || c == '"' || c == '$' || c == ' ' then
          go { s with out := s.out ++ [c], escaped := false } rest
        else if c == 'n' then go { s with out := s.out ++ ['\n'], escaped := false } rest
        else none
      else if s.strong then
        if c == '\'' then go { s with strong := false } rest
        else go { s with out := s.out ++ [c] } rest
      else if s.mode != .none then
        if Text.isAlphanumeric c then go { s with name := s.name ++ [c] } rest
        else
          match s.mode with
          | .braced =>
            if c == '}' then go { subst s with mode := .none } rest
            else go { s with name := s.name ++ [c] } rest
          | _ =>
            if c == '{' && s.name.isEmpty then go { s with mode := .braced } rest
            else
              let s := subst s
              if c == '$' then go { s with mode := .bare } rest
              else go { s with mode := .none, out := s.out ++ [c] } rest
      else if c == '$' then go { s with mode := .bare } rest
      else if s.weak then
        if c == '"' then go { s with weak := false } rest
        else if c == '\\' then go { s with escaped := true } rest
        else go { s with out := s.out ++ [c] } rest
      else if c == '\'' then go { s with strong := true } rest
      else if c == '"' then go { s with weak := true } rest
      else if c == '\\' then go { s with escaped := true } rest
      else if c == ' ' || c == '\t' then go { s with expectingEnd := true } rest
      else go { s with out := s.out ++ [c] } rest
  match go ⟨false, false, false, false, [], .none, []⟩ cs with
  | none => none
  | some s =>
    if s.mode == .braced || s.strong || s.weak then none
    else some (String.ofList (subst s).out)

def parseKey (cs : List Char) : Option (String × List Char) :=
  match cs with
  | c :: _ =>
    if c.isAlpha || c == '_' then
      let key := cs.takeWhile (fun d => d.isAlphanum || d == '_' || d == '.')
      some (String.ofList key, cs.drop key.length)
    else none
  | [] => none

def parseLine (env : Environment) (earlier : List (String × Option String)) (line : List Char) :
    Option (Option (String × Option String × String)) := do
  let line := (line.reverse.dropWhile Text.isBlank).reverse
  let cs := line.dropWhile Text.isBlank
  if cs.isEmpty || cs.head? == some '#' then return none
  let (key, cs) ← parseKey cs
  let cs := cs.dropWhile Text.isBlank
  let (key, cs) ← if key == "export" && cs.head? != some '=' then do
      let (k, rest) ← parseKey cs
      let rest := rest.dropWhile Text.isBlank
      if rest.head? == some '=' then pure (k, rest.drop 1) else none
    else if cs.head? == some '=' then pure (key, cs.drop 1) else none
  let cs := cs.dropWhile Text.isBlank
  if cs.isEmpty || cs.head? == some '#' then return some (key, none, "")
  let value ← parseValue env earlier cs
  return some (key, some value, value)

end DotEnv

def Environment.loadDotEnv (env : Environment) (text : String) : Environment :=
  let rec go : List (Option (List Char)) → Environment → List (String × Option String) →
      Environment
    | [], e, _ => e
    | none :: _, e, _ => e
    | some line :: rest, e, earlier =>
      match DotEnv.parseLine e earlier line with
      | none => e
      | some none => go rest e earlier
      | some (some (key, stored, value)) =>
        go rest (e.setIfAbsent key value) (earlier ++ [(key, stored)])
  let chars := match text.toList with
    | '\uFEFF' :: rest => rest
    | cs => cs
  go (DotEnv.logicalLines chars) env []

def Environment.withDotEnv (env : Environment) (files : FileTree) (cwd : List String) :
    Environment :=
  match files.read cwd ".env" with
  | .ok text => env.loadDotEnv text
  | .error _ => env

def DotEnv.candidateNames (text : String) : List String :=
  let separator (c : Char) : Bool := Text.isBlank c || "=$\x22\x27\x7b\x7d#\\".toList.contains c
  let spaced := String.ofList (text.toList.map fun c => if separator c then ' ' else c)
  ((spaced.splitOn " ").filter (!·.isEmpty)).eraseDups

end Cli
end DatasetProposals
