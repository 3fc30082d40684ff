import DatasetProposals.Bench.Answer
import DatasetProposals.Cli.Program
/-! The `cli` request: run the program once in a fresh working directory and answer its status,
its standard output and its standard error lines, the causes of an error left out. -/
namespace DatasetProposals
namespace Bench
open Json

def scratchDirectory : List String := ["scratch"]

def textObject (j : Json) (name : String) : Except Failure (List (String × String)) :=
  match j.get name with
  | .null => .ok []
  | .obj fs =>
    fs.mapM (fun (k, v) => match v with
      | .str s => .ok (k, s)
      | _ => .error (.badInput ("field " ++ name)))
  | _ => .error (.badInput ("field " ++ name))

def holdsNul (s : String) : Bool := s.toList.contains (Char.ofNat 0)

def startable (args : List String) (env : List (String × String)) : Bool :=
  !(args.any holdsNul || env.any fun (k, v) => holdsNul k || holdsNul v)

def requestFiles (j : Json) : Except Failure FileTree := do
  let files ← textObject j "files"
  let tree ← files.foldlM (fun t (path, text) =>
    match (if holdsNul path then none else t.place? scratchDirectory path text) with
    | some t => .ok t
    | none => .error (.badInput "files")) FileTree.empty
  match ← maybe j "dotenv" Decoder.string with
  | some text => return tree.write scratchDirectory ".env" text
  | none => return tree

def readInvocation (j : Json) (args : List String) : Except Failure Cli.Invocation := do
  let files ← requestFiles j
  let env ← textObject j "env"
  if !startable args env then throw (.badInput "spawn")
  return ⟨args, Cli.Environment.ofGiven env, files, scratchDirectory⟩

/-! Standard error as answered. The text is taken line by line and cut before the first line
that starts the causes of an error. Of each line left, colour codes are removed, then a time
(the first word ending in `Z` before a blank, and all before it); a JSON log line loses its
time instead. A log line written as text is shown here without its time already. -/

def inCodeRange (low high : Nat) (c : Char) : Bool := low ≤ c.toNat && c.toNat ≤ high

def stripColour : List Char → List Char
  | [] => []
  | '\x1b' :: '[' :: rest =>
    let params := rest.takeWhile (inCodeRange 0x30 0x3F)
    let middle := (rest.drop params.length).takeWhile (inCodeRange 0x20 0x2F)
    match _h : rest.drop (params.length + middle.length) with
    | c :: more => if inCodeRange 0x40 0x7E c then stripColour more else stripColour (c :: more)
    | [] => []
  | c :: rest => c :: stripColour rest
termination_by cs => cs.length
decreasing_by
  all_goals simp only [List.length_cons]
  all_goals first
    | omega
    | (have hl := congrArg List.length _h
       simp only [List.length_drop, List.length_cons] at hl
       omega)

def afterTime : List Char → Option (List Char)
  | [] => none
  | c :: rest =>
    match rest with
    | 'Z' :: b :: more => if !Text.isBlank c && Text.isBlank b then some more else afterTime rest
    | _ => afterTime rest

def timedObject? (s : String) : Option Json :=
  match Doc.ofText s with
  | (doc, none) =>
    match doc.toJson? with
    | some j =>
      match j.canonical with
      | .obj fs => if fs.any (·.1 == "timestamp") then some (.obj (fs.filter (·.1 != "timestamp"))) else none
      | _ => none
    | none => none
  | _ => none

def answerLine (line : String) : Json :=
  let cs := stripColour line.toList
  let plain := String.ofList cs
  match timedObject? plain with
  | some o => o
  | none => .str (String.ofList ((afterTime cs).getD cs))

def textLines (s : String) : List String :=
  (s.splitOn "\n").map fun l => if l.endsWith "\r" then String.ofList l.toList.dropLast else l

def startsCauses : Cli.ErrLine → Bool
  | .text s => let t := Text.trimEnd s; t == "Caused by:" || t == "Stack backtrace:"
  | _ => false

def eventLines (s : String) : List Cli.ErrLine :=
  match textLines s with
  | first :: more => .event first :: more.map Cli.ErrLine.text
  | [] => []

def errLines (lines : List Cli.ErrLine) : List Json :=
  let written := lines.flatMap fun l => match l with
    | .text s => (textLines s).map Cli.ErrLine.text
    | .event s => eventLines s
    | .json o => [.json o]
  let answered := (written.takeWhile (!startsCauses ·)).map fun l => match l with
    | .text s => answerLine s
    | .event s => .str s
    | .json o => o
  let isEmpty : Json → Bool
    | .str s => s.isEmpty
    | _ => false
  (answered.reverse.dropWhile isEmpty).reverse

def runCommandLine (j : Json) : Outcome := do
  let args ← need j "args" (Decoder.list Decoder.string)
  let inv ← readInvocation j args
  match Cli.run inv ⟨none, none, false⟩ 0 with
  | .exited e =>
    return .obj [("status", .int e.status), ("stdout", .str e.stdout), ("stderr", .arr (errLines e.stderr))]
  | .serving _ _ => throw .hung

end Bench
end DatasetProposals
