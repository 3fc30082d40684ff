/-! A snapshot of the files a program may read, with paths resolved the way the system does. -/
namespace DatasetProposals

/-- Why a file could not be read. -/
inductive ReadFault where
  | notFound
  | isDirectory
  | notADirectory
  deriving Repr, DecidableEq, Inhabited

def ReadFault.message : ReadFault → String
  | .notFound => "No such file or directory (os error 2)"
  | .isDirectory => "Is a directory (os error 21)"
  | .notADirectory => "Not a directory (os error 20)"

/-- Files and empty directories, by absolute path segments. -/
structure FileTree where
  files : List (List String × String)
  directories : List (List String)
  deriving Repr, Inhabited

namespace FileTree

def empty : FileTree := ⟨[], []⟩

def resolve (cwd : List String) (path : String) : List String :=
  let start := if path.startsWith "/" then [] else cwd
  (path.splitOn "/").foldl (fun acc seg =>
    if seg.isEmpty || seg == "." then acc
    else if seg == ".." then acc.dropLast
    else acc ++ [seg]) start

def write (t : FileTree) (cwd : List String) (path text : String) : FileTree :=
  let segs := resolve cwd path
  { t with files := (t.files.filter (·.1 != segs)) ++ [(segs, text)] }

def makeDirectory (t : FileTree) (cwd : List String) (path : String) : FileTree :=
  { t with directories := t.directories ++ [resolve cwd path] }

def properPrefix (pre segs : List String) : Bool := pre.length < segs.length && segs.take pre.length == pre

def isDirectoryAt (t : FileTree) (cwd segs : List String) : Bool :=
  segs.isEmpty || segs.isPrefixOf cwd ||
    t.directories.any (fun d => d == segs || properPrefix segs d) ||
    t.files.any (fun f => properPrefix segs f.1)

def isFileAt (t : FileTree) (segs : List String) : Bool := t.files.any (·.1 == segs)

def place? (t : FileTree) (cwd : List String) (path text : String) : Option FileTree :=
  let parts := path.splitOn "/"
  let last := parts.getLastD ""
  let segs := resolve cwd path
  let onTheWay := (List.range (segs.length - cwd.length)).map fun i => segs.take (cwd.length + i)
  let chars := path.toList
  let climbs := (chars.zip chars.tail).any fun (a, b) => a == '.' && b == '.'
  if path.startsWith "/" || climbs || last.isEmpty || last == "." then none
  else if onTheWay.any t.isFileAt || t.isDirectoryAt cwd segs then none
  else some (t.write cwd path text)

def walk (t : FileTree) (cwd : List String) : List String → List String → Except ReadFault (List String)
  | here, [] => .ok here
  | here, seg :: rest =>
    if !t.isDirectoryAt cwd here then
      .error (if t.isFileAt here then .notADirectory else .notFound)
    else if seg.isEmpty || seg == "." then walk t cwd here rest
    else if seg == ".." then walk t cwd here.dropLast rest
    else if t.isDirectoryAt cwd (here ++ [seg]) || t.isFileAt (here ++ [seg]) then
      walk t cwd (here ++ [seg]) rest
    else .error .notFound

def read (t : FileTree) (cwd : List String) (path : String) : Except ReadFault String :=
  if path.isEmpty then .error .notFound else
  let start := if path.startsWith "/" then [] else cwd
  match t.walk cwd start (path.splitOn "/") with
  | .error f => .error f
  | .ok segs =>
    match t.files.find? (·.1 == segs) with
    | some (_, text) => .ok text
    | none => .error .isDirectory

end FileTree

end DatasetProposals
