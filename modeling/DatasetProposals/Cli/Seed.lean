import DatasetProposals.Store.Memory
import DatasetProposals.Directory.Record
import DatasetProposals.FileTree
/-! The seed file of the in-memory backends: the catalog and proposal `documents` and the
`directory`, both optional. -/
namespace DatasetProposals
open Json

/-- The data the in-memory backends start from. -/
structure Seed where
  documents : SeedData
  directory : DirectorySeed
  deriving Repr, Inhabited

namespace Seed

def empty : Seed := ⟨SeedData.empty, DirectorySeed.empty⟩

def decoder : Decoder Seed := fun d => do
  let s ← readRecord "struct Seed"
    [FieldSpec.opt "documents" SeedData.decoder, FieldSpec.opt "directory" DirectorySeed.decoder] d
  return ⟨← slotValue s 0 SeedData.decoder SeedData.empty,
    ← slotValue s 1 DirectorySeed.decoder DirectorySeed.empty⟩

end Seed

def Json.Decoder.ofText {α : Type} (d : Decoder α) (text : String) : Except String α :=
  let (doc, trailing) := Doc.ofText text
  match d doc with
  | .error e => .error (e.textMessage text)
  | .ok v =>
    match trailing with
    | some e => .error ((DecodeError.mk (.malformed e.code) [] e.offset).textMessage text)
    | none => .ok v

/-- Why a seed file could not be loaded. -/
inductive SeedError where
  | read (path : String) (fault : ReadFault)
  | parse (path : String) (message : String)
  deriving Repr, Inhabited

def SeedError.message : SeedError → String
  | .read path fault => "failed to read seed " ++ path ++ ": " ++ fault.message
  | .parse path message => "failed to parse seed " ++ path ++ ": " ++ message

def SeedError.cause : SeedError → String
  | .read _ fault => fault.message
  | .parse _ message => message

def Seed.load (files : FileTree) (cwd : List String) (path : String) : Except SeedError Seed :=
  match files.read cwd path with
  | .error f => .error (.read path f)
  | .ok text =>
    match Seed.decoder.ofText text with
    | .ok s => .ok s
    | .error m => .error (.parse path m)

end DatasetProposals
