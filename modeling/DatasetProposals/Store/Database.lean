import DatasetProposals.Json.Text
import DatasetProposals.Json.Decode
/-! The commands a document store sends to its database and what they answer. A filter is
equality on top-level members, numbers compared by value. -/
namespace DatasetProposals
open Json

/-- How a command failed. -/
inductive CommandFailure where
  | command (code : Int) (message : String)
  | write (code : Int) (message : String)
  deriving Repr, BEq, Inhabited

def labelsTail : String := ", labels: \x7b\x7d"

def duplicateKeyCode : Int := 11000

namespace CommandFailure

def description : CommandFailure → String
  | .command code m => "Command failed: Error code " ++ toString code ++ " (Injected): " ++ m
  | .write code m =>
    "An error occurred when trying to execute a write operation: WriteError(WriteError \x7b code: " ++
      toString code ++ ", code_name: None, message: " ++ debugQuote m ++ ", details: None \x7d)"

def message (f : CommandFailure) : String := "Kind: " ++ f.description ++ labelsTail

def isDuplicateKey : CommandFailure → Bool
  | .write code _ => code == duplicateKeyCode
  | _ => false

end CommandFailure

/-- An index: its keys with their directions, and whether it is unique. -/
structure Index where
  keys : List (String × Int)
  unique : Bool
  deriving Repr, Inhabited

def Index.name (ix : Index) : String :=
  "_".intercalate (ix.keys.map fun (k, d) => k ++ "_" ++ toString d)

def sameValue (a b : Json) : Bool := (Json.sameNumber? a b).getD (a == b)

def matchesFilter (filter : List (String × Json)) (doc : List (String × Json)) : Bool :=
  filter.all fun (k, v) =>
    match doc.find? (·.1 == k) with
    | some (_, w) => sameValue v w
    | none => v == .null

/-- A document database whose states are `σ`: each command answers and leaves the next state. -/
structure DocumentDatabase (σ : Type) where
  find : σ → String → List (String × Json) → Option Nat →
    Except CommandFailure (List (List (String × Json))) × σ
  insert : σ → String → List (String × Json) → Except CommandFailure Unit × σ
  replaceOne : σ → String → List (String × Json) → List (String × Json) → Except CommandFailure Nat × σ
  deleteOne : σ → String → List (String × Json) → Except CommandFailure Unit × σ
  createIndexes : σ → String → List Index → Except CommandFailure Unit × σ
  ping : σ → Except CommandFailure Unit × σ

end DatasetProposals
