import DatasetProposals.Proposal.Status
/-! What a document store reports when a call fails. -/
namespace DatasetProposals

/-- A failed document store call. -/
inductive StorageError where
  | notFound (collection key : String)
  | ambiguous (collection key : String) (count : Nat)
  | alreadyExists (userId : Int) (nodeId : String)
  | conflict (userId : Int) (nodeId : String) (expected : Status)
  | backend (message : String)
  deriving Repr, BEq, Inhabited

namespace StorageError

def proposalNotFound (userId : Int) (nodeId : String) : StorageError :=
  .notFound "dataset proposal" (toString userId ++ "/" ++ nodeId)

def message : StorageError → String
  | .notFound c k => c ++ " not found: " ++ k
  | .ambiguous c k n => c ++ " lookup for " ++ k ++ s!" returned {n} records, expected one"
  | .alreadyExists u n => s!"dataset proposal already exists: {u}/" ++ n
  | .conflict u n e =>
    s!"concurrent conflict on dataset proposal {u}/" ++ n ++ ": expected status " ++ e.name
  | .backend m => "storage backend error: " ++ m

def kind : StorageError → String
  | .notFound .. => "NotFound"
  | .ambiguous .. => "Ambiguous"
  | .alreadyExists .. => "AlreadyExists"
  | .conflict .. => "Conflict"
  | .backend _ => "Backend"

end StorageError

end DatasetProposals
