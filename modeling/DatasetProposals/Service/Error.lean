import DatasetProposals.Store.Error
import DatasetProposals.Directory.Error
/-! What a service operation reports when it fails. Every error names the operation, which
opens its message. Store and directory errors are translated into service errors by
`ofStorage` and `ofDirectory`. -/
namespace DatasetProposals

/-- A failed service operation. -/
inductive ServiceError where
  | notFound (operation what : String)
  | ambiguous (operation what : String) (count : Nat)
  | invalidState (operation nodeId reason : String)
  | validation (operation message : String)
  | external (operation : String) (source : DirectoryError)
  | store (operation message : String)
  | conflict (operation nodeId : String)
  | timeout (operation : String)
  deriving Repr, BEq, Inhabited

namespace ServiceError

def operation : ServiceError → String
  | .notFound o _ | .ambiguous o _ _ | .invalidState o _ _ | .validation o _
  | .external o _ | .store o _ | .conflict o _ | .timeout o => o

def message : ServiceError → String
  | .notFound o w => o ++ ": " ++ w ++ " not found"
  | .ambiguous o w n => o ++ ": " ++ w ++ s!" matched {n} records"
  | .invalidState o n r => o ++ ": proposal " ++ n ++ " " ++ r
  | .validation o m => o ++ ": " ++ m
  | .external o s => o ++ ": external operation failed: " ++ s.message
  | .store o m => o ++ ": store error: " ++ m
  | .conflict o n => o ++ ": proposal " ++ n ++ " was modified concurrently"
  | .timeout o => o ++ ": timed out"

def kind : ServiceError → String
  | .notFound .. => "NotFound"
  | .ambiguous .. => "AmbiguousResult"
  | .invalidState .. => "InvalidState"
  | .validation .. => "Validation"
  | .external .. => "ExternalOperation"
  | .store .. => "Store"
  | .conflict .. => "Conflict"
  | .timeout _ => "Timeout"

def isClientError : ServiceError → Bool
  | .invalidState .. | .validation .. => true
  | _ => false

def wrongStatus (operation nodeId : String) (actual expected : Status) : ServiceError :=
  .invalidState operation nodeId ("is " ++ actual.name ++ ", expected " ++ expected.name)

def ofStorage (operation : String) : StorageError → ServiceError
  | .notFound c k => .notFound operation (c ++ " " ++ k)
  | .ambiguous c k n => .ambiguous operation (c ++ " " ++ k) n
  | .conflict _ n _ => .conflict operation n
  | .alreadyExists _ n => .conflict operation n
  | .backend m => .store operation m

def ofDirectory (operation : String) : DirectoryError → ServiceError
  | .userNotFound u => .notFound operation s!"user {u}"
  | .organizationNotFound k => .notFound operation ("organization " ++ k)
  | e => .store operation e.message

end ServiceError

end DatasetProposals
