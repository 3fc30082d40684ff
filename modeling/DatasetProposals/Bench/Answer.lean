import DatasetProposals.Service.Error
import DatasetProposals.Notify.Notifier
import DatasetProposals.Json.Decode
import DatasetProposals.Store.DocumentServer
import DatasetProposals.Text.Search
/-! Answers of the request bench: `{"ok": value}`, or an error object naming the error's kind
and message. A service error also says whether the caller caused it, and, when asked, which
operation failed; a directory error says which provisioning step failed, if any. -/
namespace DatasetProposals
namespace Bench
open Json

/-- Why a request could not be answered with a value. -/
inductive Failure where
  | badInput (message : String)
  | unknownStatus (text : String)
  | storage (e : StorageError)
  | directory (e : DirectoryError)
  | service (e : ServiceError)
  | notify (e : NotifyError)
  | hung
  deriving Repr, Inhabited

def Failure.toJson (detail : Bool) : Failure → Json
  | .badInput m => .obj [("error", .str "BadInput"), ("message", .str m)]
  | .unknownStatus s => .obj [("error", .str "UnknownStatus"), ("message", .str (Status.unknownMessage s))]
  | .storage e => .obj [("error", .str e.kind), ("message", .str e.message)]
  | .directory e =>
    .obj [("error", .str e.kind), ("message", .str e.message),
      ("failed_step", match e.failedStep? with
        | some s => .str s.name
        | none => .null)]
  | .service e =>
    .obj ([("error", .str e.kind), ("message", .str e.message),
      ("client_error", .bool e.isClientError)] ++
      (if detail then [("operation", .str e.operation)] else []))
  | .notify e => .obj [("error", .str e.kind), ("message", .str e.message)]
  | .hung => .obj [("error", .str "Hung")]

def withoutLabels (s : String) : String := Text.cutBefore s labelsTail

mutual
def dropLabels : Json → Json
  | .str s => .str (withoutLabels s)
  | .arr xs => .arr (dropLabelsItems xs)
  | .obj fs => .obj (dropLabelsFields fs)
  | j => j

def dropLabelsItems : List Json → List Json
  | [] => []
  | x :: xs => dropLabels x :: dropLabelsItems xs

def dropLabelsFields : List (String × Json) → List (String × Json)
  | [] => []
  | (k, v) :: fs => (k, dropLabels v) :: dropLabelsFields fs
end

def answer (detail : Bool) : Except Failure Json → Json
  | .ok v => .obj [("ok", v)]
  | .error f => f.toJson detail

abbrev Outcome := Except Failure Json

def need (j : Json) (name : String) (d : Decoder α) : Except Failure α :=
  match d (Doc.ofJson (j.get name)) with
  | .ok a => .ok a
  | .error _ => .error (.badInput ("field " ++ name))

def maybe (j : Json) (name : String) (d : Decoder α) : Except Failure (Option α) :=
  match j.get name with
  | .null => .ok none
  | _ => (need j name d).map some

def orDefault (j : Json) (name : String) (d : Decoder α) (default : α) : Except Failure α :=
  (maybe j name d).map (·.getD default)

def needStatus (j : Json) (name : String) : Except Failure Status := do
  let s ← need j name Decoder.string
  match Status.parse? s with
  | some st => return st
  | none => throw (.unknownStatus s)

end Bench
end DatasetProposals
