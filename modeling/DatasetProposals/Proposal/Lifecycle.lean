import DatasetProposals.Proposal.Record
/-! The proposal state machine: submit takes DRAFT to SUBMITTED; withdraw, accept and reject take
SUBMITTED to their terminal statuses. -/
namespace DatasetProposals

/-- A status-changing operation on a proposal. -/
inductive Transition where
  | submit
  | withdraw
  | accept
  | reject
  deriving Repr, DecidableEq, Inhabited

namespace Transition

def all : List Transition := [.submit, .withdraw, .accept, .reject]

def name : Transition → String
  | .submit => "submit"
  | .withdraw => "withdraw"
  | .accept => "accept"
  | .reject => "reject"

def ofName? (s : String) : Option Transition := all.find? (·.name == s)

def source : Transition → Status
  | .submit => .draft
  | .withdraw | .accept | .reject => .submitted

def target : Transition → Status
  | .submit => .submitted
  | .withdraw => .withdrawn
  | .accept => .accepted
  | .reject => .rejected

def operation : Transition → String
  | .submit => "submit dataset proposal"
  | .withdraw => "withdraw dataset proposal"
  | .accept => "accept dataset proposal"
  | .reject => "reject dataset proposal"

def between (a b : Status) : Option Transition :=
  all.find? (fun t => t.source == a && t.target == b)

def display (t : Transition) : String := t.source.name ++ " -> " ++ t.target.name

def apply (t : Transition) (p : Proposal) (now : Int) : Proposal :=
  let keep (stamp : Int) := if stamp == 0 then now else stamp
  let p := { p with status := t.target, updatedAt := now }
  match t with
  | .submit => { p with submittedAt := keep p.submittedAt }
  | .withdraw => { p with withdrawnAt := keep p.withdrawnAt }
  | .accept => { p with acceptedAt := keep p.acceptedAt }
  | .reject => { p with rejectedAt := keep p.rejectedAt }

end Transition

def missingQuestions (required : List Int) (answered : List Int) : List Int :=
  let rec go : List Int → List Int → List Int
    | [], _ => []
    | q :: rest, seen =>
      if answered.contains q || seen.contains q then go rest seen
      else q :: go rest (q :: seen)
  go required []

def stamp (now previous : Int) : Int := max now previous

end DatasetProposals
