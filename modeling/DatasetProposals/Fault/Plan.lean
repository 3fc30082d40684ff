import DatasetProposals.Proposal.Status
import DatasetProposals.Directory.Error
/-! Fault plans: rules that make selected calls to a backend fail or misbehave, counted per method
over the life of the plan. -/
namespace DatasetProposals

/-- The methods of a document store. -/
inductive StoreMethod where
  | publishingInfo
  | repositories
  | repository
  | questions
  | proposal
  | proposalsForUser
  | proposalsForWorkspace
  | proposalForRepository
  | create
  | update
  | updateIf
  | delete
  deriving Repr, DecidableEq, Inhabited

namespace StoreMethod

def all : List StoreMethod :=
  [.publishingInfo, .repositories, .repository, .questions, .proposal, .proposalsForUser,
   .proposalsForWorkspace, .proposalForRepository, .create, .update, .updateIf, .delete]

def name : StoreMethod → String
  | .publishingInfo => "get_publishing_info"
  | .repositories => "get_repositories"
  | .repository => "get_repository"
  | .questions => "get_questions"
  | .proposal => "get_dataset_proposal"
  | .proposalsForUser => "get_dataset_proposals_for_user"
  | .proposalsForWorkspace => "get_dataset_proposals_for_workspace"
  | .proposalForRepository => "get_dataset_proposal_for_repository"
  | .create => "create_dataset_proposal"
  | .update => "update_dataset_proposal"
  | .updateIf => "update_dataset_proposal_if"
  | .delete => "delete_dataset_proposal"

def ofName? (s : String) : Option StoreMethod := all.find? (·.name == s)

end StoreMethod

/-- What a rule does to a store call it hits. -/
inductive StoreEffect where
  | backend
  | notFound
  | conflict
  | alreadyExists
  | ambiguous
  | skip
  | unconditional
  | mangle
  | phantom
  deriving Repr, DecidableEq, Inhabited

namespace StoreEffect

def all : List StoreEffect :=
  [.backend, .notFound, .conflict, .alreadyExists, .ambiguous, .skip, .unconditional, .mangle,
   .phantom]

def name : StoreEffect → String
  | .backend => "backend"
  | .notFound => "not_found"
  | .conflict => "conflict"
  | .alreadyExists => "already_exists"
  | .ambiguous => "ambiguous"
  | .skip => "skip"
  | .unconditional => "unconditional"
  | .mangle => "mangle"
  | .phantom => "phantom"

def ofName? (s : String) : Option StoreEffect := all.find? (·.name == s)

end StoreEffect

/-- The methods of a directory. -/
inductive DirectoryMethod where
  | proposalUser
  | repositoryWorkspace
  | publishingTeam
  | welcomeWorkspace
  | provision
  deriving Repr, DecidableEq, Inhabited

namespace DirectoryMethod

def all : List DirectoryMethod :=
  [.proposalUser, .repositoryWorkspace, .publishingTeam, .welcomeWorkspace, .provision]

def name : DirectoryMethod → String
  | .proposalUser => "get_proposal_user"
  | .repositoryWorkspace => "get_repository_workspace"
  | .publishingTeam => "get_publishing_team"
  | .welcomeWorkspace => "get_welcome_workspace"
  | .provision => "create_dataset_for_accepted_proposal"

def ofName? (s : String) : Option DirectoryMethod := all.find? (·.name == s)

end DirectoryMethod

/-- What a rule does to a directory call it hits. -/
inductive DirectoryEffect where
  | backend
  | userNotFound
  | organizationNotFound
  | stepFailed
  | skip
  deriving Repr, DecidableEq, Inhabited

namespace DirectoryEffect

def all : List DirectoryEffect := [.backend, .userNotFound, .organizationNotFound, .stepFailed, .skip]

def name : DirectoryEffect → String
  | .backend => "backend"
  | .userNotFound => "user_not_found"
  | .organizationNotFound => "organization_not_found"
  | .stepFailed => "step_failed"
  | .skip => "skip"

def ofName? (s : String) : Option DirectoryEffect := all.find? (·.name == s)

end DirectoryEffect

/-- A fault rule for methods `M` with effects `E`. The optional members override what an
injected error names. -/
structure FaultRule (M E : Type) where
  method : M
  effect : E
  skip : Nat
  times : Option Nat
  userId : Option Int
  nodeId : Option String
  expected : Option Status
  step : Option ProvisionStep
  apply : Bool
  deriving Repr, Inhabited

def FaultRule.covers (r : FaultRule M E) (i : Nat) : Bool :=
  r.skip ≤ i && (match r.times with
    | some t => i < (r.skip + t) % Nat.pow 2 64
    | none => true)

/-- Rules and the number of calls seen so far per method. -/
structure FaultPlan (M E : Type) where
  rules : List (FaultRule M E)
  calls : List (M × Nat)
  deriving Repr, Inhabited

namespace FaultPlan

variable {M E : Type} [DecidableEq M]

def ofRules (rules : List (FaultRule M E)) : FaultPlan M E := ⟨rules, []⟩

def callsOf (p : FaultPlan M E) (m : M) : Nat := ((p.calls.find? (·.1 = m)).map (·.2)).getD 0

def hit (p : FaultPlan M E) (m : M) : Option (FaultRule M E) × FaultPlan M E :=
  let i := p.callsOf m
  let calls := (m, i + 1) :: p.calls.filter (fun c => !(decide (c.1 = m)))
  (p.rules.find? (fun r => decide (r.method = m) && r.covers i), { p with calls := calls })

end FaultPlan

abbrev StoreFaults := FaultPlan StoreMethod StoreEffect
abbrev DirectoryFaults := FaultPlan DirectoryMethod DirectoryEffect

end DatasetProposals
