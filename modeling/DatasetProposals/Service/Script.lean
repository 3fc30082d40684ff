import DatasetProposals.Service.World
/-! A service operation as the sequence of atomic calls (`Op`) it makes, each chosen from the
answers of the earlier ones. -/
namespace DatasetProposals

/-- One atomic call of a service operation. -/
inductive Op where
  | publishingInfo
  | repositories
  | questions
  | repository (org : String)
  | proposal (userId : Int) (nodeId : String)
  | proposalsForUser (userId : Int)
  | proposalsForWorkspace (org : String) (status : Status)
  | proposalForRepository (repositoryId : Int) (status : Status) (nodeId : String)
  | create (p : Proposal)
  | updateIf (p : Proposal) (expected : Status)
  | delete (k : ProposalKey)
  | proposalUser (userId : Int)
  | publishingTeam (org : String)
  | welcomeWorkspace
  | provision (p : Proposal)
  | now
  | freshNodeId (pre : String)
  | settings
  | deliver (m : Email)

namespace Op

def Answer : Op → Type
  | .publishingInfo => Except StorageError (List InfoRecord)
  | .repositories => Except StorageError (List RepositoryRecord)
  | .questions => Except StorageError (List QuestionRecord)
  | .repository _ => Except StorageError RepositoryRecord
  | .proposal _ _ => Except StorageError Proposal
  | .proposalsForUser _ => Except StorageError (List Proposal)
  | .proposalsForWorkspace _ _ => Except StorageError (List Proposal)
  | .proposalForRepository _ _ _ => Except StorageError Proposal
  | .create _ | .updateIf _ _ | .delete _ => Except StorageError Unit
  | .proposalUser _ => Except DirectoryError User
  | .publishingTeam _ => Except DirectoryError (List Publisher)
  | .welcomeWorkspace => Except DirectoryError Organization
  | .provision _ => Except DirectoryError CreatedDataset
  | .now => Int
  | .freshNodeId _ => String
  | .settings => Settings
  | .deliver _ => Unit

def run : (op : Op) → Act op.Answer
  | .publishingInfo => World.publishingInfo
  | .repositories => World.repositories
  | .questions => World.questions
  | .repository org => World.repository org
  | .proposal u n => World.proposal u n
  | .proposalsForUser u => World.proposalsForUser u
  | .proposalsForWorkspace org s => World.proposalsForWorkspace org s
  | .proposalForRepository r s n => World.proposalForRepository r s n
  | .create p => World.create p
  | .updateIf p e => World.updateIf p e
  | .delete k => World.delete k
  | .proposalUser u => World.proposalUser u
  | .publishingTeam org => World.publishingTeam org
  | .welcomeWorkspace => World.welcomeWorkspace
  | .provision p => World.provision p
  | .now => World.now
  | .freshNodeId pre => World.freshNodeId pre
  | .settings => do return (← get).settings
  | .deliver m => do
    if World.finishesInTime (← get) then
      let _ ← World.send m

end Op

/-- A computation as its atomic calls: finished with a value, or a call followed by what to do
with its answer. -/
inductive Script (α : Type) where
  | done (a : α)
  | call (op : Op) (next : op.Answer → Script α)

namespace Script

def op (o : Op) : Script o.Answer := .call o .done

def bind : Script α → (α → Script β) → Script β
  | .done a, f => f a
  | .call o next, f => .call o fun b => bind (next b) f

instance : Monad Script where
  pure := .done
  bind := bind

def run : Script α → Act α
  | .done a => pure a
  | .call o next => do (next (← o.run)).run

end Script

abbrev ServiceAct := ExceptT ServiceError Script

def ServiceAct.exec (s : ServiceAct α) : Act (Except ServiceError α) := s.run.run

end DatasetProposals
