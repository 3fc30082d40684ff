import DatasetProposals.Catalog.Record
import DatasetProposals.Proposal.Record
import DatasetProposals.Store.Error
/-! A document store held in memory: lists in insertion order, and proposals as a map kept sorted
by key. -/
namespace DatasetProposals
open Json

/-- The seed of a document store. -/
structure SeedData where
  info : List InfoRecord
  repositories : List RepositoryRecord
  questions : List QuestionRecord
  proposals : List Proposal
  deriving Repr, Inhabited

def SeedData.empty : SeedData := ⟨[], [], [], []⟩

def SeedData.decoder : Decoder SeedData := fun d => do
  let s ← readRecord "struct SeedData"
    [FieldSpec.opt "Info" (Decoder.list InfoRecord.decoder),
     FieldSpec.opt "Repositories" (Decoder.list RepositoryRecord.decoder),
     FieldSpec.opt "Questions" (Decoder.list QuestionRecord.decoder),
     FieldSpec.opt "Proposals" (Decoder.list Proposal.decoder)] d
  return ⟨← slotValue s 0 (Decoder.list InfoRecord.decoder) [],
    ← slotValue s 1 (Decoder.list RepositoryRecord.decoder) [],
    ← slotValue s 2 (Decoder.list QuestionRecord.decoder) [],
    ← slotValue s 3 (Decoder.list Proposal.decoder) []⟩

abbrev ProposalMap := List Proposal

namespace ProposalMap

def find? (m : ProposalMap) (k : ProposalKey) : Option Proposal := List.find? (·.key == k) m

def put (p : Proposal) : ProposalMap → ProposalMap
  | [] => [p]
  | q :: rest =>
    if ProposalKey.lt p.key q.key then p :: q :: rest
    else if p.key == q.key then p :: rest
    else q :: put p rest

def erase (m : ProposalMap) (k : ProposalKey) : ProposalMap := List.filter (fun p => !(p.key == k)) m

def ofList (ps : List Proposal) : ProposalMap := ps.foldl (fun m p => put p m) []

end ProposalMap

/-- The collections of an in-memory document store. -/
structure MemoryStore where
  info : List InfoRecord
  repositories : List RepositoryRecord
  questions : List QuestionRecord
  proposals : ProposalMap
  deriving Repr, Inhabited

namespace MemoryStore

def empty : MemoryStore := ⟨[], [], [], []⟩

def ofSeed (seed : SeedData) : MemoryStore :=
  ⟨seed.info, seed.repositories, seed.questions, ProposalMap.ofList seed.proposals⟩

def single (collection key : String) : List α → Except StorageError α
  | [a] => .ok a
  | [] => .error (.notFound collection key)
  | many => .error (.ambiguous collection key many.length)

def repository (s : MemoryStore) (org : String) : Except StorageError RepositoryRecord :=
  single "repository" org (s.repositories.filter (·.organizationNodeId == org))

def proposal (s : MemoryStore) (userId : Int) (nodeId : String) : Except StorageError Proposal :=
  match s.proposals.find? ⟨userId, nodeId⟩ with
  | some p => .ok p
  | none => .error (StorageError.proposalNotFound userId nodeId)

def proposalsForUser (s : MemoryStore) (userId : Int) : List Proposal :=
  s.proposals.filter (·.userId == userId)

def proposalsForWorkspace (s : MemoryStore) (org : String) (status : Status) : List Proposal :=
  s.proposals.filter (fun p => p.organizationNodeId == org && p.status == status)

def repositoryLookupKey (repositoryId : Int) (status : Status) (nodeId : String) : String :=
  toString repositoryId ++ "/" ++ status.name ++ "/" ++ nodeId

def proposalForRepository (s : MemoryStore) (repositoryId : Int) (status : Status)
    (nodeId : String) : Except StorageError Proposal :=
  single "dataset proposal" (repositoryLookupKey repositoryId status nodeId)
    (s.proposals.filter (fun p => p.repositoryId == repositoryId && p.status == status &&
      p.nodeId == nodeId))

def create (s : MemoryStore) (p : Proposal) : Except StorageError MemoryStore :=
  match s.proposals.find? p.key with
  | some _ => .error (.alreadyExists p.userId p.nodeId)
  | none => .ok { s with proposals := s.proposals.put p }

def update (s : MemoryStore) (p : Proposal) : Except StorageError MemoryStore :=
  match s.proposals.find? p.key with
  | some _ => .ok { s with proposals := s.proposals.put p }
  | none => .error (StorageError.proposalNotFound p.userId p.nodeId)

def updateIf (s : MemoryStore) (p : Proposal) (expected : Status) :
    Except StorageError MemoryStore :=
  match s.proposals.find? p.key with
  | none => .error (StorageError.proposalNotFound p.userId p.nodeId)
  | some stored =>
    if stored.status == expected then .ok { s with proposals := s.proposals.put p }
    else .error (.conflict p.userId p.nodeId expected)

def delete (s : MemoryStore) (k : ProposalKey) : MemoryStore :=
  { s with proposals := s.proposals.erase k }

end MemoryStore

end DatasetProposals
