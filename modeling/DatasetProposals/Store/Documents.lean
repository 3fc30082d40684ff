import DatasetProposals.Store.Database
import DatasetProposals.Store.Error
import DatasetProposals.Catalog.Record
import DatasetProposals.Proposal.Record
/-! A document store kept in a document database, one collection per kind of record, written
against the commands of `DocumentDatabase`. -/
namespace DatasetProposals
open Json

def infoCollection : String := "publishing_info"
def repositoryCollection : String := "publishing_repositories"
def questionCollection : String := "publishing_questions"
def proposalCollection : String := "dataset_proposals"

abbrev DocumentCall (σ : Type) := StateM σ

namespace Documents
variable {σ : Type} (db : DocumentDatabase σ)

def members : Json → List (String × Json)
  | .obj fs => fs
  | _ => []

def backendIn (context : String) (f : CommandFailure) : StorageError :=
  .backend (context ++ ": " ++ f.message)

def storedUnexpected : Unexpected → Unexpected
  | .null => .unit
  | .float x => .double x
  | u => u

def storedFault : Fault → Fault
  | .invalidType u e => .invalidType (storedUnexpected u) e
  | .invalidValue u e => .invalidValue (storedUnexpected u) e
  | f => f

def read (d : Decoder α) (doc : List (String × Json)) : Except String α :=
  match d (Doc.ofJson (.obj doc)) with
  | .ok a => .ok a
  | .error e => .error ("Kind: " ++ (storedFault e.fault).message)

def findAll (collection : String) (filter : List (String × Json)) (d : Decoder α) :
    DocumentCall σ (Except StorageError (List α)) := do
  match ← modifyGet (db.find · collection filter none) with
  | .error f => return .error (backendIn ("find in " ++ collection) f)
  | .ok docs => return (docs.mapM (read d)).mapError fun m => .backend ("read from " ++ collection ++ ": " ++ m)

def findSingle (collection : String) (filter : List (String × Json)) (kind key : String)
    (d : Decoder α) : DocumentCall σ (Except StorageError α) := do
  match ← findAll db collection filter d with
  | .error e => return .error e
  | .ok [a] => return .ok a
  | .ok [] => return .error (.notFound kind key)
  | .ok many => return .error (.ambiguous kind key many.length)

def keyFilter (userId : Int) (nodeId : String) : List (String × Json) :=
  [("UserId", .int userId), ("NodeId", .str nodeId)]

def publishingInfo : DocumentCall σ (Except StorageError (List InfoRecord)) :=
  findAll db infoCollection [] InfoRecord.decoder

def repositories : DocumentCall σ (Except StorageError (List RepositoryRecord)) :=
  findAll db repositoryCollection [] RepositoryRecord.decoder

def questions : DocumentCall σ (Except StorageError (List QuestionRecord)) :=
  findAll db questionCollection [] QuestionRecord.decoder

def repository (org : String) : DocumentCall σ (Except StorageError RepositoryRecord) :=
  findSingle db repositoryCollection [("OrganizationNodeId", .str org)] "repository" org
    RepositoryRecord.decoder

def proposal (userId : Int) (nodeId : String) : DocumentCall σ (Except StorageError Proposal) := do
  match ← modifyGet (db.find · proposalCollection (keyFilter userId nodeId) (some 1)) with
  | .error f => return .error (backendIn "get dataset proposal" f)
  | .ok [] => return .error (StorageError.proposalNotFound userId nodeId)
  | .ok (doc :: _) =>
    return (read Proposal.storedDecoder doc).mapError fun m => .backend ("get dataset proposal: " ++ m)

def proposalsForUser (userId : Int) : DocumentCall σ (Except StorageError (List Proposal)) :=
  findAll db proposalCollection [("UserId", .int userId)] Proposal.storedDecoder

def proposalsForWorkspace (org : String) (status : Status) :
    DocumentCall σ (Except StorageError (List Proposal)) :=
  findAll db proposalCollection [("OrganizationNodeId", .str org), ("ProposalStatus", .str status.name)]
    Proposal.storedDecoder

def proposalForRepository (repositoryId : Int) (status : Status) (nodeId : String) :
    DocumentCall σ (Except StorageError Proposal) :=
  findSingle db proposalCollection
    [("RepositoryId", .int repositoryId), ("ProposalStatus", .str status.name), ("NodeId", .str nodeId)]
    "dataset proposal" (toString repositoryId ++ "/" ++ status.name ++ "/" ++ nodeId) Proposal.storedDecoder

def create (p : Proposal) : DocumentCall σ (Except StorageError Unit) := do
  match ← modifyGet (db.insert · proposalCollection (members p.toJson)) with
  | .ok () => return .ok ()
  | .error f =>
    if f.isDuplicateKey then return .error (.alreadyExists p.userId p.nodeId)
    else return .error (backendIn "create dataset proposal" f)

def update (p : Proposal) : DocumentCall σ (Except StorageError Unit) := do
  match ← modifyGet (db.replaceOne · proposalCollection (keyFilter p.userId p.nodeId) (members p.toJson)) with
  | .error f => return .error (backendIn "update dataset proposal" f)
  | .ok 0 => return .error (StorageError.proposalNotFound p.userId p.nodeId)
  | .ok _ => return .ok ()

def updateIf (p : Proposal) (expected : Status) : DocumentCall σ (Except StorageError Unit) := do
  let filter := keyFilter p.userId p.nodeId ++ [("ProposalStatus", .str expected.name)]
  match ← modifyGet (db.replaceOne · proposalCollection filter (members p.toJson)) with
  | .error f => return .error (backendIn "conditional update of dataset proposal" f)
  | .ok 1 => return .ok ()
  | .ok _ =>
    match ← proposal db p.userId p.nodeId with
    | .error e => return .error e
    | .ok _ => return .error (.conflict p.userId p.nodeId expected)

def delete (k : ProposalKey) : DocumentCall σ (Except StorageError Unit) := do
  match ← modifyGet (db.deleteOne · proposalCollection (keyFilter k.userId k.nodeId)) with
  | .error f => return .error (backendIn "delete dataset proposal" f)
  | .ok () => return .ok ()

def proposalIndexes : List Index :=
  [⟨[("UserId", 1), ("NodeId", 1)], true⟩, ⟨[("RepositoryId", 1), ("ProposalStatus", 1)], false⟩,
   ⟨[("OrganizationNodeId", 1), ("ProposalStatus", 1)], false⟩]

def connect : DocumentCall σ (Except StorageError Unit) := do
  match ← modifyGet db.ping with
  | .error f => return .error (backendIn "ping" f)
  | .ok () =>
  match ← modifyGet (db.createIndexes · proposalCollection proposalIndexes) with
  | .error f => return .error (backendIn "create proposal indexes" f)
  | .ok () =>
  match ← modifyGet (db.createIndexes · repositoryCollection [⟨[("OrganizationNodeId", 1)], false⟩]) with
  | .error f => return .error (backendIn "create repository index" f)
  | .ok () => return .ok ()

end Documents

end DatasetProposals
