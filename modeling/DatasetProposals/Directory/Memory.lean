import DatasetProposals.Directory.Record
import DatasetProposals.Directory.Error
import DatasetProposals.Proposal.Record
/-! A directory held in memory. Provisioning runs its nine steps on a copy of the directory and
keeps the copy only if every step succeeds. -/
namespace DatasetProposals

/-- The tables of an in-memory directory, and its two settings. -/
structure MemoryDirectory where
  users : List User
  organizations : List Organization
  publishers : List Publisher
  memberships : List (Int × Int)
  datasets : List Dataset
  contributors : List (Int × Int)
  datasetContributors : List (Int × Int)
  datasetOwners : List (Int × Int)
  lastId : Int
  publishingOrganizationId : Int
  welcomeSlug : String
  failAt : Option ProvisionStep
  deriving Repr, Inhabited

namespace MemoryDirectory

def ofSeed (seed : DirectorySeed) : MemoryDirectory :=
  ⟨seed.users, seed.organizations, seed.publishers, [], [], [], [], [], 0,
   seed.publishingOrganizationId, seed.welcomeWorkspaceSlug, none⟩

def empty : MemoryDirectory := ofSeed DirectorySeed.empty

def addPair (s : List (Int × Int)) (p : Int × Int) : List (Int × Int) :=
  if s.contains p then s else s ++ [p]

def proposalUser (d : MemoryDirectory) (userId : Int) : Except DirectoryError User :=
  match d.users.find? (·.id == userId) with
  | some u => .ok u
  | none => .error (.userNotFound userId)

def repositoryWorkspace (d : MemoryDirectory) (org : String) : Except DirectoryError Organization :=
  match d.organizations.find? (·.nodeId == org) with
  | some o => .ok o
  | none => .error (.organizationNotFound org)

def publishingTeam (d : MemoryDirectory) (org : String) : List Publisher :=
  d.publishers.filter (·.workspaceNodeId == org)

def welcomeWorkspace (d : MemoryDirectory) : Except DirectoryError Organization :=
  match d.organizations.find? (·.slug == d.welcomeSlug) with
  | some o => .ok o
  | none => .error (.organizationNotFound d.welcomeSlug)

def isMember (d : MemoryDirectory) (organizationId userId : Int) : Bool :=
  d.memberships.contains (organizationId, userId)

def isOwner (d : MemoryDirectory) (datasetId userId : Int) : Bool :=
  d.datasetOwners.contains (datasetId, userId)

def check (d : MemoryDirectory) (step : ProvisionStep) : Except DirectoryError Unit :=
  if d.failAt == some step then .error (.stepFailed step "injected failure") else .ok ()

def provision (d : MemoryDirectory) (p : Proposal) (datasetNodeId : String) :
    Except DirectoryError (CreatedDataset × MemoryDirectory) := do
  d.check .resolveUser
  let user ← match d.users.find? (·.id == p.userId) with
    | some u => pure u
    | none => throw (.stepFailed .resolveUser s!"user {p.userId} does not exist")
  d.check .resolveOrganization
  let org ← match d.organizations.find? (·.id == d.publishingOrganizationId) with
    | some o => pure o
    | none => throw (.stepFailed .resolveOrganization
        s!"organization {d.publishingOrganizationId} does not exist")
  d.check .addGuestMembership
  let d := { d with memberships := addPair d.memberships (org.id, user.id) }
  d.check .resolveDatasetStatus
  d.check .resolveDataUseAgreement
  d.check .createDataset
  let datasetId := d.lastId + 1
  let dataset : Dataset := ⟨datasetId, datasetNodeId, p.name⟩
  let d := { d with lastId := datasetId, datasets := d.datasets ++ [dataset] }
  d.check .addContributor
  let (contributorId, d) :=
    match d.contributors.find? (·.2 == user.id) with
    | some (cid, _) => (cid, d)
    | none =>
      let cid := d.lastId + 1
      (cid, { d with lastId := cid, contributors := d.contributors ++ [(cid, user.id)] })
  d.check .attachContributor
  let d := { d with datasetContributors := addPair d.datasetContributors (datasetId, contributorId) }
  d.check .addOwner
  let d := { d with datasetOwners := addPair d.datasetOwners (datasetId, user.id) }
  return (⟨user, org, dataset⟩, d)

end MemoryDirectory

end DatasetProposals
