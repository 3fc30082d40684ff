import DatasetProposals.Json.Decode
import DatasetProposals.Text.Blank
/-! The directory's records: users, organizations (workspaces), datasets, and the members of
workspace publishing teams. -/
namespace DatasetProposals
open Json

/-- A user of the platform. -/
structure User where
  id : Int
  nodeId : String
  firstName : String
  lastName : String
  email : String
  deriving Repr, BEq, Inhabited

/-- An organization (a workspace). -/
structure Organization where
  id : Int
  nodeId : String
  name : String
  slug : String
  deriving Repr, BEq, Inhabited

/-- A dataset. -/
structure Dataset where
  id : Int
  nodeId : String
  name : String
  deriving Repr, BEq, Inhabited

/-- One member of a workspace's publishing team. -/
structure Publisher where
  workspaceId : Int
  workspaceNodeId : String
  workspaceName : String
  teamId : Int
  teamName : String
  userId : Int
  userName : String
  emailAddress : String
  deriving Repr, BEq, Inhabited

/-- What provisioning a dataset for an accepted proposal produced. -/
structure CreatedDataset where
  user : User
  organization : Organization
  dataset : Dataset
  deriving Repr, BEq, Inhabited

def displayName (first last : String) : String := Text.trim (first ++ " " ++ last)

def User.displayName (u : User) : String := DatasetProposals.displayName u.firstName u.lastName

def User.toJson (u : User) : Json :=
  .obj [("id", .int u.id), ("node_id", .str u.nodeId), ("first_name", .str u.firstName),
    ("last_name", .str u.lastName), ("email", .str u.email)]

def Organization.toJson (o : Organization) : Json :=
  .obj [("id", .int o.id), ("node_id", .str o.nodeId), ("name", .str o.name), ("slug", .str o.slug)]

def Dataset.toJson (d : Dataset) : Json :=
  .obj [("id", .int d.id), ("node_id", .str d.nodeId), ("name", .str d.name)]

def Publisher.toJson (p : Publisher) : Json :=
  .obj [("workspace_id", .int p.workspaceId), ("workspace_node_id", .str p.workspaceNodeId),
    ("workspace_name", .str p.workspaceName), ("team_id", .int p.teamId),
    ("team_name", .str p.teamName), ("user_id", .int p.userId), ("user_name", .str p.userName),
    ("email_address", .str p.emailAddress)]

def CreatedDataset.toJson (c : CreatedDataset) : Json :=
  .obj [("user", c.user.toJson), ("organization", c.organization.toJson),
    ("dataset", c.dataset.toJson)]

def User.decoder : Decoder User := fun d => do
  let s ← readRecord "struct User"
    [FieldSpec.req "id" Decoder.int64, FieldSpec.req "node_id" Decoder.string,
     FieldSpec.req "first_name" Decoder.string, FieldSpec.req "last_name" Decoder.string,
     FieldSpec.req "email" Decoder.string] d
  return ⟨← slotValue s 0 Decoder.int64 0, ← slotValue s 1 Decoder.string "",
    ← slotValue s 2 Decoder.string "", ← slotValue s 3 Decoder.string "",
    ← slotValue s 4 Decoder.string ""⟩

def Organization.decoder : Decoder Organization := fun d => do
  let s ← readRecord "struct Organization"
    [FieldSpec.req "id" Decoder.int64, FieldSpec.req "node_id" Decoder.string,
     FieldSpec.req "name" Decoder.string, FieldSpec.req "slug" Decoder.string] d
  return ⟨← slotValue s 0 Decoder.int64 0, ← slotValue s 1 Decoder.string "",
    ← slotValue s 2 Decoder.string "", ← slotValue s 3 Decoder.string ""⟩

def Publisher.decoder : Decoder Publisher := fun d => do
  let s ← readRecord "struct Publisher"
    [FieldSpec.req "workspace_id" Decoder.int64, FieldSpec.req "workspace_node_id" Decoder.string,
     FieldSpec.req "workspace_name" Decoder.string, FieldSpec.req "team_id" Decoder.int64,
     FieldSpec.req "team_name" Decoder.string, FieldSpec.req "user_id" Decoder.int64,
     FieldSpec.req "user_name" Decoder.string, FieldSpec.req "email_address" Decoder.string] d
  return ⟨← slotValue s 0 Decoder.int64 0, ← slotValue s 1 Decoder.string "",
    ← slotValue s 2 Decoder.string "", ← slotValue s 3 Decoder.int64 0,
    ← slotValue s 4 Decoder.string "", ← slotValue s 5 Decoder.int64 0,
    ← slotValue s 6 Decoder.string "", ← slotValue s 7 Decoder.string ""⟩

/-- The seed of a directory. Every member may be absent. -/
structure DirectorySeed where
  users : List User
  organizations : List Organization
  publishers : List Publisher
  publishingOrganizationId : Int
  welcomeWorkspaceSlug : String
  deriving Repr, Inhabited

def DirectorySeed.empty : DirectorySeed := ⟨[], [], [], 0, ""⟩

def DirectorySeed.decoder : Decoder DirectorySeed := fun d => do
  let s ← readRecord "struct DirectorySeed"
    [FieldSpec.opt "users" (Decoder.list User.decoder),
     FieldSpec.opt "organizations" (Decoder.list Organization.decoder),
     FieldSpec.opt "publishers" (Decoder.list Publisher.decoder),
     FieldSpec.opt "publishing_organization_id" Decoder.int64,
     FieldSpec.opt "welcome_workspace_slug" Decoder.string] d
  return ⟨← slotValue s 0 (Decoder.list User.decoder) [],
    ← slotValue s 1 (Decoder.list Organization.decoder) [],
    ← slotValue s 2 (Decoder.list Publisher.decoder) [],
    ← slotValue s 3 Decoder.int64 0, ← slotValue s 4 Decoder.string ""⟩

end DatasetProposals
