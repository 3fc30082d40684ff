import DatasetProposals.Directory.Sql
import DatasetProposals.Directory.Record
import DatasetProposals.Directory.Error
import DatasetProposals.Proposal.Record
/-! The directory kept in a relational database; provisioning runs its nine steps in one
transaction, each failure reported as the step it belongs to. -/
namespace DatasetProposals
open Sql

/-- The directory as a database connection and its two settings. -/
structure RelationalDirectory where
  server : Server
  organizationId : Int
  welcomeSlug : String
  deriving Repr, Inhabited

abbrev Session := ExceptT DirectoryError (StateM Server)

namespace Session

def send (fail : String → DirectoryError) (sql : String) (bound : List Param) : Session Reply :=
  ExceptT.mk (modifyGet fun s =>
    let (r, s') := s.execute sql bound
    (r.mapError fail, s'))

def decode (fail : String → DirectoryError) (r : Except String α) : Session α :=
  ExceptT.mk (pure (r.mapError fail))

def fetchOptional (fail : String → DirectoryError) (read : Row → Except String α) (sql : String)
    (bound : List Param) : Session (Option α) := do
  let reply ← send fail sql bound
  match reply.rowList.head? with
  | none => return none
  | some row => return some (← decode fail (read row))

def fetchRequired (fail : String → DirectoryError) (missing : DirectoryError)
    (read : Row → Except String α) (sql : String) (bound : List Param) : Session α := do
  match ← fetchOptional fail read sql bound with
  | some a => return a
  | none => throw missing

def fetchOne (fail : String → DirectoryError) (read : Row → Except String α) (sql : String)
    (bound : List Param) : Session α :=
  fetchRequired fail (fail noRows) read sql bound

def fetchAll (fail : String → DirectoryError) (read : Row → Except String α) (sql : String)
    (bound : List Param) : Session (List α) := do
  let reply ← send fail sql bound
  decode fail (reply.rowList.mapM read)

end Session

/-! Statements, with blanks squeezed as the server sees them. -/

namespace Statement

def userById : String :=
  "SELECT id::bigint AS id, node_id, first_name, last_name, email FROM pennsieve.users WHERE id = $1"

def organizationById : String :=
  "SELECT id::bigint AS id, node_id, name, slug FROM pennsieve.organizations WHERE id = $1"

def organizationByNode : String :=
  "SELECT id::bigint AS id, node_id, name, slug FROM pennsieve.organizations WHERE node_id = $1"

def organizationBySlug : String :=
  "SELECT id::bigint AS id, node_id, name, slug FROM pennsieve.organizations WHERE slug = $1"

def publishingTeam : String :=
  "SELECT o.id::bigint AS workspace_id, o.node_id AS workspace_node_id, " ++
  "o.name AS workspace_name, ot.team_id::bigint AS team_id, t.name AS team_name, " ++
  "tu.user_id::bigint AS user_id, u.first_name || ' ' || u.last_name AS user_name, " ++
  "u.email AS email_address FROM pennsieve.organizations o " ++
  "JOIN pennsieve.organization_team ot ON o.id = ot.organization_id " ++
  "JOIN pennsieve.teams t ON ot.team_id = t.id JOIN pennsieve.team_user tu ON t.id = tu.team_id " ++
  "JOIN pennsieve.users u ON tu.user_id = u.id JOIN pennsieve.organization_user ou " ++
  "ON u.id = ou.user_id AND o.id = ou.organization_id WHERE o.node_id = $1 " ++
  "AND ot.system_team_type = 'publishers'"

def searchPath (organizationId : Int) : String :=
  "SET LOCAL search_path = \"" ++ toString organizationId ++ "\", pennsieve"

def addMembership : String :=
  "INSERT INTO pennsieve.organization_user (organization_id, user_id, permission_bit) " ++
  "VALUES ($1, $2, $3) ON CONFLICT (organization_id, user_id) DO NOTHING"

def datasetStatus : String := "SELECT id FROM dataset_status ORDER BY id LIMIT 1"

def dataUseAgreement : String :=
  "SELECT id FROM data_use_agreements WHERE is_default = true LIMIT 1"

def createDataset : String :=
  "INSERT INTO datasets (name, node_id, state, description, status_id, " ++
  "automatically_process_packages, license, tags, data_use_agreement_id) " ++
  "VALUES ($1, $2, 'READY', '', $3, false, '', '\x7b\x7d', $4) RETURNING id::bigint AS id, node_id, name"

def contributorOf : String := "SELECT id::bigint FROM contributors WHERE user_id = $1 LIMIT 1"

def addContributor : String :=
  "INSERT INTO contributors (first_name, last_name, email, user_id) VALUES ($1, $2, $3, $4) " ++
  "RETURNING id::bigint"

def attachContributor : String :=
  "INSERT INTO dataset_contributor (dataset_id, contributor_id, contributor_order) VALUES ($1, $2, 1)"

def addOwner : String := "INSERT INTO dataset_user (dataset_id, user_id, role) VALUES ($1, $2, $3)"

end Statement

/-! Reading records from rows, column by column in the record's order. -/

def User.ofRow (r : Row) : Except String User := do
  return ⟨← r.int64 "id", ← r.text "node_id", ← r.text "first_name", ← r.text "last_name",
    ← r.text "email"⟩

def Organization.ofRow (r : Row) : Except String Organization := do
  return ⟨← r.int64 "id", ← r.text "node_id", ← r.text "name", ← r.text "slug"⟩

def Dataset.ofRow (r : Row) : Except String Dataset := do
  return ⟨← r.int64 "id", ← r.text "node_id", ← r.text "name"⟩

def Publisher.ofRow (r : Row) : Except String Publisher := do
  return ⟨← r.int64 "workspace_id", ← r.text "workspace_node_id", ← r.text "workspace_name",
    ← r.int64 "team_id", ← r.text "team_name", ← r.int64 "user_id", ← r.text "user_name",
    ← r.text "email_address"⟩

namespace RelationalDirectory

def backendIn (context : String) (message : String) : DirectoryError :=
  .backend (context ++ ": " ++ message)

def run (d : RelationalDirectory) (s : Session α) : Except DirectoryError α × RelationalDirectory :=
  let (r, server) := (s.run).run d.server
  (r, { d with server := server })

def proposalUser (userId : Int) : Session User := do
  match ← Session.fetchOptional (backendIn "get user") User.ofRow Statement.userById [.int userId] with
  | some u => return u
  | none => throw (.userNotFound userId)

def repositoryWorkspace (org : String) : Session Organization := do
  match ← Session.fetchOptional (backendIn "get repository workspace") Organization.ofRow
      Statement.organizationByNode [.text org] with
  | some o => return o
  | none => throw (.organizationNotFound org)

def publishingTeam (org : String) : Session (List Publisher) :=
  Session.fetchAll (backendIn "get publishing team") Publisher.ofRow Statement.publishingTeam [.text org]

def welcomeWorkspace (slug : String) : Session Organization := do
  match ← Session.fetchOptional (backendIn "get welcome workspace") Organization.ofRow
      Statement.organizationBySlug [.text slug] with
  | some o => return o
  | none => throw (.organizationNotFound slug)

def contributorFor (user : User) : Session Int := do
  match ← Session.fetchOptional (.stepFailed .addContributor) Row.firstInt64 Statement.contributorOf
      [.int user.id] with
  | some c => pure c
  | none =>
    Session.fetchOne (.stepFailed .addContributor) Row.firstInt64 Statement.addContributor
      [.text user.firstName, .text user.lastName, .text user.email, .int user.id]

def provisionSteps (organizationId : Int) (p : Proposal) (datasetNodeId : String) :
    Session CreatedDataset := do
  let _ ← Session.send (backendIn "set search path") (Statement.searchPath organizationId) []
  let user ← Session.fetchRequired (.stepFailed .resolveUser)
    (.stepFailed .resolveUser ("user " ++ toString p.userId ++ " does not exist")) User.ofRow
    Statement.userById [.int p.userId]
  let org ← Session.fetchRequired (.stepFailed .resolveOrganization)
    (.stepFailed .resolveOrganization ("organization " ++ toString organizationId ++ " does not exist"))
    Organization.ofRow Statement.organizationById [.int organizationId]
  let _ ← Session.send (.stepFailed .addGuestMembership) Statement.addMembership
    [.int org.id, .int user.id, .int 1]
  let status ← Session.fetchRequired (.stepFailed .resolveDatasetStatus)
    (.stepFailed .resolveDatasetStatus "organization has no dataset status") Row.firstInt32
    Statement.datasetStatus []
  let agreement ← Session.fetchRequired (.stepFailed .resolveDataUseAgreement)
    (.stepFailed .resolveDataUseAgreement "organization has no default data use agreement")
    Row.firstInt32 Statement.dataUseAgreement []
  let dataset ← Session.fetchOne (.stepFailed .createDataset) Dataset.ofRow Statement.createDataset
    [.text p.name, .text datasetNodeId, .int status, .int agreement]
  let contributor ← contributorFor user
  let _ ← Session.send (.stepFailed .attachContributor) Statement.attachContributor
    [.int dataset.id, .int contributor]
  let _ ← Session.send (.stepFailed .addOwner) Statement.addOwner
    [.int dataset.id, .int user.id, .text "owner"]
  return ⟨user, org, dataset⟩

def provision (organizationId : Int) (p : Proposal) (datasetNodeId : String) : Session CreatedDataset := do
  let _ ← Session.send (backendIn "begin transaction") "BEGIN" []
  let created ← provisionSteps organizationId p datasetNodeId
  let _ ← Session.send (fun m => .stepFailed .addOwner ("commit: " ++ m)) "COMMIT" []
  return created

end RelationalDirectory

end DatasetProposals
