import DatasetProposals.Service.Script
import DatasetProposals.Proposal.Lifecycle
/-! The publishing service: proposal CRUD, the four lifecycle transitions, and the catalog
projections. -/
namespace DatasetProposals

namespace Service

def viaStore (op : String) (call : Script (Except StorageError α)) : ServiceAct α :=
  ExceptT.mk do return (← call).mapError (ServiceError.ofStorage op)

def viaDirectory (op : String) (call : Script (Except DirectoryError α)) : ServiceAct α :=
  ExceptT.mk do return (← call).mapError (ServiceError.ofDirectory op)

/-- Information documents, with their files signed for the overview expiry. -/
structure InfoDto where
  tag : String
  kind : String
  url : String
  deriving Repr, BEq, Inhabited

/-- A question as clients see it. -/
structure QuestionDto where
  id : Int
  question : String
  kind : String
  deriving Repr, BEq, Inhabited

/-- A repository as clients see it, with its questions resolved and its files signed. -/
structure RepositoryDto where
  organizationNodeId : String
  name : String
  displayName : String
  repositoryId : Int
  kind : String
  description : String
  url : String
  overviewDocument : String
  logoFile : String
  questions : List QuestionDto
  createdAt : Int
  updatedAt : Int
  deriving Repr, BEq, Inhabited

def QuestionDto.ofRecord (q : QuestionRecord) : QuestionDto := ⟨q.id, q.question, q.kind⟩

def InfoDto.toJson (i : InfoDto) : Json :=
  .obj [("tag", .str i.tag), ("type", .str i.kind), ("url", .str i.url)]

def QuestionDto.toJson (q : QuestionDto) : Json :=
  .obj [("id", .int q.id), ("question", .str q.question), ("type", .str q.kind)]

def RepositoryDto.toJson (r : RepositoryDto) : Json :=
  .obj [("organizationNodeId", .str r.organizationNodeId), ("name", .str r.name),
    ("displayName", .str r.displayName), ("repositoryId", .int r.repositoryId),
    ("type", .str r.kind), ("description", .str r.description), ("url", .str r.url),
    ("overviewDocument", .str r.overviewDocument), ("logoFile", .str r.logoFile),
    ("questions", .arr (r.questions.map QuestionDto.toJson)), ("createdAt", .int r.createdAt),
    ("updatedAt", .int r.updatedAt)]

def submissionsJson (ps : List ProposalDto) : Json :=
  .obj [("TotalCount", .int ps.length), ("Proposals", .arr (ps.map ProposalDto.toJson))]

def publishingInfo : ServiceAct (List InfoDto) := do
  let info ← viaStore "get publishing info" (Script.op .publishingInfo)
  let now ← Script.op .now
  let s ← Script.op .settings
  return info.map fun i =>
    ⟨i.tag, i.kind, s.signer.presign i.file.bucket i.file.key s.overviewExpiry now⟩

def questionIndex (qs : List QuestionRecord) : List (Int × QuestionDto) :=
  qs.foldl (fun acc q => (q.id, QuestionDto.ofRecord q) :: acc.filter (·.1 != q.id)) []

def repositoryDto (s : Settings) (now : Int) (index : List (Int × QuestionDto))
    (r : RepositoryRecord) : RepositoryDto :=
  ⟨r.organizationNodeId, r.name, r.displayName, r.repositoryId, r.kind, r.description, r.url,
   s.signer.presign r.overviewDocument.bucket r.overviewDocument.key s.overviewExpiry now,
   s.signer.presign r.logoFile.bucket r.logoFile.key s.logoExpiry now,
   r.questions.filterMap (fun id => (index.find? (·.1 == id)).map (·.2)),
   r.createdAt, r.updatedAt⟩

def publishingRepositories : ServiceAct (List RepositoryDto) := do
  let op := "get publishing repositories"
  let repos ← viaStore op (Script.op .repositories)
  let qs ← viaStore op (Script.op .questions)
  let now ← Script.op .now
  let s ← Script.op .settings
  return repos.map (repositoryDto s now (questionIndex qs))

def proposalQuestions : ServiceAct (List QuestionDto) := do
  let qs ← viaStore "get proposal questions" (Script.op .questions)
  return qs.map QuestionDto.ofRecord

def getProposal (u : Int) (n : String) : ServiceAct ProposalDto := do
  return (← viaStore "get dataset proposal" (Script.op (.proposal u n))).toDto

def proposalsForUser (u : Int) : ServiceAct (List ProposalDto) := do
  return (← viaStore "get dataset proposals for user" (Script.op (.proposalsForUser u))).map
    Proposal.toDto

def proposalsForWorkspace (org : String) (s : Status) : ServiceAct (List ProposalDto) := do
  return (← viaStore "get dataset proposals for workspace"
    (Script.op (.proposalsForWorkspace org s))).map Proposal.toDto

def createProposal (u : Int) (input : ProposalDto) : ServiceAct ProposalDto := do
  let op := "create dataset proposal"
  if Text.isBlankText input.organizationNodeId then
    throw (.validation op "OrganizationNodeId is required")
  let user ← viaDirectory op (Script.op (.proposalUser u))
  let now ← Script.op .now
  let nodeId ← Script.op (.freshNodeId "N:proposal:")
  let record : Proposal := { Proposal.empty with
    userId := u, nodeId := nodeId, ownerName := user.displayName, emailAddress := user.email,
    name := input.name, description := input.description, repositoryId := input.repositoryId,
    organizationNodeId := input.organizationNodeId, survey := input.survey,
    contributors := input.contributors, createdAt := now, updatedAt := now }
  viaStore op (Script.op (.create record))
  return record.toDto

def updateProposal (u : Int) (existing update : ProposalDto) : ServiceAct ProposalDto := do
  let op := "update dataset proposal"
  if existing.userId != u then
    throw (.notFound op ("dataset proposal " ++ toString u ++ "/" ++ existing.proposalNodeId))
  if existing.status != .draft then
    throw (ServiceError.wrongStatus op existing.proposalNodeId existing.status .draft)
  let user ← viaDirectory op (Script.op (.proposalUser u))
  let now ← Script.op .now
  let record : Proposal := {
    userId := u, nodeId := existing.proposalNodeId, ownerName := user.displayName,
    emailAddress := user.email, name := update.name, description := update.description,
    repositoryId := existing.repositoryId, organizationNodeId := existing.organizationNodeId,
    datasetNodeId := existing.datasetNodeId, status := existing.status, survey := update.survey,
    contributors := update.contributors, createdAt := existing.createdAt,
    updatedAt := stamp now existing.updatedAt, submittedAt := existing.submittedAt,
    withdrawnAt := existing.withdrawnAt, acceptedAt := existing.acceptedAt,
    rejectedAt := existing.rejectedAt }
  viaStore op (Script.op (.updateIf record .draft))
  return record.toDto

def deleteProposal (d : ProposalDto) : ServiceAct Unit :=
  viaStore "delete dataset proposal" (Script.op (.delete d.key))

def checkStatus (t : Transition) (p : Proposal) : ServiceAct Unit :=
  if p.status != t.source then throw (ServiceError.wrongStatus t.operation p.nodeId p.status t.source)
  else pure ()

def persistTransition (t : Transition) (p : Proposal) : ServiceAct Proposal := do
  let now ← Script.op .now
  let next := t.apply p (stamp now p.updatedAt)
  viaStore t.operation (Script.op (.updateIf next t.source))
  return next

/-! Notifications. -/

def messageAttributes (s : Settings) (p : Proposal) (repository : RepositoryRecord) : Attributes :=
  Attributes.ofList [("AppURL", s.appUrl), ("AuthorName", p.ownerName),
    ("AuthorEmail", p.emailAddress), ("ProposalTitle", p.name),
    ("WorkspaceName", repository.displayName), ("WorkspaceNodeId", repository.organizationNodeId)]

def dispatch (e : Event) (attrs : Attributes) (recipients : List String) : Script Unit := do
  let s ← Script.op .settings
  match composeEmail s.templates s.sender e attrs recipients with
  | .error _ => return ()
  | .ok m => Script.op (.deliver m)

def notifyTeam (e : Event) (p : Proposal) : Script Unit := do
  match ← Script.op (.repository p.organizationNodeId) with
  | .error _ => return ()
  | .ok repo =>
    match ← Script.op (.publishingTeam repo.organizationNodeId) with
    | .error _ => return ()
    | .ok team =>
      let recipients := normalizeRecipients (team.map (·.emailAddress))
      if recipients.isEmpty then return ()
      dispatch e (messageAttributes (← Script.op .settings) p repo) recipients

def notifyOwner (e : Event) (p : Proposal) (org : String) : Script Unit := do
  match ← Script.op (.repository org) with
  | .error _ => return ()
  | .ok repo =>
    match ← Script.op .welcomeWorkspace with
    | .error _ => return ()
    | .ok welcome =>
      let recipients := normalizeRecipients [p.emailAddress]
      if recipients.isEmpty then return ()
      let attrs :=
        (messageAttributes (← Script.op .settings) p repo).insert "WelcomeWorkspaceNodeId" welcome.nodeId
      dispatch e attrs recipients

/-! Transitions. Each persists first: it reads the proposal, checks it and writes it
conditionally, answering the record it wrote. Only then does it notify, and it answers the
written record whatever becomes of the notification. -/

def persistSubmit (u : Int) (n : String) : ServiceAct Proposal := do
  let t := Transition.submit
  let op := t.operation
  let p ← viaStore op (Script.op (.proposal u n))
  checkStatus t p
  let repo ← viaStore op (Script.op (.repository p.organizationNodeId))
  if repo.organizationNodeId != p.organizationNodeId then
    throw (.invalidState op n ("targets " ++ p.organizationNodeId ++ " but its repository is " ++
      repo.organizationNodeId))
  let missing := missingQuestions repo.questions (p.survey.map (·.questionId))
  if !missing.isEmpty then
    throw (.validation op ("all required questions not answered (missing [" ++
      ", ".intercalate (missing.map toString) ++ "])"))
  persistTransition t { p with repositoryId := repo.repositoryId }

def submitProposal (u : Int) (n : String) : ServiceAct ProposalDto := do
  let submitted ← persistSubmit u n
  notifyTeam .submitted submitted
  return submitted.toDto

def persistWithdraw (u : Int) (n : String) : ServiceAct Proposal := do
  let t := Transition.withdraw
  let p ← viaStore t.operation (Script.op (.proposal u n))
  checkStatus t p
  persistTransition t p

def withdrawProposal (u : Int) (n : String) : ServiceAct ProposalDto := do
  let withdrawn ← persistWithdraw u n
  notifyTeam .withdrawn withdrawn
  return withdrawn.toDto

def findForRepository (t : Transition) (r : Int) (n : String) : ServiceAct Proposal := do
  let op := t.operation
  match ← Script.op (.proposalForRepository r t.source n) with
  | .error (.notFound c k) =>
    let rec settled : List Status → ServiceAct Proposal
      | [] => throw (ServiceError.ofStorage op (.notFound c k))
      | s :: rest => do
        match ← Script.op (.proposalForRepository r s n) with
        | .ok p => checkStatus t p; return p
        | .error (.notFound _ _) => settled rest
        | .error e => throw (ServiceError.ofStorage op e)
    settled [.withdrawn, .accepted, .rejected]
  | .error e => throw (ServiceError.ofStorage op e)
  | .ok p => return p

def persistAccept (r : Int) (n : String) : ServiceAct (Proposal × String) := do
  let t := Transition.accept
  let op := t.operation
  let p ← findForRepository t r n
  let created ← ExceptT.mk do return (← Script.op (.provision p)).mapError (ServiceError.external op)
  let now ← Script.op .now
  let placed : Proposal :=
    { p with datasetNodeId := created.dataset.nodeId, organizationNodeId := created.organization.nodeId }
  let accepted := t.apply placed (stamp now p.updatedAt)
  viaStore op (Script.op (.updateIf accepted t.source))
  return (accepted, p.organizationNodeId)

def acceptProposal (r : Int) (n : String) : ServiceAct ProposalDto := do
  let accepted ← persistAccept r n
  notifyOwner .accepted accepted.1 accepted.2
  return accepted.1.toDto

def persistReject (r : Int) (n : String) : ServiceAct Proposal := do
  let p ← findForRepository .reject r n
  persistTransition .reject p

def rejectProposal (r : Int) (n : String) : ServiceAct ProposalDto := do
  let rejected ← persistReject r n
  notifyOwner .rejected rejected rejected.organizationNodeId
  return rejected.toDto

end Service

end DatasetProposals
