import DatasetProposals.Bench.Setup
import DatasetProposals.Bench.Ids
import DatasetProposals.Service.Operations
/-! Running a scenario: the steps of a request, in order, against one world, each answered with
its value or error and the emails it sent. -/
namespace DatasetProposals
namespace Bench
open Json

/-- How a step's answer is ordered after ids are replaced. -/
inductive Listing where
  | unordered
  | whole
  | member
  deriving Repr, DecidableEq, Inhabited

/-- What one step produced. -/
structure StepResult where
  outcome : Outcome
  proposal : Option ProposalDto
  listing : Listing

def plain (o : Outcome) : StepResult := ⟨o, none, .unordered⟩

def serviceCall (call : ServiceAct α) (enc : α → Json) : Act Outcome := do
  match ← call.exec with
  | .ok a => return .ok (enc a)
  | .error e => return .error (.service e)

def proposalCall (call : ServiceAct ProposalDto) : Act StepResult := do
  match ← call.exec with
  | .ok d => return ⟨.ok d.toJson, some d, .unordered⟩
  | .error e => return plain (.error (.service e))

def storeCall (call : Act (Except StorageError α)) (enc : α → Json) : Act Outcome := do
  match ← call with
  | .ok a => return .ok (enc a)
  | .error e => return .error (.storage e)

def directoryCall (call : Act (Except DirectoryError α)) (enc : α → Json) : Act Outcome := do
  match ← call with
  | .ok a => return .ok (enc a)
  | .error e => return .error (.directory e)

def withInput (read : Except Failure α) (run : α → Act StepResult) : Act StepResult :=
  match read with
  | .ok a => run a
  | .error f => return plain (.error f)

def existingProposal (past : List (Option ProposalDto)) (step : Json) : Except Failure ProposalDto :=
  match step.field? "existing_step" with
  | none => need step "existing" ProposalDto.decoder
  | some _ => do
    let i ← need step "existing_step" Decoder.uint64
    match past[i]? with
    | some (some d) => return d
    | _ => throw (.badInput "existing_step")

def repositoryOf (org : String) : RepositoryRecord :=
  { (default : RepositoryRecord) with organizationNodeId := org }

def directoryState (d : MemoryDirectory) : Json :=
  .obj [("datasets", .arr (d.datasets.map Dataset.toJson)),
    ("contributors", .arr (d.contributors.map fun (i, u) => .obj [("id", .int i), ("user_id", .int u)]))]

def unitJson (_ : Unit) : Json := .null

def listJson (f : α → Json) (xs : List α) : Json := .arr (xs.map f)

def runStep (past : List (Option ProposalDto)) (step : Json) : Act StepResult := do
  let int (name : String) := need step name Decoder.int64
  let text (name : String) := need step name Decoder.string
  match step.get "do" with
  | .str "create" =>
    withInput (do return (← int "user", ← need step "input" ProposalDto.decoder)) fun (u, input) =>
      proposalCall (Service.createProposal u input)
  | .str "update" =>
    withInput (do
        let u ← int "user"
        let existing ← existingProposal past step
        return (u, existing, ← need step "update" ProposalDto.decoder)) fun (u, existing, update) =>
      proposalCall (Service.updateProposal u existing update)
  | .str "get" =>
    withInput (do return (← int "user", ← text "node_id")) fun (u, n) =>
      proposalCall (Service.getProposal u n)
  | .str "list_user" =>
    withInput (int "user") fun u => do
      return ⟨← serviceCall (Service.proposalsForUser u) (listJson ProposalDto.toJson), none, .whole⟩
  | .str "list_workspace" =>
    withInput (do return (← text "org", ← needStatus step "status")) fun (org, s) => do
      return ⟨← serviceCall (Service.proposalsForWorkspace org s) Service.submissionsJson, none, .member⟩
  | .str "delete" =>
    withInput (do return (← int "user", ← text "node_id")) fun (u, n) => do
      let d : ProposalDto := { ProposalDto.empty with userId := u, proposalNodeId := n }
      return plain (← serviceCall (Service.deleteProposal d) unitJson)
  | .str "submit" =>
    withInput (do return (← int "user", ← text "node_id")) fun (u, n) =>
      proposalCall (Service.submitProposal u n)
  | .str "withdraw" =>
    withInput (do return (← int "user", ← text "node_id")) fun (u, n) =>
      proposalCall (Service.withdrawProposal u n)
  | .str "accept" =>
    withInput (do return (← int "repository_id", ← text "node_id")) fun (r, n) =>
      proposalCall (Service.acceptProposal r n)
  | .str "reject" =>
    withInput (do return (← int "repository_id", ← text "node_id")) fun (r, n) =>
      proposalCall (Service.rejectProposal r n)
  | .str "info" => return plain (← serviceCall Service.publishingInfo (listJson Service.InfoDto.toJson))
  | .str "repositories" =>
    return plain (← serviceCall Service.publishingRepositories (listJson Service.RepositoryDto.toJson))
  | .str "questions" =>
    return plain (← serviceCall Service.proposalQuestions (listJson Service.QuestionDto.toJson))
  | .str "advance" =>
    withInput (int "secs") fun secs => do
      modify fun w => { w with clock := wrappingAdd w.clock secs }
      return plain (.ok (.int (← World.now)))
  | .str "set_clock" =>
    withInput (int "now") fun now => do
      modify fun w => { w with clock := now }
      return plain (.ok (.int now))
  | .str "fail_at" =>
    withInput (do
        match ← maybe step "step" Decoder.string with
        | none => pure none
        | some n => match ProvisionStep.ofName? n with
          | some s => pure (some s)
          | none => throw (Failure.badInput "provision step")) fun s => do
      modify fun w => { w with directory := { w.directory with failAt := s } }
      return plain (.ok .null)
  | .str "fail_send" =>
    withInput (need step "on" Decoder.bool) fun on => do
      modify fun w => { w with mailer := { w.mailer with failing := on } }
      return plain (.ok .null)
  | .str "store_get" =>
    withInput (do return (← int "user", ← text "node_id")) fun (u, n) => do
      return plain (← storeCall (World.proposal u n) Proposal.toJson)
  | .str "store_list_user" =>
    withInput (int "user") fun u => do
      return ⟨← storeCall (World.proposalsForUser u) (listJson Proposal.toJson), none, .whole⟩
  | .str "store_list_workspace" =>
    withInput (do return (← text "org", ← needStatus step "status")) fun (org, s) => do
      return ⟨← storeCall (World.proposalsForWorkspace org s) (listJson Proposal.toJson), none, .whole⟩
  | .str "store_get_for_repository" =>
    withInput (do return (← int "repository_id", ← needStatus step "status", ← text "node_id"))
      fun (r, s, n) => do
        return plain (← storeCall (World.proposalForRepository r s n) Proposal.toJson)
  | .str "store_create" =>
    withInput (need step "record" Proposal.decoder) fun p => do
      return plain (← storeCall (World.create p) unitJson)
  | .str "store_update" =>
    withInput (need step "record" Proposal.decoder) fun p => do
      return plain (← storeCall (World.update p) unitJson)
  | .str "store_update_if" =>
    withInput (do return (← need step "record" Proposal.decoder, ← needStatus step "expected"))
      fun (p, s) => do
        return plain (← storeCall (World.updateIf p s) unitJson)
  | .str "store_delete" =>
    withInput (do return (← int "user", ← text "node_id")) fun (u, n) => do
      return plain (← storeCall (World.delete ⟨u, n⟩) unitJson)
  | .str "store_get_repository" =>
    withInput (text "org") fun org => do
      return plain (← storeCall (World.repository org) RepositoryRecord.toJson)
  | .str "store_repositories" =>
    return plain (← storeCall World.repositories (listJson RepositoryRecord.toJson))
  | .str "store_questions" =>
    return plain (← storeCall World.questions (listJson QuestionRecord.toJson))
  | .str "store_info" =>
    return plain (← storeCall World.publishingInfo (listJson InfoRecord.toJson))
  | .str "store_insert_repository" =>
    withInput (need step "record" RepositoryRecord.decoder) fun r => do
      modify fun w => { w with store := { w.store with repositories := w.store.repositories ++ [r] },
                               documents := w.documents.map (·.seed repositoryCollection [recordMembers r.toJson]) }
      return plain (.ok .null)
  | .str "store_insert_question" =>
    withInput (need step "record" QuestionRecord.decoder) fun q => do
      modify fun w => { w with store := { w.store with questions := w.store.questions ++ [q] },
                               documents := w.documents.map (·.seed questionCollection [recordMembers q.toJson]) }
      return plain (.ok .null)
  | .str "store_insert_info" =>
    withInput (need step "record" InfoRecord.decoder) fun i => do
      modify fun w => { w with store := { w.store with info := w.store.info ++ [i] },
                               documents := w.documents.map (·.seed infoCollection [recordMembers i.toJson]) }
      return plain (.ok .null)
  | .str "dir_user" =>
    withInput (int "user") fun u => do
      return plain (← directoryCall (World.proposalUser u) User.toJson)
  | .str "dir_workspace" =>
    withInput (text "org") fun org => do
      return plain (← directoryCall (World.repositoryWorkspace (repositoryOf org).organizationNodeId)
        Organization.toJson)
  | .str "dir_team" =>
    withInput (text "org") fun org => do
      return plain (← directoryCall (World.publishingTeam (repositoryOf org).organizationNodeId)
        (listJson Publisher.toJson))
  | .str "dir_welcome" =>
    return plain (← directoryCall World.rawWelcomeWorkspace Organization.toJson)
  | .str "dir_provision" =>
    withInput (need step "record" Proposal.decoder) fun p => do
      return plain (← directoryCall (World.provision p) CreatedDataset.toJson)
  | .str "dir_state" => return plain (.ok (directoryState (← get).directory))
  | .str "dir_is_member" =>
    withInput (do return (← int "organization_id", ← int "user")) fun (o, u) => do
      return plain (.ok (.bool ((← get).directory.isMember o u)))
  | .str "dir_is_owner" =>
    withInput (do return (← int "dataset_id", ← int "user")) fun (d, u) => do
      return plain (.ok (.bool ((← get).directory.isOwner d u)))
  | .str _ => return plain (.error (.badInput "unknown step"))
  | _ => return plain (.error (.badInput "field do"))

def proposalOrder (a b : Json) : Bool :=
  let key (j : Json) : Int × String :=
    ((j.get "UserId").asInt?.getD 0,
     match (j.get "ProposalNodeId").asString? with
     | some n => n
     | none => ((j.get "NodeId").asString?).getD "")
  let (ua, na) := key a
  let (ub, nb) := key b
  ua < ub || (ua == ub && decide (na ≤ nb))

def sortProposals : Json → Json
  | .arr xs => .arr (xs.mergeSort proposalOrder)
  | j => j

def orderListing (l : Listing) (entry : Json) : Json :=
  match l, entry with
  | .unordered, _ => entry
  | .whole, .obj fs => .obj (fs.map fun (k, v) => if k == "ok" then (k, sortProposals v) else (k, v))
  | .member, .obj fs =>
    .obj (fs.map fun (k, v) =>
      if k == "ok" then
        match v with
        | .obj gs => (k, .obj (gs.map fun (k2, v2) =>
            if k2 == "Proposals" then (k2, sortProposals v2) else (k2, v2)))
        | _ => (k, v)
      else (k, v))
  | _, _ => entry

/-- What a scenario has done so far. -/
structure Progress where
  world : World
  book : IdBook
  past : List (Option ProposalDto)
  entries : List Json

def Progress.advance (detail : Bool) (p : Progress) (step : Json) : Progress :=
  let step := IdBook.restore p.book step
  let w := { p.world with mailer := { p.world.mailer with sent := [] },
                          relational := p.world.relational.map fun d => { d with server := { d.server with log := [] } },
                          documents := p.world.documents.map fun s => { s with log := [] } }
  let (r, w) := (runStep p.past step).run w
  let entry := answer detail r.outcome
  let entry : Json := match w.mailer.sent, entry with
    | [], _ => entry
    | sent, .obj fs => Json.obj (fs ++ [("emails", Json.arr (sent.map Email.toJson))])
    | _, _ => entry
  let statements := (w.relational.map (·.server.log)).getD []
  let entry : Json := match statements, entry with
    | [], _ => entry
    | log, .obj fs => Json.obj (fs ++ [("sql", Json.arr (log.map fun (sql, bound) =>
        Json.obj [("sql", Json.str sql), ("params", Json.arr (bound.map Sql.Param.toJson))]))])
    | _, _ => entry
  let commands := (w.documents.map (·.log)).getD []
  let entry : Json := match commands, entry with
    | [], _ => entry
    | log, .obj fs => Json.obj (fs ++ [("mongo", Json.arr log)])
    | _, _ => entry
  let (entry, book) := IdBook.rewrite p.book entry
  ⟨w, book, p.past ++ [r.proposal], p.entries ++ [orderListing r.listing entry]⟩

def runScenario (j : Json) : Outcome := do
  let setup ← readSetup j
  let world ← setup.world
  let choices ← readChoices j
  let steps ← need j "steps" (Decoder.list Decoder.any)
  let world := choices.apply world
  let start : Progress := ⟨{ world with reserved := j.texts }, IdBook.empty, [], []⟩
  let done := (steps.map Json.canonical).foldl (Progress.advance setup.errorDetail) start
  return Json.obj [("steps", Json.arr done.entries)]

end Bench
end DatasetProposals
