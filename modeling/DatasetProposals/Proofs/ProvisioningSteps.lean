import DatasetProposals.Proofs.Provisioning
import DatasetProposals.Proofs.MemoryWorld
/-! Provisioning on the in-memory directory, step by step. Main statement:
`provisioning_stops_at_first_failure`. -/
namespace DatasetProposals

theorem ProvisionStep.mem_order (step : ProvisionStep) : step ∈ ProvisionStep.order := by
  cases step <;> decide

namespace MemoryDirectory

variable (d : MemoryDirectory) (p : Proposal)

def failsAt (step : ProvisionStep) : Bool :=
  d.failAt == some step ||
    step == .resolveUser && !d.users.any (·.id == p.userId) ||
    step == .resolveOrganization && !d.organizations.any (·.id == d.publishingOrganizationId)

def firstFailure : Option ProvisionStep := ProvisionStep.order.find? (d.failsAt p)

def failureText (step : ProvisionStep) : String :=
  if d.failAt = some step then "injected failure"
  else if step = .resolveUser then s!"user {p.userId} does not exist"
  else s!"organization {d.publishingOrganizationId} does not exist"

variable {d p}

theorem firstFailure_eq_none :
    d.firstFailure p = none ↔ d.failAt = none ∧ d.users.any (·.id == p.userId) ∧
      d.organizations.any (·.id == d.publishingOrganizationId) := by
  unfold firstFailure
  rw [List.find?_eq_none]
  constructor
  · intro passes
    have user := passes .resolveUser (ProvisionStep.mem_order _)
    have organization := passes .resolveOrganization (ProvisionStep.mem_order _)
    refine ⟨?_, by simp [failsAt] at user; simpa using user.2,
      by simp [failsAt] at organization; simpa using organization.2⟩
    cases armed : d.failAt with
    | none => rfl
    | some step =>
      exact absurd (by simp [failsAt, armed]) (passes step (ProvisionStep.mem_order step))
  · rintro ⟨armed, user, organization⟩ step _
    simp [failsAt, armed, user, organization]

theorem provision_eq_error {step : ProvisionStep} (first : d.firstFailure p = some step)
    (nodeId : String) :
    d.provision p nodeId = .error (.stepFailed step (d.failureText p step)) := by
  unfold firstFailure at first
  -- the armed step and the two lookups decide both the first failure and where the run stops;
  -- past the contributor lookup only the armed step is left to decide
  cases user : d.users.find? (·.id == p.userId) with
  | none =>
    rcases armed : d.failAt with _ | ⟨_ | _ | _ | _ | _ | _ | _ | _ | _⟩ <;>
    simp [ProvisionStep.order, failsAt, ← List.isSome_find?, armed, user] at first <;>
    subst first <;>
    simp [provision, check, failureText, armed, user, bind, Except.bind, throw, throwThe,
      MonadExceptOf.throw]
  | some u =>
    cases organization : d.organizations.find? (·.id == d.publishingOrganizationId) with
    | none =>
      rcases armed : d.failAt with _ | ⟨_ | _ | _ | _ | _ | _ | _ | _ | _⟩ <;>
      simp [ProvisionStep.order, failsAt, ← List.isSome_find?, armed, user, organization]
        at first <;> subst first <;>
      simp [provision, check, failureText, armed, user, organization, bind, Except.bind, pure,
        Except.pure, throw, throwThe, MonadExceptOf.throw]
    | some o =>
      cases row : d.contributors.find? (·.2 == u.id) <;>
      rcases armed : d.failAt with _ | ⟨_ | _ | _ | _ | _ | _ | _ | _ | _⟩ <;>
      simp [ProvisionStep.order, failsAt, ← List.isSome_find?, armed, user, organization]
        at first <;> subst first <;>
      simp [provision, check, failureText, armed, user, organization, row, bind, Except.bind, pure,
        Except.pure]

theorem provision_succeeds (none : d.firstFailure p = none) (nodeId : String) :
    ∃ created d', d.provision p nodeId = .ok (created, d') := by
  obtain ⟨armed, users, organizations⟩ := firstFailure_eq_none.mp none
  rw [← List.isSome_find?, Option.isSome_iff_exists] at users organizations
  obtain ⟨u, user⟩ := users
  obtain ⟨o, organization⟩ := organizations
  cases row : d.contributors.find? (·.2 == u.id) <;>
  simp [provision, check, armed, user, organization, row, bind, Except.bind, pure, Except.pure]

end MemoryDirectory

namespace World

/-- Provisioning on the in-memory directory is all or nothing and names the first failing step
of `ProvisionStep.order`: the armed step, or a resolving step whose row does not exist. There it
answers that step with the injected failure or the missing row, and the directory is exactly
as it was, its id counter included. With no failing step it answers the first matching owner
and organization and a dataset named after the proposal, numbered past every id drawn so far,
under a node id drawn past every earlier one; the directory then holds exactly the records of
that one provisioning more. -/
theorem provisioning_stops_at_first_failure (w : World) (hw : w.OnMemory) (p : Proposal) :
    (∀ step, w.directory.firstFailure p = some step →
      ((rawProvision p).run w).1 = .error (.stepFailed step (w.directory.failureText p step)) ∧
        ((rawProvision p).run w).2.directory = w.directory) ∧
    (w.directory.firstFailure p = none →
      ∃ user organization,
        w.directory.users.find? (·.id == p.userId) = some user ∧
        w.directory.organizations.find? (·.id == w.directory.publishingOrganizationId) =
          some organization ∧
        ((rawProvision p).run w).1 = .ok ⟨user, organization,
          ⟨w.directory.lastId + 1, "N:dataset:" ++ candidateUuid w.nextIssue, p.name⟩⟩ ∧
        w.issued < w.nextIssue ∧ ((rawProvision p).run w).2.issued = w.nextIssue ∧
        w.directory.Provisioned ((rawProvision p).run w).2.directory user
          ⟨w.directory.lastId + 1, "N:dataset:" ++ candidateUuid w.nextIssue, p.name⟩) := by
  rw [rawProvision_run hw]
  refine ⟨fun step first => ?_, fun none => ?_⟩
  · rw [MemoryDirectory.provision_eq_error first]
    exact ⟨rfl, rfl⟩
  · obtain ⟨created, d', provided⟩ :=
      MemoryDirectory.provision_succeeds none ("N:dataset:" ++ candidateUuid w.nextIssue)
    obtain ⟨-, user, -, organization, dataset, provisioned⟩ :=
      MemoryDirectory.provision_eq_ok provided
    rw [provided]
    refine ⟨created.user, created.organization, user, organization, ?_, issued_lt_nextIssue w,
      rfl, dataset ▸ provisioned⟩
    rw [← dataset]

def sampleFailingAtCreate : World :=
  { sample with directory := { sample.directory with failAt := some .createDataset } }

/-- Provisioning for user 0 with no directory fails at resolving the user. In the sample world it
fails at the armed creation of the dataset, two steps after the rows resolved, and otherwise
succeeds. -/
theorem provisioning_stops_in_sample_worlds :
    ((default : World).OnMemory ∧
      (default : World).directory.firstFailure Proposal.empty = some .resolveUser ∧
      ((rawProvision Proposal.empty).run default).1 = .error (.stepFailed .resolveUser
        ((default : World).directory.failureText Proposal.empty .resolveUser)) ∧
      ((rawProvision Proposal.empty).run default).2.directory = (default : World).directory) ∧
    (sampleFailingAtCreate.OnMemory ∧
      sampleFailingAtCreate.directory.firstFailure sampleProposal = some .createDataset ∧
      sampleFailingAtCreate.directory.failureText sampleProposal .createDataset = "injected failure" ∧
      ((rawProvision sampleProposal).run sampleFailingAtCreate).1 = .error (.stepFailed .createDataset
        (sampleFailingAtCreate.directory.failureText sampleProposal .createDataset)) ∧
      ((rawProvision sampleProposal).run sampleFailingAtCreate).2.directory = sampleFailingAtCreate.directory) ∧
    (sample.OnMemory ∧ sample.directory.firstFailure sampleProposal = none ∧
      ∃ user organization,
        sample.directory.users.find? (·.id == sampleProposal.userId) = some user ∧
        sample.directory.organizations.find? (·.id == sample.directory.publishingOrganizationId) =
          some organization ∧
        ((rawProvision sampleProposal).run sample).1 = .ok ⟨user, organization,
          ⟨sample.directory.lastId + 1, "N:dataset:" ++ candidateUuid sample.nextIssue, sampleProposal.name⟩⟩ ∧
        sample.issued < sample.nextIssue ∧ ((rawProvision sampleProposal).run sample).2.issued = sample.nextIssue ∧
        sample.directory.Provisioned ((rawProvision sampleProposal).run sample).2.directory user
          ⟨sample.directory.lastId + 1, "N:dataset:" ++ candidateUuid sample.nextIssue, sampleProposal.name⟩) := by
  have empty : (default : World).OnMemory := ⟨rfl, rfl⟩
  have armed : sampleFailingAtCreate.OnMemory := ⟨rfl, rfl⟩
  have resolved : sample.OnMemory := ⟨rfl, rfl⟩
  have noUser : (default : World).directory.firstFailure Proposal.empty = some .resolveUser := by decide
  have atCreate : sampleFailingAtCreate.directory.firstFailure sampleProposal = some .createDataset := by decide
  have none : sample.directory.firstFailure sampleProposal = none := by decide
  exact ⟨⟨empty, noUser, provisioning_stops_at_first_failure default empty Proposal.empty |>.1 _ noUser⟩,
    ⟨armed, atCreate, rfl,
      provisioning_stops_at_first_failure sampleFailingAtCreate armed sampleProposal |>.1 _ atCreate⟩,
    ⟨resolved, none, provisioning_stops_at_first_failure sample resolved sampleProposal |>.2 none⟩⟩

end World
end DatasetProposals
