import DatasetProposals.Proofs.SubmitGuards
import DatasetProposals.Proofs.PublisherLookup
/-! What the calls that change a proposal write: one record, changed only in the fields its
operation owns. Main statement: `mutating_calls_frame`. -/
namespace DatasetProposals

namespace ServiceAct
open Script
variable {α β : Type} {w w' : World}

theorem bind_ok {x : ServiceAct α} {f : α → ServiceAct β} {b : β}
    (ok : (x >>= f).run.outcome w = (.ok b, w')) :
    ∃ a w₁, x.run.outcome w = (.ok a, w₁) ∧ (f a).run.outcome w₁ = (.ok b, w') := by
  rw [outcome_bind] at ok
  rcases first : x.run.outcome w with ⟨_ | a, w₁⟩
  all_goals rw [first] at ok
  · cases ok
  · exact ⟨a, w₁, rfl, ok⟩

theorem notified_ok (x : ServiceAct α) (view : α → β) {notice : α → Script Unit}
    (quiet : ∀ a, Everywhere (fun o => o.WritesStore = false ∧ o.Provisions = false) (notice a))
    (clean : w.CleanFaults) {d : β}
    (ok : ((x >>= fun a => (liftM (notice a) : ServiceAct Unit) >>= fun _ => pure (view a)).run.outcome
      w).1 = .ok d) :
    ∃ a w₁, x.run.outcome w = (.ok a, w₁) ∧ d = view a ∧
      ((x >>= fun a => (liftM (notice a) : ServiceAct Unit) >>= fun _ => pure (view a)).run.outcome
        w).2.store = w₁.store := by
  obtain ⟨result, store, -⟩ := outcome_notified x view quiet clean
  rcases persisted : x.run.outcome w with ⟨_ | a, w₁⟩
  all_goals rw [persisted] at result store
  · rw [result] at ok
    cases ok
  · rw [result] at ok
    cases ok
    exact ⟨a, w₁, rfl, rfl, store⟩

theorem throw_bind_ne_ok {e : ServiceError} {f : α → ServiceAct β} {b : β} :
    ((throw e : ServiceAct α) >>= f).run.outcome w ≠ (.ok b, w') := by
  intro ok
  obtain ⟨a, w₁, thrown, -⟩ := bind_ok ok
  rw [outcome_throw] at thrown
  cases thrown

end ServiceAct

namespace Service
open Script ServiceAct World
variable {w w' : World}

theorem viaStore_updateIf_ok (hw : w.InMemory) {op : String} {p : Proposal} {e : Status}
    (ok : (viaStore op (Script.op (.updateIf p e))).run.outcome w = (.ok (), w')) :
    w'.store = w.store.put p := by
  rw [outcome_viaStore_updateIf hw] at ok
  cases written : w.store.updateIf p e with
  | error err =>
    rw [written] at ok
    cases ok
  | ok s =>
    rw [written] at ok
    cases ok
    obtain ⟨_, _, _, put⟩ := MemoryStore.updateIf_eq_ok.mp written
    exact put

theorem persistTransition_ok (hw : w.InMemory) {t : Transition} {p r : Proposal}
    (ok : (persistTransition t p).run.outcome w = (.ok r, w')) :
    r = t.apply p (stamp w.clock p.updatedAt) ∧ w'.store = w.store.put r := by
  unfold persistTransition at ok
  rw [outcome_lift_bind, outcome_op, outcome_now] at ok
  obtain ⟨_, w₁, wrote, answered⟩ := bind_ok ok
  rw [outcome_pure] at answered
  cases answered
  exact ⟨rfl, viaStore_updateIf_ok hw wrote⟩

theorem checkStatus_ok {t : Transition} {p : Proposal}
    (ok : (checkStatus t p).run.outcome w = (.ok (), w')) : p.status = t.source ∧ w' = w := by
  unfold checkStatus at ok
  split at ok
  · rw [outcome_throw] at ok
    cases ok
  · next source =>
    rw [outcome_pure] at ok
    cases ok
    exact ⟨by simpa using source, rfl⟩

theorem persistWithdraw_ok (hw : w.InMemory) {u : Int} {n : String} {r : Proposal}
    (ok : (persistWithdraw u n).run.outcome w = (.ok r, w')) :
    ∃ p, w.store.lookup ⟨u, n⟩ = some p ∧ p.status = .submitted ∧
      r = Transition.withdraw.apply p (stamp w.clock p.updatedAt) ∧ w'.store = w.store.put r := by
  unfold persistWithdraw at ok
  obtain ⟨p, w₁, read, rest⟩ := bind_ok ok
  rw [outcome_viaStore_proposal hw, MemoryStore.proposal_eq] at read
  cases found : w.store.lookup ⟨u, n⟩ with
  | none =>
    rw [found] at read
    cases read
  | some q =>
    rw [found] at read
    cases read
    obtain ⟨_, w₂, checked, persisted⟩ := bind_ok rest
    obtain ⟨source, rfl⟩ := checkStatus_ok checked
    obtain ⟨written, put⟩ := persistTransition_ok (hw.countStore _) persisted
    exact ⟨p, rfl, source, written, put⟩

theorem findForRepository_found (hw : w.InMemory) {t : Transition} (source : t.source = .submitted)
    {r : Int} {n : String} {P : Proposal}
    (found : (findForRepository t r n).run.outcome w = (.ok P, w')) :
    w.store.matching r .submitted n = [P] ∧ w'.InMemory ∧
      ∃ storeFaults directoryFaults,
        w' = { w with storeFaults := storeFaults, directoryFaults := directoryFaults } := by
  have verdict := findForRepository_verdict hw source r n
  have hw' := (Script.follows hw (findForRepository t r n).run).inMemory
  obtain ⟨storeFaults, directoryFaults, looked⟩ :=
    observes_world hw (findForRepository_observes t r n)
  rw [holds_iff, found] at verdict
  rw [found] at hw' looked
  exact ⟨publisherVerdict_eq_ok.mp verdict.symm, hw', storeFaults, directoryFaults, looked⟩

theorem persistReject_ok (hw : w.InMemory) {r : Int} {n : String} {q : Proposal}
    (ok : (persistReject r n).run.outcome w = (.ok q, w')) :
    ∃ p, w.store.matching r .submitted n = [p] ∧
      q = Transition.reject.apply p (stamp w.clock p.updatedAt) ∧ w'.store = w.store.put q := by
  unfold persistReject at ok
  obtain ⟨p, w₁, found, persisted⟩ := bind_ok ok
  obtain ⟨only, hw₁, _, _, rfl⟩ := findForRepository_found hw rfl found
  obtain ⟨written, put⟩ := persistTransition_ok hw₁ persisted
  exact ⟨p, only, written, put⟩

/-- A call that answered `d` from `w`, leaving `w'`, wrote `r` in place of what was stored under
`r`'s key, changed no other record and answered `r`. -/
def WroteOnly (w w' : World) (d : ProposalDto) (r : Proposal) : Prop :=
  d = r.toDto ∧ w.store.Writes w'.store r.key (some r)

theorem wroteOnly_put {r : Proposal} (store : w'.store = w.store.put r) :
    WroteOnly w w' r.toDto r :=
  ⟨rfl, store ▸ MemoryStore.writes_put w.store r⟩

theorem outcome_viaDirectory_proposalUser (hw : w.InMemory) (op : String) (u : Int) :
    (viaDirectory op (Script.op (.proposalUser u))).run.outcome w =
      ((w.directory.proposalUser u).mapError (ServiceError.ofDirectory op),
        w.countDirectory .proposalUser) := by
  refine (outcome_mapError (Script.op (.proposalUser u)) _ w).trans ?_
  change (Except.mapError _ ((Op.proposalUser u).outcome w).1, ((Op.proposalUser u).outcome w).2) = _
  rw [outcome_proposalUser hw]

theorem updateProposal_ok (hw : w.InMemory) {u : Int} {existing change d : ProposalDto}
    (ok : (updateProposal u existing change).run.outcome w = (.ok d, w')) :
    ∃ user, w.directory.proposalUser u = .ok user ∧ existing.userId = u ∧
      existing.status = .draft ∧
      WroteOnly w w' d { existing.toProposal with
        ownerName := user.displayName, emailAddress := user.email, name := change.name
        description := change.description, survey := change.survey
        contributors := change.contributors, updatedAt := max w.clock existing.updatedAt } := by
  unfold updateProposal at ok
  dsimp only at ok
  split at ok
  · exact absurd ok throw_bind_ne_ok
  split at ok
  · exact absurd ok throw_bind_ne_ok
  next owner draft =>
  obtain ⟨user, w₁, looked, rest⟩ := bind_ok ok
  rw [outcome_viaDirectory_proposalUser hw] at looked
  cases found : w.directory.proposalUser u with
  | error e =>
    rw [found] at looked
    cases looked
  | ok v =>
    rw [found] at looked
    cases looked
    rw [outcome_lift_bind, outcome_op, outcome_now] at rest
    obtain ⟨_, w₂, wrote, answered⟩ := bind_ok rest
    rw [outcome_pure] at answered
    cases answered
    have put := viaStore_updateIf_ok (hw.countDirectory _) wrote
    have owner : existing.userId = u := by simpa using owner
    subst owner
    exact ⟨user, rfl, rfl, by simpa using draft, wroteOnly_put put⟩

theorem withdraw_apply (p : Proposal) (now : Int) :
    Transition.withdraw.apply p (stamp now p.updatedAt) =
      { p with status := .withdrawn, updatedAt := max now p.updatedAt
               withdrawnAt := if p.withdrawnAt = 0 then max now p.updatedAt else p.withdrawnAt } := by
  simp only [Transition.apply, Transition.target, stamp, beq_iff_eq]

theorem reject_apply (p : Proposal) (now : Int) :
    Transition.reject.apply p (stamp now p.updatedAt) =
      { p with status := .rejected, updatedAt := max now p.updatedAt
               rejectedAt := if p.rejectedAt = 0 then max now p.updatedAt else p.rejectedAt } := by
  simp only [Transition.apply, Transition.target, stamp, beq_iff_eq]

theorem withdrawProposal_ok (hw : w.InMemory) {u : Int} {n : String} {d : ProposalDto}
    (ok : ((withdrawProposal u n).run.outcome w).1 = .ok d) :
    ∃ p, w.store.lookup ⟨u, n⟩ = some p ∧ p.status = .submitted ∧
      WroteOnly w ((withdrawProposal u n).run.outcome w).2 d
        (Transition.withdraw.apply p (stamp w.clock p.updatedAt)) := by
  obtain ⟨r, w₁, persisted, rfl, store⟩ := notified_ok (persistWithdraw u n) Proposal.toDto
    (fun p => notifyTeam_calls .withdrawn p) hw.clean ok
  obtain ⟨p, found, source, rfl, put⟩ := persistWithdraw_ok hw persisted
  exact ⟨p, found, source, wroteOnly_put (store.trans put)⟩

theorem rejectProposal_ok (hw : w.InMemory) {r : Int} {n : String} {d : ProposalDto}
    (ok : ((rejectProposal r n).run.outcome w).1 = .ok d) :
    ∃ p, w.store.matching r .submitted n = [p] ∧
      WroteOnly w ((rejectProposal r n).run.outcome w).2 d
        (Transition.reject.apply p (stamp w.clock p.updatedAt)) := by
  obtain ⟨q, w₁, persisted, rfl, store⟩ := notified_ok (persistReject r n) Proposal.toDto
    (fun p => notifyOwner_calls .rejected p p.organizationNodeId) hw.clean ok
  obtain ⟨p, only, rfl, put⟩ := persistReject_ok hw persisted
  exact ⟨p, only, wroteOnly_put (store.trans put)⟩

theorem submitProposal_ok (hw : w.InMemory) {u : Int} {n : String} {d : ProposalDto}
    (ok : ((submitProposal u n).run.outcome w).1 = .ok d) :
    ∃ p repo, w.store.lookup ⟨u, n⟩ = some p ∧ p.status = .draft ∧
      w.store.workspaceRepositories p.organizationNodeId = [repo] ∧
      WroteOnly w ((submitProposal u n).run.outcome w).2 d (submittedRecord p repo w.clock) := by
  rcases submitProposal_written_or_refused hw (u := u) (n := n) with
    ⟨p, repo, found, draft, only, result, store⟩ | ⟨_, -, -, refused⟩ | ⟨_, refused, -⟩
  · rw [result] at ok
    cases ok
    exact ⟨p, repo, found, draft, only, wroteOnly_put store⟩
  · rw [refused] at ok
    cases ok
  · rw [refused] at ok
    cases ok

theorem acceptProposal_ok (hw : w.InMemory) {r : Int} {n : String} {d : ProposalDto}
    (ok : ((acceptProposal r n).run.outcome w).1 = .ok d) :
    ∃ p created, w.store.matching r .submitted n = [p] ∧
      (∃ directory, w.directory.provision p ("N:dataset:" ++ candidateUuid w.nextIssue) =
        .ok (created, directory)) ∧
      WroteOnly w ((acceptProposal r n).run.outcome w).2 d (acceptedRecord p created w.clock) := by
  rcases lookup : (findForRepository .accept r n).run.outcome w with ⟨_ | P, w₁⟩
  · rw [(acceptProposal_failed_lookup hw lookup).1] at ok
    cases ok
  · obtain ⟨only, hw₁, _, _, rfl⟩ := findForRepository_found hw rfl lookup
    -- past the lookup, provisioning and then the conditional write decide the answer
    cases provided : w.directory.provision P ("N:dataset:" ++ candidateUuid w.nextIssue) with
    | error e =>
      rw [(acceptProposal_refused hw hw₁ lookup provided).1] at ok
      cases ok
    | ok result =>
      obtain ⟨created, directory⟩ := result
      obtain ⟨-, -, written, refused⟩ := acceptProposal_provisioned hw hw₁ lookup provided
      cases wrote : w.store.updateIf (acceptedRecord P created w.clock) .submitted with
      | error e =>
        rw [(refused e wrote).1] at ok
        cases ok
      | ok s =>
        obtain ⟨answered, store⟩ := written s wrote
        rw [answered] at ok
        cases ok
        obtain ⟨_, _, _, put⟩ := MemoryStore.updateIf_eq_ok.mp wrote
        exact ⟨P, created, only, ⟨directory, provided⟩, wroteOnly_put (store.trans put)⟩

/-- What each call that changes a proposal wrote from world `w` when it answered well: the
record it started from with only the listed fields changed, written under that record's key
with every other record kept, and answered. An update starts from the caller's copy of the
owner's DRAFT, a submission or a withdrawal from the stored record in its source status, a
rejection or an acceptance from the repository's one SUBMITTED record under the node id. -/
structure WritesFramed (w : World) : Prop where
  update : ∀ u existing change d, ((updateProposal u existing change).run.outcome w).1 = .ok d →
    ∃ user, w.directory.proposalUser u = .ok user ∧ existing.userId = u ∧
      existing.status = .draft ∧
      WroteOnly w ((updateProposal u existing change).run.outcome w).2 d
        { existing.toProposal with
          ownerName := Text.trim (user.firstName ++ " " ++ user.lastName)
          emailAddress := user.email
          name := change.name
          description := change.description
          survey := change.survey
          contributors := change.contributors
          updatedAt := max w.clock existing.updatedAt }
  submit : ∀ u n d, ((submitProposal u n).run.outcome w).1 = .ok d →
    ∃ p repo, w.store.lookup ⟨u, n⟩ = some p ∧ p.status = .draft ∧
      w.store.workspaceRepositories p.organizationNodeId = [repo] ∧
      WroteOnly w ((submitProposal u n).run.outcome w).2 d
        { p with
          repositoryId := repo.repositoryId
          status := .submitted
          updatedAt := max w.clock p.updatedAt
          submittedAt := if p.submittedAt = 0 then max w.clock p.updatedAt else p.submittedAt }
  withdraw : ∀ u n d, ((withdrawProposal u n).run.outcome w).1 = .ok d →
    ∃ p, w.store.lookup ⟨u, n⟩ = some p ∧ p.status = .submitted ∧
      WroteOnly w ((withdrawProposal u n).run.outcome w).2 d
        { p with
          status := .withdrawn
          updatedAt := max w.clock p.updatedAt
          withdrawnAt := if p.withdrawnAt = 0 then max w.clock p.updatedAt else p.withdrawnAt }
  reject : ∀ r n d, ((rejectProposal r n).run.outcome w).1 = .ok d →
    ∃ p, w.store.matching r .submitted n = [p] ∧
      WroteOnly w ((rejectProposal r n).run.outcome w).2 d
        { p with
          status := .rejected
          updatedAt := max w.clock p.updatedAt
          rejectedAt := if p.rejectedAt = 0 then max w.clock p.updatedAt else p.rejectedAt }
  accept : ∀ r n d, ((acceptProposal r n).run.outcome w).1 = .ok d →
    ∃ p created, w.store.matching r .submitted n = [p] ∧
      (∃ directory, w.directory.provision p ("N:dataset:" ++ candidateUuid w.nextIssue) =
        .ok (created, directory)) ∧
      WroteOnly w ((acceptProposal r n).run.outcome w).2 d
        { p with
          datasetNodeId := created.dataset.nodeId
          organizationNodeId := created.organization.nodeId
          status := .accepted
          updatedAt := max w.clock p.updatedAt
          acceptedAt := if p.acceptedAt = 0 then max w.clock p.updatedAt else p.acceptedAt }

/-- On the in-memory store and directory with no fault, every call that changes a proposal and
answers well wrote one record, the record it started from changed only in the fields its
operation owns, and answered that record; no other stored proposal changed. -/
theorem mutating_calls_frame (w : World) (hw : w.InMemory) : WritesFramed w where
  update _ _ _ _ ok := updateProposal_ok hw (Prod.ext ok rfl)
  submit _ _ _ := submitProposal_ok hw
  withdraw _ _ _ ok := by
    obtain ⟨p, found, source, wrote⟩ := withdrawProposal_ok hw ok
    exact ⟨p, found, source, withdraw_apply p w.clock ▸ wrote⟩
  reject _ _ _ ok := by
    obtain ⟨p, only, wrote⟩ := rejectProposal_ok hw ok
    exact ⟨p, only, reject_apply p w.clock ▸ wrote⟩
  accept _ _ _ := acceptProposal_ok hw

theorem writes_framed_in_draftWorld : draftWorld.InMemory ∧ WritesFramed draftWorld :=
  ⟨draftWorld_inMemory, mutating_calls_frame draftWorld draftWorld_inMemory⟩

end Service
end DatasetProposals
