import DatasetProposals.Proofs.CallWrites
/-! Acceptance, end to end, on the in-memory store and directory with no fault. Main statement:
`acceptance_end_to_end`. -/
namespace DatasetProposals

namespace Script
variable {α β : Type}

def calls : Script α → World → List Op
  | .done _, _ => []
  | .call o next, w => o :: (next (o.outcome w).1).calls (o.outcome w).2

theorem calls_bind (s : Script α) (f : α → Script β) (w : World) :
    (s >>= f).calls w = s.calls w ++ (f (s.outcome w).1).calls (s.outcome w).2 := by
  induction s generalizing w with
  | done a => rfl
  | call o next ih => simp only [call_bind, calls, ih, outcome_call, List.cons_append]

theorem calls_op (o : Op) (w : World) : (Script.op o).calls w = [o] := rfl

theorem Everywhere.of_calls {P : Op → Prop} {s : Script α} (every : Everywhere P s) (w : World) :
    ∀ o ∈ s.calls w, P o := by
  induction every generalizing w with
  | done a => exact fun _ none => nomatch none
  | call here _ ih =>
    intro o mem
    rcases List.mem_cons.mp mem with rfl | later
    · exact here
    · exact ih _ _ o later

theorem Everywhere.filter_calls {Q : Op → Bool} {s : Script α} (never : Everywhere (Q · = false) s)
    (w : World) : (s.calls w).filter Q = [] :=
  List.filter_eq_nil_iff.mpr fun o mem => by simp [never.of_calls w o mem]

end Script

namespace ServiceAct
open Script
variable {α β : Type}

theorem outcome_bind (x : ServiceAct α) (f : α → ServiceAct β) (w : World) :
    (x >>= f).run.outcome w = match x.run.outcome w with
      | (.ok a, w') => (f a).run.outcome w'
      | (.error e, w') => (.error e, w') := by
  change (x.run >>= _).outcome w = _
  rw [Script.outcome_bind]
  generalize x.run.outcome w = first
  obtain ⟨r, w'⟩ := first
  cases r <;> rfl

theorem calls_bind (x : ServiceAct α) (f : α → ServiceAct β) (w : World) :
    (x >>= f).run.calls w = x.run.calls w ++ match x.run.outcome w with
      | (.ok a, w') => (f a).run.calls w'
      | (.error _, _) => [] := by
  change (x.run >>= _).calls w = _
  rw [Script.calls_bind]
  generalize x.run.outcome w = first
  obtain ⟨r, w'⟩ := first
  cases r <;> rfl

theorem stops_at_error {w w' : World} {x : ServiceAct α} {f : α → ServiceAct β} {e : ServiceError}
    (failed : x.run.outcome w = (.error e, w')) :
    (x >>= f).run.outcome w = (.error e, w') ∧ (x >>= f).run.calls w = x.run.calls w := by
  rw [outcome_bind, calls_bind, failed]
  exact ⟨rfl, List.append_nil _⟩

theorem outcome_lift_bind (s : Script α) (f : α → ServiceAct β) (w : World) :
    ((liftM s : ServiceAct α) >>= f).run.outcome w = (f (s.outcome w).1).run.outcome (s.outcome w).2 := by
  rw [run_lift_bind, Script.outcome_bind]

theorem calls_lift_bind (s : Script α) (f : α → ServiceAct β) (w : World) :
    ((liftM s : ServiceAct α) >>= f).run.calls w =
      s.calls w ++ (f (s.outcome w).1).run.calls (s.outcome w).2 := by
  rw [run_lift_bind, Script.calls_bind]

theorem outcome_mapError {ε : Type} (call : Script (Except ε α)) (f : ε → ServiceError) (w : World) :
    (ExceptT.mk (do return (← call).mapError f) : ServiceAct α).run.outcome w =
      (((call.outcome w).1).mapError f, (call.outcome w).2) := by
  change (call >>= _).outcome w = _
  rw [Script.outcome_bind]
  rfl

theorem calls_mapError {ε : Type} (call : Script (Except ε α)) (f : ε → ServiceError) (w : World) :
    (ExceptT.mk (do return (← call).mapError f) : ServiceAct α).run.calls w = call.calls w := by
  change (call >>= _).calls w = _
  rw [Script.calls_bind]
  exact List.append_nil _

theorem filter_calls_notified (x : ServiceAct α) (view : α → β) {notice : α → Script Unit}
    (quiet : ∀ a, Everywhere (fun o => o.WritesStore = false ∧ o.Provisions = false) (notice a))
    {Q : Op → Bool} (outside : ∀ o, o.WritesStore = false → o.Provisions = false → Q o = false)
    (w : World) :
    ((x >>= fun a => (liftM (notice a) : ServiceAct Unit) >>= fun _ => pure (view a)).run.calls w).filter
      Q = (x.run.calls w).filter Q := by
  rw [ServiceAct.calls_bind, List.filter_append]
  generalize x.run.outcome w = persisted
  obtain ⟨_ | a, w'⟩ := persisted
  · exact List.append_nil _
  · dsimp only
    rw [calls_lift_bind, List.filter_append,
      ((quiet a).mono fun o kept => outside o kept.1 kept.2).filter_calls, List.nil_append]
    exact List.append_nil _

end ServiceAct

namespace World
variable {w : World}

theorem InMemory.provisioned (hw : w.InMemory) (d : MemoryDirectory) :
    World.InMemory { w.countDirectory .provision with issued := w.nextIssue, directory := d } :=
  ⟨hw.documents, hw.relational, hw.storeRules, hw.directoryRules⟩

end World

namespace Service
open Script ServiceAct World
variable {w w₁ : World} {r : Int} {n : String}

def acceptedRecord (p : Proposal) (created : CreatedDataset) (now : Int) : Proposal :=
  { p with datasetNodeId := created.dataset.nodeId
           organizationNodeId := created.organization.nodeId
           status := .accepted
           updatedAt := max now p.updatedAt
           acceptedAt := if p.acceptedAt = 0 then max now p.updatedAt else p.acceptedAt }

theorem accept_apply_placed (p : Proposal) (created : CreatedDataset) (now : Int) :
    Transition.accept.apply
        { p with datasetNodeId := created.dataset.nodeId
                 organizationNodeId := created.organization.nodeId }
        (stamp now p.updatedAt) = acceptedRecord p created now := by
  simp only [Transition.apply, Transition.target, acceptedRecord, stamp, beq_iff_eq]

theorem accept_source : Transition.accept.source = .submitted := rfl

/-! The two calls acceptance makes after its lookup, on an in-memory world. -/

theorem outcome_provision_renamed (hw : w.InMemory) (p : Proposal)
    (f : DirectoryError → ServiceError) :
    (ExceptT.mk (do return (← Script.op (.provision p)).mapError f) :
        ServiceAct CreatedDataset).run.outcome w =
      match w.directory.provision p ("N:dataset:" ++ candidateUuid w.nextIssue) with
      | .ok (created, d) =>
        (.ok created, { w.countDirectory .provision with issued := w.nextIssue, directory := d })
      | .error e => (.error (f e), { w.countDirectory .provision with issued := w.nextIssue }) := by
  refine (outcome_mapError (Script.op (.provision p)) f w).trans ?_
  -- read the call's answer at its own type, where the provisioning lemma states it
  change (Except.mapError f ((Op.provision p).outcome w).1, ((Op.provision p).outcome w).2) = _
  rw [outcome_provision hw]
  cases w.directory.provision p ("N:dataset:" ++ candidateUuid w.nextIssue) with
  | error e => rfl
  | ok result => rfl

theorem calls_provision_renamed (p : Proposal) (f : DirectoryError → ServiceError) (w : World) :
    (ExceptT.mk (do return (← Script.op (.provision p)).mapError f) :
        ServiceAct CreatedDataset).run.calls w = [.provision p] :=
  calls_mapError (Script.op (.provision p)) f w

theorem outcome_viaStore_updateIf (hw : w.InMemory) (op : String) (p : Proposal) (expected : Status) :
    (viaStore op (Script.op (.updateIf p expected))).run.outcome w =
      match w.store.updateIf p expected with
      | .ok s => (.ok (), { w.countStore .updateIf with store := s })
      | .error e => (.error (.ofStorage op e), w.countStore .updateIf) := by
  refine (outcome_mapError (Script.op (.updateIf p expected)) _ w).trans ?_
  change (Except.mapError _ ((Op.updateIf p expected).outcome w).1,
    ((Op.updateIf p expected).outcome w).2) = _
  rw [outcome_updateIf hw]
  cases w.store.updateIf p expected with
  | error e => rfl
  | ok s => rfl

theorem calls_viaStore_updateIf (op : String) (p : Proposal) (expected : Status) (w : World) :
    (viaStore op (Script.op (.updateIf p expected))).run.calls w = [.updateIf p expected] :=
  calls_mapError (Script.op (.updateIf p expected)) _ w

/-! Acceptance's persisting part, after its lookup. -/

theorem persistAccept_failed_lookup {e : ServiceError}
    (failed : (findForRepository .accept r n).run.outcome w = (.error e, w₁)) :
    (persistAccept r n).run.outcome w = (.error e, w₁) ∧
      (persistAccept r n).run.calls w = (findForRepository .accept r n).run.calls w :=
  stops_at_error failed

theorem outcome_persistAccept_found (hw₁ : w₁.InMemory) {P : Proposal}
    (found : (findForRepository .accept r n).run.outcome w = (.ok P, w₁)) :
    (persistAccept r n).run.outcome w =
      match w₁.directory.provision P ("N:dataset:" ++ candidateUuid w₁.nextIssue) with
      | .error e => (.error (.external Transition.accept.operation e),
          { w₁.countDirectory .provision with issued := w₁.nextIssue })
      | .ok (created, d) =>
        match w₁.store.updateIf (acceptedRecord P created w₁.clock) .submitted with
        | .ok s => (.ok (acceptedRecord P created w₁.clock, P.organizationNodeId),
            { World.countStore { w₁.countDirectory .provision with issued := w₁.nextIssue, directory := d }
                .updateIf with store := s })
        | .error e => (.error (.ofStorage Transition.accept.operation e),
            World.countStore { w₁.countDirectory .provision with issued := w₁.nextIssue, directory := d }
              .updateIf) := by
  unfold persistAccept
  dsimp only
  rw [ServiceAct.outcome_bind, found]
  dsimp only
  rw [ServiceAct.outcome_bind, outcome_provision_renamed hw₁]
  cases w₁.directory.provision P ("N:dataset:" ++ candidateUuid w₁.nextIssue) with
  | error e => rfl
  | ok result =>
    obtain ⟨created, d⟩ := result
    have hw₂ := hw₁.provisioned d
    dsimp only at hw₂ ⊢
    rw [outcome_lift_bind, outcome_op, outcome_now]
    dsimp only
    rw [ServiceAct.outcome_bind, outcome_viaStore_updateIf hw₂, countDirectory_clock,
      countDirectory_store, accept_apply_placed, accept_source]
    cases w₁.store.updateIf (acceptedRecord P created w₁.clock) .submitted with
    | error e => rfl
    | ok s => rfl

theorem calls_persistAccept_found (hw₁ : w₁.InMemory) {P : Proposal}
    (found : (findForRepository .accept r n).run.outcome w = (.ok P, w₁)) :
    (persistAccept r n).run.calls w = (findForRepository .accept r n).run.calls w ++ .provision P ::
      match w₁.directory.provision P ("N:dataset:" ++ candidateUuid w₁.nextIssue) with
      | .error _ => []
      | .ok (created, _) => [.now, .updateIf (acceptedRecord P created w₁.clock) .submitted] := by
  unfold persistAccept
  dsimp only
  rw [ServiceAct.calls_bind, found]
  dsimp only
  rw [ServiceAct.calls_bind, calls_provision_renamed, outcome_provision_renamed hw₁]
  cases w₁.directory.provision P ("N:dataset:" ++ candidateUuid w₁.nextIssue) with
  | error e => rfl
  | ok result =>
    obtain ⟨created, d⟩ := result
    have hw₂ := hw₁.provisioned d
    dsimp only at hw₂ ⊢
    rw [calls_lift_bind, calls_op, outcome_op, outcome_now]
    dsimp only
    rw [ServiceAct.calls_bind, calls_viaStore_updateIf, outcome_viaStore_updateIf hw₂,
      countDirectory_clock, countDirectory_store, accept_apply_placed, accept_source]
    cases w₁.store.updateIf (acceptedRecord P created w₁.clock) .submitted with
    | error e => rfl
    | ok s => rfl

/-! Acceptance as a whole: the persisting part, then the owner's notification, which neither
writes the store nor provisions. -/

theorem outcome_acceptProposal (hw : w.InMemory) :
    ((acceptProposal r n).run.outcome w).1 = ((persistAccept r n).run.outcome w).1.map (·.1.toDto) ∧
      ((acceptProposal r n).run.outcome w).2.store = ((persistAccept r n).run.outcome w).2.store ∧
      ((acceptProposal r n).run.outcome w).2.directory =
        ((persistAccept r n).run.outcome w).2.directory :=
  outcome_notified (persistAccept r n) (fun a => a.1.toDto)
    (fun a => notifyOwner_calls .accepted a.1 a.2) hw.clean

theorem filter_calls_acceptProposal {Q : Op → Bool}
    (outside : ∀ o, o.WritesStore = false → o.Provisions = false → Q o = false) (w : World) :
    ((acceptProposal r n).run.calls w).filter Q = ((persistAccept r n).run.calls w).filter Q :=
  filter_calls_notified (persistAccept r n) (fun a => a.1.toDto)
    (fun a => notifyOwner_calls .accepted a.1 a.2) outside w

theorem filter_calls_findForRepository {Q : Op → Bool} (outside : ∀ o, o.Observes = true → Q o = false)
    (t : Transition) (w : World) : ((findForRepository t r n).run.calls w).filter Q = [] :=
  ((findForRepository_observes t r n).mono outside).filter_calls w

theorem acceptProposal_failed_lookup (hw : w.InMemory) {e : ServiceError}
    (failed : (findForRepository .accept r n).run.outcome w = (.error e, w₁)) :
    ((acceptProposal r n).run.outcome w).1 = .error e ∧
      ((acceptProposal r n).run.calls w).filter (·.Provisions) = [] := by
  obtain ⟨persisted, calls⟩ := persistAccept_failed_lookup failed
  obtain ⟨result, -, -⟩ := outcome_acceptProposal hw (r := r) (n := n)
  rw [persisted] at result
  rw [filter_calls_acceptProposal (fun _ _ none => none), calls,
    filter_calls_findForRepository (fun _ observes => Op.Quiet.provisions (Op.Observes.quiet observes))]
  exact ⟨result, rfl⟩

theorem acceptProposal_provisions_found (hw₁ : w₁.InMemory) {P : Proposal}
    (found : (findForRepository .accept r n).run.outcome w = (.ok P, w₁)) :
    ((acceptProposal r n).run.calls w).filter (·.Provisions) = [.provision P] := by
  rw [filter_calls_acceptProposal (fun _ _ none => none), calls_persistAccept_found hw₁ found,
    List.filter_append,
    filter_calls_findForRepository (fun _ observes => Op.Quiet.provisions (Op.Observes.quiet observes))]
  rcases w₁.directory.provision P ("N:dataset:" ++ candidateUuid w₁.nextIssue) with _ | ⟨created, d⟩
  · rfl
  · rfl

theorem acceptProposal_refused (hw : w.InMemory) (hw₁ : w₁.InMemory) {P : Proposal} {e : DirectoryError}
    (found : (findForRepository .accept r n).run.outcome w = (.ok P, w₁))
    (refused : w₁.directory.provision P ("N:dataset:" ++ candidateUuid w₁.nextIssue) = .error e) :
    ((acceptProposal r n).run.outcome w).1 = .error (.external Transition.accept.operation e) ∧
      ((acceptProposal r n).run.outcome w).2.store = w₁.store ∧
      ((acceptProposal r n).run.outcome w).2.directory = w₁.directory := by
  obtain ⟨result, store, directory⟩ := outcome_acceptProposal hw (r := r) (n := n)
  rw [outcome_persistAccept_found hw₁ found, refused] at result store directory
  exact ⟨result, store, directory⟩

theorem acceptProposal_provisioned (hw : w.InMemory) (hw₁ : w₁.InMemory) {P : Proposal}
    {created : CreatedDataset} {d : MemoryDirectory}
    (found : (findForRepository .accept r n).run.outcome w = (.ok P, w₁))
    (provided : w₁.directory.provision P ("N:dataset:" ++ candidateUuid w₁.nextIssue) = .ok (created, d)) :
    ((acceptProposal r n).run.calls w).filter (·.WritesStore) =
        [.updateIf (acceptedRecord P created w₁.clock) .submitted] ∧
      ((acceptProposal r n).run.outcome w).2.directory = d ∧
      (∀ s, w₁.store.updateIf (acceptedRecord P created w₁.clock) .submitted = .ok s →
        ((acceptProposal r n).run.outcome w).1 = .ok (acceptedRecord P created w₁.clock).toDto ∧
          ((acceptProposal r n).run.outcome w).2.store = s) ∧
      (∀ e, w₁.store.updateIf (acceptedRecord P created w₁.clock) .submitted = .error e →
        ((acceptProposal r n).run.outcome w).1 = .error (.ofStorage Transition.accept.operation e) ∧
          ((acceptProposal r n).run.outcome w).2.store = w₁.store) := by
  have writes : ((acceptProposal r n).run.calls w).filter (·.WritesStore) =
      [.updateIf (acceptedRecord P created w₁.clock) .submitted] := by
    rw [filter_calls_acceptProposal (fun _ none _ => none), calls_persistAccept_found hw₁ found,
      List.filter_append,
      filter_calls_findForRepository (fun _ observes => Op.Quiet.writesStore (Op.Observes.quiet observes)),
      provided]
    rfl
  obtain ⟨result, store, directory⟩ := outcome_acceptProposal hw (r := r) (n := n)
  rw [outcome_persistAccept_found hw₁ found, provided] at result store directory
  dsimp only at result store directory
  refine ⟨writes, ?_, fun s written => ?_, fun e refused => ?_⟩
  · split at directory <;> exact directory
  · rw [written] at result store
    exact ⟨result, store⟩
  · rw [refused] at result store
    exact ⟨result, store⟩

/-- Acceptance, end to end, on the in-memory store and directory with no fault armed. A failed
lookup answers its error and provisions nothing. Otherwise the lookup found the repository's
SUBMITTED record `P`, and the call provisions once, for `P`, drawing the next dataset node id.
A failed provisioning answers the external error and changes neither the proposals nor the
directory. After a successful one the call writes once, `acceptedRecord` over SUBMITTED; the
dataset is named after `P` and owned by its owner, in the publishing organization; the directory
keeps it, and the call answers the record written exactly when the write succeeds, else the
store's error. -/
theorem acceptance_end_to_end (w : World) (hw : w.InMemory) (r : Int) (n : String) :
    (∀ e, ((findForRepository .accept r n).run.outcome w).1 = .error e →
      ((acceptProposal r n).run.outcome w).1 = .error e ∧
        ((acceptProposal r n).run.calls w).filter (·.Provisions) = []) ∧
    ∀ P, ((findForRepository .accept r n).run.outcome w).1 = .ok P →
      w.store.proposalForRepository r .submitted n = .ok P ∧
      ((acceptProposal r n).run.calls w).filter (·.Provisions) = [.provision P] ∧
      (∀ e, w.directory.provision P ("N:dataset:" ++ candidateUuid w.nextIssue) = .error e →
        ((acceptProposal r n).run.outcome w).1 = .error (.external Transition.accept.operation e) ∧
          ((acceptProposal r n).run.outcome w).2.store = w.store ∧
          ((acceptProposal r n).run.outcome w).2.directory = w.directory) ∧
      ∀ created d, w.directory.provision P ("N:dataset:" ++ candidateUuid w.nextIssue) = .ok (created, d) →
        ((acceptProposal r n).run.calls w).filter (·.WritesStore) =
            [.updateIf (acceptedRecord P created w.clock) .submitted] ∧
          created.dataset.name = P.name ∧ (created.dataset.id, P.userId) ∈ d.datasetOwners ∧
          w.directory.organizations.find? (·.id == w.directory.publishingOrganizationId) =
            some created.organization ∧
          ((acceptProposal r n).run.outcome w).2.directory = d ∧
          (∀ s, w.store.updateIf (acceptedRecord P created w.clock) .submitted = .ok s →
            ((acceptProposal r n).run.outcome w).1 = .ok (acceptedRecord P created w.clock).toDto ∧
              ((acceptProposal r n).run.outcome w).2.store = s) ∧
          (∀ e, w.store.updateIf (acceptedRecord P created w.clock) .submitted = .error e →
            ((acceptProposal r n).run.outcome w).1 = .error (.ofStorage Transition.accept.operation e) ∧
              ((acceptProposal r n).run.outcome w).2.store = w.store) := by
  have origin := findForRepository_origin hw (t := .accept) rfl r n
  -- the lookup only observes: past it, the world is `w` up to its fault counters
  obtain ⟨storeFaults, directoryFaults, looked⟩ :=
    observes_world hw (findForRepository_observes .accept r n)
  have hw₁ := (Script.follows hw (findForRepository .accept r n).run).inMemory
  rcases lookup : (findForRepository .accept r n).run.outcome w with ⟨_ | P, w₁⟩
  all_goals rw [lookup] at looked hw₁
  all_goals subst looked
  case error e =>
    refine ⟨fun e' failed => ?_, fun P found => nomatch found⟩
    cases failed
    exact acceptProposal_failed_lookup hw lookup
  case ok =>
    refine ⟨fun e failed => (nomatch failed), fun P' found => ?_⟩
    cases found
    refine ⟨origin P (by rw [lookup]), acceptProposal_provisions_found hw₁ lookup,
      fun e refused => acceptProposal_refused hw hw₁ lookup refused, fun created d provided => ?_⟩
    obtain ⟨writes, directory, written, lost⟩ := acceptProposal_provisioned hw hw₁ lookup provided
    obtain ⟨-, -, userId, organization, dataset, provisioned⟩ := MemoryDirectory.provision_eq_ok provided
    refine ⟨writes, by rw [dataset], ?_, organization, directory, written, lost⟩
    rw [provisioned.owners, ← userId]
    exact MemoryDirectory.mem_addPair_self _ _

/-- In the sample world with a SUBMITTED proposal, accepting it in repository 20 finds it,
provisions a dataset named after it, and writes it ACCEPTED. -/
theorem acceptance_end_to_end_in_sample_world :
    World.sampleSubmitted.InMemory ∧
    ((findForRepository .accept 20 "N:proposal:1").run.outcome World.sampleSubmitted).1.toOption.map Proposal.key = some ⟨1, "N:proposal:1"⟩ ∧
    ((acceptProposal 20 "N:proposal:1").run.outcome World.sampleSubmitted).2.directory.datasets.map (·.name) = ["Survey"] ∧
    ((acceptProposal 20 "N:proposal:1").run.outcome World.sampleSubmitted).1.toOption.map (·.status) = some .accepted ∧
    (∀ e, ((findForRepository .accept 20 "N:proposal:1").run.outcome World.sampleSubmitted).1 = .error e →
      ((acceptProposal 20 "N:proposal:1").run.outcome World.sampleSubmitted).1 = .error e ∧
        ((acceptProposal 20 "N:proposal:1").run.calls World.sampleSubmitted).filter (·.Provisions) = []) ∧
    ∀ P, ((findForRepository .accept 20 "N:proposal:1").run.outcome World.sampleSubmitted).1 = .ok P →
      World.sampleSubmitted.store.proposalForRepository 20 .submitted "N:proposal:1" = .ok P ∧
      ((acceptProposal 20 "N:proposal:1").run.calls World.sampleSubmitted).filter (·.Provisions) = [.provision P] ∧
      (∀ e, World.sampleSubmitted.directory.provision P ("N:dataset:" ++ candidateUuid World.sampleSubmitted.nextIssue) = .error e →
        ((acceptProposal 20 "N:proposal:1").run.outcome World.sampleSubmitted).1 = .error (.external Transition.accept.operation e) ∧
          ((acceptProposal 20 "N:proposal:1").run.outcome World.sampleSubmitted).2.store = World.sampleSubmitted.store ∧
          ((acceptProposal 20 "N:proposal:1").run.outcome World.sampleSubmitted).2.directory = World.sampleSubmitted.directory) ∧
      ∀ created d, World.sampleSubmitted.directory.provision P ("N:dataset:" ++ candidateUuid World.sampleSubmitted.nextIssue) =
          .ok (created, d) →
        ((acceptProposal 20 "N:proposal:1").run.calls World.sampleSubmitted).filter (·.WritesStore) =
            [.updateIf (acceptedRecord P created World.sampleSubmitted.clock) .submitted] ∧
          created.dataset.name = P.name ∧ (created.dataset.id, P.userId) ∈ d.datasetOwners ∧
          World.sampleSubmitted.directory.organizations.find? (·.id == World.sampleSubmitted.directory.publishingOrganizationId) =
            some created.organization ∧
          ((acceptProposal 20 "N:proposal:1").run.outcome World.sampleSubmitted).2.directory = d ∧
          (∀ s, World.sampleSubmitted.store.updateIf (acceptedRecord P created World.sampleSubmitted.clock) .submitted = .ok s →
            ((acceptProposal 20 "N:proposal:1").run.outcome World.sampleSubmitted).1 = .ok (acceptedRecord P created World.sampleSubmitted.clock).toDto ∧
              ((acceptProposal 20 "N:proposal:1").run.outcome World.sampleSubmitted).2.store = s) ∧
          (∀ e, World.sampleSubmitted.store.updateIf (acceptedRecord P created World.sampleSubmitted.clock) .submitted = .error e →
            ((acceptProposal 20 "N:proposal:1").run.outcome World.sampleSubmitted).1 = .error (.ofStorage Transition.accept.operation e) ∧
              ((acceptProposal 20 "N:proposal:1").run.outcome World.sampleSubmitted).2.store = World.sampleSubmitted.store) :=
  ⟨World.sampleSubmitted_inMemory, by decide +kernel, by decide +kernel, by decide +kernel,
    acceptance_end_to_end World.sampleSubmitted World.sampleSubmitted_inMemory 20 "N:proposal:1"⟩

end Service

end DatasetProposals
