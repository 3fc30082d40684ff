import DatasetProposals.Proofs.CallShape
/-! Runs of the service interleaved with the harness's steps keep the proposal lifecycle. Main
statement: `every_step_keeps_lifecycle`. -/
namespace DatasetProposals

namespace Op

/-- The proposals `s'` after a write `o` that succeeded on `s`. -/
def Wrote : Op → MemoryStore → MemoryStore → Prop
  | .create p, s, s' => s.create p = .ok s'
  | .updateIf p e, s, s' => s.updateIf p e = .ok s'
  | .delete k, s, s' => s' = s.delete k
  | _, _, _ => False

theorem Observes.issues {o : Op} (observes : o.Observes = true) : o.Issues = false := by
  cases o <;> simp_all [Observes, Issues]

end Op

namespace MemoryStore

theorem Writes.lookup_self {s s' : MemoryStore} {k : ProposalKey} {v : Option Proposal}
    (writes : s.Writes s' k v) : s'.lookup k = v := by
  simp [writes.lookup]

theorem Writes.lookup_other {s s' : MemoryStore} {k k' : ProposalKey} {v : Option Proposal}
    (writes : s.Writes s' k v) (apart : k ≠ k') : s'.lookup k' = s.lookup k' := by
  simp [writes.lookup, apart]

end MemoryStore

namespace World
variable {w : World}

theorem outcome_write (hw : w.InMemory) {o : Op} (writes : o.WritesStore = true) :
    (∃ e, o.writeError (o.outcome w).1 = some e ∧ (o.outcome w).2.store = w.store) ∨
      (o.writeError (o.outcome w).1 = none ∧ o.Wrote w.store (o.outcome w).2.store) := by
  cases o with
  | create p =>
    rw [outcome_create hw]
    split
    · next s created => exact .inr ⟨rfl, created⟩
    · next e refused => exact .inl ⟨e, rfl, rfl⟩
  | updateIf p expected =>
    rw [outcome_updateIf hw]
    split
    · next s written => exact .inr ⟨rfl, written⟩
    · next e refused => exact .inl ⟨e, rfl, rfl⟩
  | delete k =>
    rw [outcome_delete hw]
    exact .inr ⟨rfl, rfl⟩
  | _ => cases writes

theorem outcome_observes (hw : w.InMemory) {o : Op} (observes : o.Observes = true) :
    ∃ storeFaults directoryFaults,
      (o.outcome w).2 = { w with storeFaults := storeFaults, directoryFaults := directoryFaults } := by
  obtain ⟨storeFaults, directoryFaults, store, directory, issued, sent, eq, -, -, -,
    keepsStore, keepsDirectory, keepsMail, keepsIssued⟩ := outcome_shape hw o
  have quiet := Op.Observes.quiet observes
  have sameStore : store = w.store := keepsStore (Op.Quiet.writesStore quiet)
  have sameDirectory : directory = w.directory := keepsDirectory (Op.Quiet.provisions quiet)
  have sameMail : sent = w.mailer.sent := keepsMail (Op.Quiet.delivers quiet)
  have sameIssued : issued = w.issued := keepsIssued (Op.Observes.issues observes)
  subst sameStore sameDirectory sameMail sameIssued
  exact ⟨storeFaults, directoryFaults, eq⟩

end World

namespace Script
open World
variable {w : World} {ε α : Type} {A : Op → Prop} {fail : StorageError → ε}

theorem observes_world (hw : w.InMemory) {s : Script α} (calls : Everywhere (·.Observes = true) s) :
    ∃ storeFaults directoryFaults,
      (s.outcome w).2 = { w with storeFaults := storeFaults, directoryFaults := directoryFaults } :=
  (Everywhere.keeps (I := World.InMemory)
    (R := fun u v => ∃ storeFaults directoryFaults,
      v = { u with storeFaults := storeFaults, directoryFaults := directoryFaults })
    (fun u => ⟨u.storeFaults, u.directoryFaults, rfl⟩)
    (fun ⟨_, _, first⟩ ⟨storeFaults, directoryFaults, second⟩ =>
      ⟨storeFaults, directoryFaults, by rw [second, first]⟩)
    (fun o _ hw observes => ⟨outcome_observes hw observes, (outcome_follows hw o).inMemory⟩)
    calls hw).1

theorem Finishes.store_law (hw : w.InMemory) {s : Script (Except ε α)} (shape : Finishes A fail s) :
    (s.outcome w).2.store = w.store ∨ ∃ o, A o ∧ o.Wrote w.store (s.outcome w).2.store := by
  induction shape generalizing w with
  | @quiet o next quiet _ ih =>
    -- a quiet call keeps the proposals, so the rest starts from the same ones
    have rest := ih (o.outcome w).1 (outcome_follows hw o).inMemory
    rwa [outcome_store hw (Op.Quiet.writesStore quiet)] at rest
  | @write o next writes allowed failed succeeded =>
    rw [outcome_call]
    rcases outcome_write hw writes with ⟨e, refused, kept⟩ | ⟨accepted, wrote⟩
    · rw [failed _ e refused, outcome_done]
      exact .inl kept
    · -- after the write only calls that keep the proposals follow
      have settled : Everywhere (·.WritesStore = false) (next (o.outcome w).1) :=
        (succeeded _ accepted).calls.mono fun _ keeps => keeps.1
      rw [store_eq (outcome_follows hw o).inMemory settled]
      exact .inr ⟨o, allowed, wrote⟩

theorem Commits.store_law (hw : w.InMemory) {s : Script (Except ε α)} {once : Bool}
    (shape : Commits A fail once s) :
    (s.outcome w).2.store = w.store ∨ ∃ o, A o ∧ o.Wrote w.store (s.outcome w).2.store := by
  induction shape generalizing w with
  | refuse e => exact .inl rfl
  | @quiet once o next quiet _ ih =>
    have rest := ih (o.outcome w).1 (outcome_follows hw o).inMemory
    rwa [outcome_store hw (Op.Quiet.writesStore quiet)] at rest
  | @provision p next failed succeeded =>
    -- provisioning keeps the proposals; what follows either stops or finishes
    have kept := outcome_store hw (o := .provision p) rfl
    have after := (outcome_follows hw (.provision p)).inMemory
    rw [outcome_call]
    cases refused : (Op.provision p).provisionFailed ((Op.provision p).outcome w).1 with
    | true =>
      obtain ⟨e, ended⟩ := failed _ refused
      rw [ended, outcome_done]
      exact .inl kept
    | false =>
      have rest := (succeeded _ refused).store_law after
      rwa [kept] at rest
  | finish finishes => exact finishes.store_law hw

end Script

namespace Service
namespace Call

/-- How a call may change the proposals: not at all, or as follows. Creation writes one DRAFT
record on a free key; an update rewrites one DRAFT record with a DRAFT one; a delete removes
the record under the key it names; a transition rewrites one record in its source status with
one in its target status. A read-only call makes no transition, so only its first case holds. -/
def StoreLaw : Call → MemoryStore → MemoryStore → Prop
  | .create _ _, s, s' =>
    s' = s ∨ ∃ p, p.status = .draft ∧ s.lookup p.key = none ∧ s.Writes s' p.key (some p)
  | .update _ _ _, s, s' =>
    s' = s ∨ ∃ p q, s.lookup p.key = some q ∧ q.status = .draft ∧ p.status = .draft ∧
      s.Writes s' p.key (some p)
  | .delete d, s, s' => s' = s ∨ s.Writes s' d.key none
  | c, s, s' =>
    s' = s ∨ ∃ t p q, c.transition? = some t ∧ s.lookup p.key = some q ∧ q.status = t.source ∧
      p.status = t.target ∧ s.Writes s' p.key (some p)

theorem storeLaw_refl (c : Call) (s : MemoryStore) : c.StoreLaw s s := by
  cases c <;> exact .inl rfl

theorem storeLaw_of_wrote {c : Call} {o : Op} {s s' : MemoryStore} (allowed : c.Allows o)
    (wrote : o.Wrote s s') : c.StoreLaw s s' := by
  cases c with
  | create u input =>
    obtain ⟨p, rfl, draft⟩ := allowed
    obtain ⟨free, rfl⟩ := MemoryStore.create_eq_ok.mp wrote
    exact .inr ⟨p, draft, free, s.writes_put p⟩
  | update u existing changes =>
    obtain ⟨p, rfl, draft⟩ := allowed
    obtain ⟨q, stored, wasDraft, rfl⟩ := MemoryStore.updateIf_eq_ok.mp wrote
    exact .inr ⟨p, q, stored, wasDraft, draft, s.writes_put p⟩
  | delete d =>
    subst allowed
    change s' = s.delete d.key at wrote
    subst wrote
    exact .inr (s.writes_delete d.key)
  | submit u n | withdraw u n | accept u n | reject u n =>
    obtain ⟨p, rfl, target⟩ := allowed
    obtain ⟨q, stored, source, rfl⟩ := MemoryStore.updateIf_eq_ok.mp wrote
    exact .inr ⟨_, p, q, rfl, stored, source, target, s.writes_put p⟩
  | _ => exact allowed.elim

theorem storeLaw_run {w : World} (hw : w.InMemory) (c : Call) (writes : c.readOnly = false) :
    c.StoreLaw w.store (c.act.run.outcome w).2.store := by
  rcases (c.commits writes).store_law hw with same | ⟨o, allowed, wrote⟩
  · rw [same]
    exact c.storeLaw_refl _
  · exact storeLaw_of_wrote allowed wrote

theorem StoreLaw.moves {c : Call} {s s' : MemoryStore} (law : c.StoreLaw s s') {k : ProposalKey}
    {q p : Proposal} (before : s.lookup k = some q) (after : s'.lookup k = some p)
    (moved : q.status ≠ p.status) :
    ∃ t, c.transition? = some t ∧ q.status = t.source ∧ p.status = t.target := by
  -- a key the law does not write keeps its record, and so its status
  have kept : ∀ {k'} {v : Option Proposal}, s.Writes s' k' v → k' ≠ k → False := fun writes apart => by
    rw [writes.lookup_other apart, before] at after
    cases after
    exact moved rfl
  have unchanged : s' = s → False := fun same => by
    rw [same, before] at after
    cases after
    exact moved rfl
  cases c with
  | create u input =>
    rcases law with same | ⟨r, _, free, writes⟩
    · exact (unchanged same).elim
    · by_cases here : r.key = k
      · rw [here, before] at free
        cases free
      · exact (kept writes here).elim
  | update u existing changes =>
    rcases law with same | ⟨r, old, stored, wasDraft, draft, writes⟩
    · exact (unchanged same).elim
    · by_cases here : r.key = k
      · subst here
        rw [writes.lookup_self] at after
        rw [stored] at before
        cases before
        cases after
        exact (moved (wasDraft.trans draft.symm)).elim
      · exact (kept writes here).elim
  | delete d =>
    rcases law with same | writes
    · exact (unchanged same).elim
    · by_cases here : d.key = k
      · subst here
        rw [writes.lookup_self] at after
        cases after
      · exact (kept writes here).elim
  | _ =>
    rcases law with same | ⟨t, r, old, transition, stored, source, target, writes⟩
    · exact (unchanged same).elim
    · by_cases here : r.key = k
      · subst here
        rw [writes.lookup_self] at after
        rw [stored] at before
        cases before
        cases after
        exact ⟨t, transition, source, target⟩
      · exact (kept writes here).elim

end Call

/-- One step of a run: a call of the service, or a change the harness makes to the clock, to
the provisioning step that fails, or to whether the mail transport refuses messages. -/
inductive Step where
  | call (c : Call)
  | setClock (now : Int)
  | advance (secs : Int)
  | failAt (step : Option ProvisionStep)
  | failSend (on : Bool)

namespace Step

def perform : Step → World → World
  | .call c, w => (c.act.run.outcome w).2
  | .setClock now, w => { w with clock := now }
  | .advance secs, w => { w with clock := wrappingAdd w.clock secs }
  | .failAt step, w => { w with directory := { w.directory with failAt := step } }
  | .failSend on, w => { w with mailer := { w.mailer with failing := on } }

/-- What a step may change. A read-only call changes nothing but the call counts the fault
plans keep; another call changes the proposals only as its law says; the harness never
touches the proposals. -/
def Changes : Step → World → World → Prop
  | .call c, w, w' =>
    if c.readOnly then
      ∃ storeFaults directoryFaults,
        w' = { w with storeFaults := storeFaults, directoryFaults := directoryFaults }
    else c.StoreLaw w.store w'.store
  | _, w, w' => w'.store = w.store

/-- Every change of a stored record's status in a step is the transition of the call that made
the step, from its source status to its target status. -/
def MovesByTransition (step : Step) (w w' : World) : Prop :=
  ∀ k q p, w.store.lookup k = some q → w'.store.lookup k = some p → q.status ≠ p.status →
    ∃ c t, step = .call c ∧ c.transition? = some t ∧ q.status = t.source ∧ p.status = t.target

variable {w : World}

theorem perform_inMemory (hw : w.InMemory) : (step : Step) → (step.perform w).InMemory
  | .call c => (Script.follows hw c.act.run).inMemory
  | .setClock _ | .advance _ | .failAt _ | .failSend _ =>
    ⟨hw.documents, hw.relational, hw.storeRules, hw.directoryRules⟩

theorem changes (hw : w.InMemory) : (step : Step) → step.Changes w (step.perform w)
  | .call c => by
    by_cases readsOnly : c.readOnly = true
    · rw [Changes, if_pos readsOnly]
      exact Script.observes_world hw (c.observes readsOnly)
    · rw [Changes, if_neg readsOnly]
      exact c.storeLaw_run hw (Bool.eq_false_iff.mpr readsOnly)
  | .setClock _ | .advance _ | .failAt _ | .failSend _ => rfl

theorem movesByTransition (hw : w.InMemory) (step : Step) :
    step.MovesByTransition w (step.perform w) := by
  intro k q p before after moved
  have law := changes hw step
  cases step with
  | call c =>
    by_cases readsOnly : c.readOnly = true
    · rw [Changes, if_pos readsOnly] at law
      obtain ⟨storeFaults, directoryFaults, same⟩ := law
      rw [same, before] at after
      cases after
      exact (moved rfl).elim
    · rw [Changes, if_neg readsOnly] at law
      obtain ⟨t, transition, source, target⟩ := Call.StoreLaw.moves law before after moved
      exact ⟨c, t, rfl, transition, source, target⟩
  | setClock _ | advance _ | failAt _ | failSend _ =>
    change (Step.perform _ w).store = w.store at law
    rw [law, before] at after
    cases after
    exact (moved rfl).elim

end Step

def afterSteps (w : World) (steps : List Step) : World :=
  steps.foldl (fun w step => step.perform w) w

theorem afterSteps_inMemory {w : World} (hw : w.InMemory) (steps : List Step) :
    (afterSteps w steps).InMemory := by
  induction steps generalizing w with
  | nil => exact hw
  | cons step rest ih => exact ih (step.perform_inMemory hw)

/-- The lifecycle over whole runs: start from any in-memory world, make any steps, and the next
step changes what it may, and moves a stored record's status only by its own transition. -/
theorem every_step_keeps_lifecycle (w : World) (hw : w.InMemory) (steps : List Step) (step : Step) :
    step.Changes (afterSteps w steps) (step.perform (afterSteps w steps)) ∧
      step.MovesByTransition (afterSteps w steps) (step.perform (afterSteps w steps)) :=
  ⟨Step.changes (afterSteps_inMemory hw steps) step,
    Step.movesByTransition (afterSteps_inMemory hw steps) step⟩

def createSurvey : Step :=
  .call (.create 1 { ProposalDto.empty with name := "Survey", organizationNodeId := "N:organization:repo" })

def firstKey : ProposalKey := ⟨1, "N:proposal:" ++ World.candidateUuid 1⟩

/-- In the sample world a creation stores a DRAFT proposal and submitting it makes it SUBMITTED,
a change the lifecycle allows. -/
theorem lifecycle_kept_by_submit_after_create :
    World.sample.InMemory ∧
      ((afterSteps World.sample [createSurvey]).store.lookup firstKey).map (·.status) = some .draft ∧
      (((Step.call (.submit 1 firstKey.nodeId)).perform
          (afterSteps World.sample [createSurvey])).store.lookup firstKey).map (·.status) =
        some .submitted ∧
      (Step.call (.submit 1 firstKey.nodeId)).Changes (afterSteps World.sample [createSurvey])
        ((Step.call (.submit 1 firstKey.nodeId)).perform (afterSteps World.sample [createSurvey])) ∧
      (Step.call (.submit 1 firstKey.nodeId)).MovesByTransition (afterSteps World.sample [createSurvey])
        ((Step.call (.submit 1 firstKey.nodeId)).perform (afterSteps World.sample [createSurvey])) :=
  ⟨World.sample_inMemory, by decide +kernel, by decide +kernel,
    every_step_keeps_lifecycle World.sample World.sample_inMemory [createSurvey]
      (.call (.submit 1 firstKey.nodeId))⟩

end Service

end DatasetProposals
