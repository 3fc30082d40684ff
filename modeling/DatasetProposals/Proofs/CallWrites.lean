import DatasetProposals.Proofs.SentMail
import DatasetProposals.Proofs.RacingCalls

/-! What each call writes and hands out, record by record (`Call.Leaves`, `Call.Puts`), from
which the invariants over runs are derived. -/

namespace DatasetProposals

/-- The part of a proposal its lifecycle stamps: the status and the four transition times. -/
structure Stamps where
  status : Status
  submittedAt : Int
  withdrawnAt : Int
  acceptedAt : Int
  rejectedAt : Int
  deriving DecidableEq

def Proposal.stamps (p : Proposal) : Stamps :=
  ⟨p.status, p.submittedAt, p.withdrawnAt, p.acceptedAt, p.rejectedAt⟩

def ProposalDto.stamps (d : ProposalDto) : Stamps :=
  ⟨d.status, d.submittedAt, d.withdrawnAt, d.acceptedAt, d.rejectedAt⟩

@[simp] theorem Proposal.toDto_stamps (p : Proposal) : p.toDto.stamps = p.stamps := rfl

@[simp] theorem ProposalDto.toProposal_stamps (d : ProposalDto) : d.toProposal.stamps = d.stamps :=
  rfl

def Stamps.after (s : Stamps) (t : Transition) (now : Int) : Stamps :=
  let keep (time : Int) := if time == 0 then now else time
  match t with
  | .submit => { s with status := .submitted, submittedAt := keep s.submittedAt }
  | .withdraw => { s with status := .withdrawn, withdrawnAt := keep s.withdrawnAt }
  | .accept => { s with status := .accepted, acceptedAt := keep s.acceptedAt }
  | .reject => { s with status := .rejected, rejectedAt := keep s.rejectedAt }

namespace Transition

theorem apply_stamps (t : Transition) (p : Proposal) (now : Int) :
    (t.apply p now).stamps = p.stamps.after t now := by
  cases t <;> rfl

/-- Record `r` is `p` moved on by transition `t` at time `now`: under the same key, created at
the same time, updated at `now`, with the stamps `t` gives at `now`. -/
def Moved (t : Transition) (p : Proposal) (now : Int) (r : Proposal) : Prop :=
  r.key = p.key ∧ r.createdAt = p.createdAt ∧ r.updatedAt = now ∧ r.stamps = p.stamps.after t now

theorem moved_apply (t : Transition) {p placed : Proposal} (now : Int) (key : placed.key = p.key)
    (created : placed.createdAt = p.createdAt) (stamps : placed.stamps = p.stamps) :
    t.Moved p now (t.apply placed now) :=
  ⟨(apply_key t placed now).trans key, by cases t <;> exact created, by cases t <;> rfl,
    by rw [apply_stamps, stamps]⟩

/-- The records transition `t` may put from world `w`: a stored record in its source status,
moved on at the time the clock and the record's last update give. -/
def Moves (t : Transition) (w : World) (r : Proposal) : Prop :=
  ∃ p ∈ w.store.proposals, p.status = t.source ∧ t.Moved p (stamp w.clock p.updatedAt) r

end Transition

/-! What calls put and hand out. -/

namespace Service

namespace Call

def answersOne : Except ServiceError ProposalDto → List ProposalDto
  | .ok d => [d]
  | .error _ => []

theorem mem_answersOne {r : Except ServiceError ProposalDto} {d : ProposalDto} :
    d ∈ answersOne r ↔ r = .ok d := by
  cases r <;> simp [answersOne, eq_comm]

def answers : (c : Call) → Except ServiceError c.Result → List ProposalDto
  | .get _ _, r => answersOne r
  | .listUser _, .ok ds => ds
  | .listWorkspace _ _, .ok ds => ds
  | .create _ _, r => answersOne r
  | .update _ _ _, r => answersOne r
  | .submit _ _, r => answersOne r
  | .withdraw _ _, r => answersOne r
  | .accept _ _, r => answersOne r
  | .reject _ _, r => answersOne r
  | _, _ => []

/-- The records call `c` may put in the store from `w`: a created record is DRAFT with no time
set, on a free key; an update takes the key, the creation time, the status and the transition
times of the caller's copy, and stamps its update time; a transition moves a stored record on.
The other calls put none. -/
def Puts : Call → World → Proposal → Prop
  | .create _ _, w, r => r.stamps = Proposal.empty.stamps ∧ w.store.lookup r.key = none
  | .update _ existing _, w, r => r.key = existing.key ∧ r.createdAt = existing.createdAt ∧
      r.updatedAt = stamp w.clock existing.updatedAt ∧ r.stamps = existing.stamps
  | c, w, r => ∃ t, c.transition? = some t ∧ t.Moves w r

/-- The proposals a call from `w` may leave: those of `w`, those with one record it may put
written in, or those with the key it deletes removed. -/
def Leaves (c : Call) (w : World) (s : MemoryStore) : Prop :=
  s = w.store ∨ (∃ r, c.Puts w r ∧ s = w.store.put r) ∨ ∃ d, c = .delete d ∧ s = w.store.delete d.key

theorem Leaves.stored {c : Call} {w : World} {s : MemoryStore} (leaves : c.Leaves w s) :
    ∀ q ∈ s.proposals, q ∈ w.store.proposals ∨ c.Puts w q := by
  intro q mem
  rcases leaves with rfl | ⟨r, puts, rfl⟩ | ⟨d, -, rfl⟩
  · exact .inl mem
  · rcases ProposalMap.mem_put mem with rfl | old
    · exact .inr puts
    · exact .inl old
  · exact .inl (ProposalMap.mem_erase mem)

end Call

namespace Step

def answers : Step → World → List ProposalDto
  | .call c, w => c.answers (c.act.run.outcome w).1
  | _, _ => []

def transition? : Step → Option Transition
  | .call c => c.transition?
  | _ => none

/-- A step as callers make it, `handed` being the records handed out before it: an update's
`existing` is one of them. -/
def Honest (handed : List ProposalDto) : Step → Prop
  | .call (.update _ existing _) => existing ∈ handed
  | _ => True

end Step

/-- Every step of the run of `steps` from `w` satisfies `P` in the world it starts from, with the
records `handed` out before it. -/
def RunsWith (P : World → List ProposalDto → Step → Prop) :
    World → List ProposalDto → List Step → Prop
  | _, _, [] => True
  | w, handed, step :: rest =>
    P w handed step ∧ RunsWith P (step.perform w) (handed ++ step.answers w) rest

theorem RunsWith.mono {P P' : World → List ProposalDto → Step → Prop} {w : World}
    {handed : List ProposalDto} {steps : List Step} (runs : RunsWith P w handed steps)
    (weaker : ∀ w handed step, P w handed step → P' w handed step) : RunsWith P' w handed steps := by
  induction steps generalizing w handed with
  | nil => trivial
  | cons step rest ih => exact ⟨weaker _ _ _ runs.1, ih runs.2⟩

theorem RunsWith.and {P P' : World → List ProposalDto → Step → Prop} {w : World}
    {handed : List ProposalDto} {steps : List Step} (first : RunsWith P w handed steps)
    (second : RunsWith P' w handed steps) :
    RunsWith (fun w handed step => P w handed step ∧ P' w handed step) w handed steps := by
  induction steps generalizing w handed with
  | nil => trivial
  | cons step rest ih => exact ⟨⟨first.1, second.1⟩, ih first.2 second.2⟩

end Service

/-! A record a read finds is stored. -/

namespace MemoryStore

theorem mem_of_lookup {s : MemoryStore} {k : ProposalKey} {p : Proposal}
    (found : s.lookup k = some p) : p ∈ s.proposals :=
  List.mem_of_find?_eq_some found

theorem mem_of_proposal {s : MemoryStore} {u : Int} {n : String} {p : Proposal}
    (found : s.proposal u n = .ok p) : p ∈ s.proposals := by
  rw [proposal_eq] at found
  cases stored : s.lookup ⟨u, n⟩ with
  | some q =>
    rw [stored] at found
    cases found
    exact mem_of_lookup stored
  | none =>
    rw [stored] at found
    cases found

theorem mem_of_proposalForRepository {s : MemoryStore} {r : Int} {st : Status} {n : String}
    {p : Proposal} (found : s.proposalForRepository r st n = .ok p) : p ∈ s.proposals := by
  unfold proposalForRepository single at found
  split at found
  · next only =>
    cases found
    exact (List.mem_filter.mp (only ▸ List.mem_singleton_self p)).1
  · cases found
  · cases found

end MemoryStore

/-! Runs that put at most one record. -/

namespace World
variable {w : World}

theorem InMemory.clean (hw : w.InMemory) : w.CleanFaults :=
  ⟨hw.onMemory, fun r mem => by rw [hw.storeRules] at mem; nomatch mem⟩

/-- A run from `w` ends with the proposals as they were and no value, or with one record put in
them that satisfies `R`: the value `a` it answered, written as `written a`. -/
def PutsOne {α : Type} (w : World) (R : Proposal → Prop) (written : α → Proposal)
    (r : Except ServiceError α) (w' : World) : Prop :=
  (w'.store = w.store ∧ ∀ a, r ≠ .ok a) ∨
    ∃ a, r = .ok a ∧ R (written a) ∧ w'.store = w.store.put (written a)

theorem PutsOne.failed {α : Type} {R : Proposal → Prop} {written : α → Proposal}
    {e : ServiceError} {w' : World} (kept : w'.store = w.store) : w.PutsOne R written (.error e) w' :=
  .inl ⟨kept, ServiceAct.yields_error _ _⟩

theorem PutsOne.mono {α : Type} {w₁ : World} {R R' : Proposal → Prop} {written : α → Proposal}
    {r : Except ServiceError α} {w' : World} (puts : w₁.PutsOne R written r w')
    (same : w₁.store = w.store) (weaker : ∀ p, R p → R' p) : w.PutsOne R' written r w' := by
  rcases puts with ⟨kept, none⟩ | ⟨a, answered, holds, put⟩
  · exact .inl ⟨kept.trans same, none⟩
  · exact .inr ⟨a, answered, weaker _ holds, by rw [put, same]⟩

theorem PutsOne.leaves {c : Service.Call} {α : Type} {written : α → Proposal}
    {r : Except ServiceError α} {w' : World} (puts : w.PutsOne (c.Puts w) written r w') :
    c.Leaves w w'.store := by
  rcases puts with ⟨kept, -⟩ | ⟨a, -, holds, put⟩
  · exact .inl kept
  · exact .inr (.inl ⟨_, holds, put⟩)

theorem PutsOne.answers {R : Proposal → Prop} {r : Except ServiceError ProposalDto} {w' : World}
    (puts : w.PutsOne R ProposalDto.toProposal r w') :
    ∀ d ∈ Service.Call.answersOne r, R d.toProposal := by
  intro d mem
  have answered := Service.Call.mem_answersOne.mp mem
  rcases puts with ⟨-, none⟩ | ⟨a, rfl, holds, -⟩
  · exact (none d answered).elim
  · cases answered
    exact holds

end World

/-! Each operation, walked through on an in-memory world. -/

namespace Service
open ServiceAct World
variable {w : World} {α β : Type}

theorem holds_keeping_bind (hw : w.InMemory) {x : ServiceAct α} {f : α → ServiceAct β}
    {Q : Except ServiceError β → World → Prop} {R : α → Prop}
    (keeps : Script.Everywhere (·.WritesStore = false) x.run) (first : Holds x (fun r _ => Yields R r) w)
    (errors : ∀ e w', w'.store = w.store → Q (.error e) w')
    (rest : ∀ a, R a → ∀ w', w'.InMemory → w'.store = w.store → w'.clock = w.clock →
      Holds (f a) Q w') :
    Holds (x >>= f) Q w := by
  have store := Script.store_eq hw keeps
  have follows := Script.follows hw x.run
  rw [holds_iff] at first
  rw [holds_bind, holds_iff]
  generalize x.run.outcome w = persisted at store follows first
  obtain ⟨r, w'⟩ := persisted
  cases r with
  | ok a => exact rest a (first a rfl) w' follows.inMemory store follows.clock
  | error e => exact errors e w' store

theorem putsOne_keeping_bind {w₁ : World} (hw₁ : w₁.InMemory) (same : w₁.store = w.store)
    (clock : w₁.clock = w.clock) {x : ServiceAct α} {f : α → ServiceAct β} {R : Proposal → Prop}
    {written : β → Proposal} {Rx : α → Prop}
    (keeps : Script.Everywhere (·.WritesStore = false) x.run) (first : Holds x (fun r _ => Yields Rx r) w₁)
    (rest : ∀ a, Rx a → ∀ w', w'.InMemory → w'.store = w.store → w'.clock = w.clock →
      Holds (f a) (PutsOne w R written) w') :
    Holds (x >>= f) (PutsOne w R written) w₁ :=
  holds_keeping_bind hw₁ keeps first (fun _ _ kept => PutsOne.failed (kept.trans same))
    fun a holds w' hw' kept clock' => rest a holds w' hw' (kept.trans same) (clock'.trans clock)

theorem putsOne_checkStatus_bind {w₁ : World} (same : w₁.store = w.store) {t : Transition}
    {p : Proposal} {f : Unit → ServiceAct β} {R : Proposal → Prop} {written : β → Proposal}
    (rest : p.status = t.source → Holds (f ()) (PutsOne w R written) w₁) :
    Holds (checkStatus t p >>= f) (PutsOne w R written) w₁ := by
  rw [holds_bind]
  unfold checkStatus
  split
  · exact PutsOne.failed same
  · next source => exact rest (by simpa using source)

theorem holds_viaStore_updateIf (hw : w.InMemory) {Q : Except ServiceError Unit → World → Prop}
    (op : String) (r : Proposal) (e : Status) :
    Holds (viaStore op (Script.op (.updateIf r e))) Q w ↔ match w.store.updateIf r e with
      | .ok s => Q (.ok ()) { w.countStore .updateIf with store := s }
      | .error err => Q (.error (ServiceError.ofStorage op err)) (w.countStore .updateIf) := by
  show Q (((Op.updateIf r e).outcome w).1.mapError _) ((Op.updateIf r e).outcome w).2 ↔ _
  rw [outcome_updateIf hw]
  cases w.store.updateIf r e <;> rfl

theorem holds_viaStore_create (hw : w.InMemory) {Q : Except ServiceError Unit → World → Prop}
    (op : String) (r : Proposal) :
    Holds (viaStore op (Script.op (.create r))) Q w ↔ match w.store.create r with
      | .ok s => Q (.ok ()) { w.countStore .create with store := s }
      | .error err => Q (.error (ServiceError.ofStorage op err)) (w.countStore .create) := by
  show Q (((Op.create r).outcome w).1.mapError _) ((Op.create r).outcome w).2 ↔ _
  rw [outcome_create hw]
  cases w.store.create r <;> rfl

theorem holds_write_then (hw : w.InMemory) (op : String) (r : Proposal) (e : Status) (v : α)
    (written : α → Proposal) (holds : written v = r) {R : Proposal → Prop} (allowed : R r) :
    Holds (viaStore op (Script.op (.updateIf r e)) >>= fun _ => pure v) (PutsOne w R written) w := by
  rw [holds_bind, holds_viaStore_updateIf hw]
  cases wrote : w.store.updateIf r e with
  | ok s =>
    obtain ⟨_, _, _, put⟩ := MemoryStore.updateIf_eq_ok.mp wrote
    exact .inr ⟨v, rfl, holds ▸ allowed, by rw [holds]; exact put⟩
  | error err => exact PutsOne.failed rfl

theorem persistTransition_putsOne (hw : w.InMemory) (t : Transition) (p : Proposal) :
    Holds (persistTransition t p) (PutsOne w (t.Moved p (stamp w.clock p.updatedAt)) id) w := by
  unfold persistTransition
  rw [holds_bind, holds_lift, Script.holds_op, outcome_now]
  exact holds_write_then hw _ _ _ _ id rfl (t.moved_apply _ rfl rfl rfl)

theorem persistWithdraw_putsOne (hw : w.InMemory) (u : Int) (n : String) :
    Holds (persistWithdraw u n) (PutsOne w (Transition.withdraw.Moves w) id) w := by
  unfold persistWithdraw
  dsimp only
  refine putsOne_keeping_bind hw rfl rfl (everywhere_viaStore (.op (by rfl)) _)
    (holds_readProposal hw _ u n) fun p read w' hw' same clock => ?_
  refine putsOne_checkStatus_bind same fun source => ?_
  exact (persistTransition_putsOne hw' _ p).mono fun _ _ puts => puts.mono same fun r moved =>
    ⟨p, MemoryStore.mem_of_proposal read, source, clock ▸ moved⟩

theorem persistSubmit_putsOne (hw : w.InMemory) (u : Int) (n : String) :
    Holds (persistSubmit u n) (PutsOne w (Transition.submit.Moves w) id) w := by
  unfold persistSubmit
  dsimp only
  refine putsOne_keeping_bind hw rfl rfl (everywhere_viaStore (.op (by rfl)) _)
    (holds_readProposal hw _ u n) fun p read w₁ hw₁ same₁ clock₁ => ?_
  refine putsOne_checkStatus_bind same₁ fun source => ?_
  refine putsOne_keeping_bind hw₁ same₁ clock₁ (everywhere_viaStore (.op (by rfl)) _)
    ((Returns.any _).holds w₁) fun repo _ w₂ hw₂ same₂ clock₂ => ?_
  -- the repository and survey checks refuse without writing
  split
  · exact PutsOne.failed same₂
  · split
    · exact PutsOne.failed same₂
    · exact (persistTransition_putsOne hw₂ _ _).mono fun _ _ puts => puts.mono same₂ fun r moved =>
        ⟨p, MemoryStore.mem_of_proposal read, source, clock₂ ▸ moved⟩

theorem persistReject_putsOne (hw : w.InMemory) (r : Int) (n : String) :
    Holds (persistReject r n) (PutsOne w (Transition.reject.Moves w) id) w :=
  putsOne_keeping_bind hw rfl rfl (findForRepository_calls (fun _ _ _ => by rfl) _ _ _)
    (findForRepository_origin hw rfl r n) fun p found w' hw' same clock =>
      (persistTransition_putsOne hw' _ p).mono fun _ _ puts => puts.mono same fun _ moved =>
        ⟨p, MemoryStore.mem_of_proposalForRepository found,
          MemoryStore.proposalForRepository_status found, clock ▸ moved⟩

theorem persistAccept_putsOne (hw : w.InMemory) (r : Int) (n : String) :
    Holds (persistAccept r n) (PutsOne w (Transition.accept.Moves w) Prod.fst) w := by
  unfold persistAccept
  dsimp only
  refine putsOne_keeping_bind hw rfl rfl (findForRepository_calls (fun _ _ _ => by rfl) _ _ _)
    (findForRepository_origin hw rfl r n) fun p found w₁ hw₁ same₁ clock₁ => ?_
  refine putsOne_keeping_bind hw₁ same₁ clock₁
    (everywhere_mk ((Script.Everywhere.op (by rfl)).bind fun _ => .done _))
    ((Returns.any _).holds w₁) fun created _ w₂ hw₂ same₂ clock₂ => ?_
  rw [holds_bind, holds_lift, Script.holds_op, outcome_now]
  dsimp only
  -- the record written is the found one with its dataset and workspace placed, moved on
  have moved : Transition.accept.Moved p (stamp w.clock p.updatedAt)
      (Transition.accept.apply
        { p with datasetNodeId := created.dataset.nodeId
                 organizationNodeId := created.organization.nodeId }
        (stamp w₂.clock p.updatedAt)) := by
    rw [clock₂]
    exact Transition.accept.moved_apply _ rfl rfl rfl
  rw [holds_bind, holds_viaStore_updateIf hw₂]
  split
  · next s wrote =>
    obtain ⟨_, _, _, put⟩ := MemoryStore.updateIf_eq_ok.mp wrote
    exact .inr ⟨_, rfl, ⟨p, MemoryStore.mem_of_proposalForRepository found,
      MemoryStore.proposalForRepository_status found, moved⟩, by rw [← same₂]; exact put⟩
  · exact PutsOne.failed same₂

theorem PutsOne.notified {x : ServiceAct α} {written : α → Proposal} {R : Proposal → Prop}
    {notice : α → Script Unit} (hw : w.InMemory)
    (quiet : ∀ a, Script.Everywhere (fun o => o.WritesStore = false ∧ o.Provisions = false) (notice a))
    (persisted : Holds x (PutsOne w R written) w) :
    Holds (x >>= fun a => (liftM (notice a) : ServiceAct Unit) >>= fun _ => pure (written a).toDto)
      (PutsOne w R ProposalDto.toProposal) w := by
  have notified := outcome_notified x (fun a => (written a).toDto) quiet hw.clean
  rw [holds_iff] at notified persisted ⊢
  obtain ⟨result, store, -⟩ := notified
  unfold PutsOne at persisted ⊢
  rw [result, store]
  generalize x.run.outcome w = persisting at persisted
  obtain ⟨r, w'⟩ := persisting
  rcases persisted with ⟨kept, none⟩ | ⟨a, rfl, holds, put⟩
  · refine .inl ⟨kept, fun d answered => ?_⟩
    cases r with
    | ok a => exact none a rfl
    | error e => cases answered
  · exact .inr ⟨_, rfl, holds, put⟩

theorem transition_putsOne (hw : w.InMemory) (t : Transition) (who : Int) (n : String) :
    Holds (t.act who n) (PutsOne w (t.Moves w) ProposalDto.toProposal) w := by
  cases t with
  | submit => exact PutsOne.notified hw (fun p => notifyTeam_calls _ p) (persistSubmit_putsOne hw who n)
  | withdraw =>
    exact PutsOne.notified hw (fun p => notifyTeam_calls _ p) (persistWithdraw_putsOne hw who n)
  | accept =>
    exact PutsOne.notified hw (fun a => notifyOwner_calls _ a.1 a.2) (persistAccept_putsOne hw who n)
  | reject =>
    exact PutsOne.notified hw (fun p => notifyOwner_calls _ p p.organizationNodeId)
      (persistReject_putsOne hw who n)

theorem createProposal_putsOne (hw : w.InMemory) (u : Int) (input : ProposalDto) :
    Holds (createProposal u input) (PutsOne w ((Call.create u input).Puts w) ProposalDto.toProposal)
      w := by
  unfold createProposal
  dsimp only
  split
  · rw [holds_bind, holds_throw]
    exact PutsOne.failed rfl
  · refine putsOne_keeping_bind hw rfl rfl (everywhere_viaDirectory (.op (by rfl)) _)
      ((Returns.any _).holds w) fun user _ w₁ hw₁ same₁ clock₁ => ?_
    refine putsOne_keeping_bind hw₁ same₁ clock₁ (everywhere_lift (.op (by rfl)))
      ((Returns.any _).holds w₁) fun now _ w₂ hw₂ same₂ clock₂ => ?_
    refine putsOne_keeping_bind hw₂ same₂ clock₂ (everywhere_lift (.op (by rfl)))
      ((Returns.any _).holds w₂) fun nodeId _ w₃ hw₃ same₃ _ => ?_
    rw [holds_bind, holds_viaStore_create hw₃]
    split
    · next s created =>
      obtain ⟨free, put⟩ := MemoryStore.create_eq_ok.mp created
      rw [same₃] at free put
      exact .inr ⟨_, rfl, ⟨rfl, free⟩, put⟩
    · exact PutsOne.failed same₃

theorem updateProposal_putsOne (hw : w.InMemory) (u : Int) (existing changes : ProposalDto) :
    Holds (updateProposal u existing changes)
      (PutsOne w ((Call.update u existing changes).Puts w) ProposalDto.toProposal) w := by
  unfold updateProposal
  dsimp only
  split
  · rw [holds_bind, holds_throw]
    exact PutsOne.failed rfl
  · next owned =>
    -- past the owner check the record is written under the copy's key
    have owner : existing.userId = u := by simpa using owned
    split
    · rw [holds_bind, holds_throw]
      exact PutsOne.failed rfl
    · refine putsOne_keeping_bind hw rfl rfl (everywhere_viaDirectory (.op (by rfl)) _)
        ((Returns.any _).holds w) fun user _ w₁ hw₁ same₁ clock₁ => ?_
      rw [holds_bind, holds_lift, Script.holds_op, outcome_now]
      refine (holds_write_then hw₁ _ _ _ _ ProposalDto.toProposal ?_ ?_).mono
        fun _ _ puts => puts.mono same₁ fun _ holds => holds
      · rfl
      · exact ⟨by rw [← owner]; rfl, rfl, by rw [clock₁], rfl⟩

theorem deleteProposal_store (hw : w.InMemory) (d : ProposalDto) :
    Holds (deleteProposal d) (fun _ w' => w'.store = w.store.delete d.key) w := by
  show ((Op.delete d.key).outcome w).2.store = _
  rw [outcome_delete hw]

theorem holds_readUser (hw : w.InMemory) (op : String) (u : Int) :
    Holds (viaStore op (Script.op (.proposalsForUser u)))
      (fun r _ => Yields (· = w.store.proposalsForUser u) r) w := by
  show Yields _ (((Op.proposalsForUser u).outcome w).1.mapError _)
  rw [outcome_proposalsForUser hw]
  exact fun _ read => by cases read; rfl

theorem holds_readWorkspace (hw : w.InMemory) (op org : String) (s : Status) :
    Holds (viaStore op (Script.op (.proposalsForWorkspace org s)))
      (fun r _ => Yields (· = w.store.proposalsForWorkspace org s) r) w := by
  show Yields _ (((Op.proposalsForWorkspace org s).outcome w).1.mapError _)
  rw [outcome_proposalsForWorkspace hw]
  exact fun _ read => by cases read; rfl

theorem listed_stored {x : ServiceAct (List Proposal)} {keep : Proposal → Bool}
    (read : Holds x (fun r _ => Yields (· = w.store.proposals.filter keep) r) w) :
    Holds (x >>= fun ps => pure (ps.map Proposal.toDto))
      (fun r _ => Yields (fun ds => ∀ d ∈ ds, ∃ q ∈ w.store.proposals, d = q.toDto) r) w :=
  holds_bind_yields read fun ps listed => Returns.pure fun d mem => by
    obtain ⟨q, found, rfl⟩ := List.mem_map.mp mem
    rw [listed] at found
    exact ⟨q, (List.mem_filter.mp found).1, rfl⟩

theorem Call.answers_stored (hw : w.InMemory) (c : Call) (reads : c.readOnly = true) :
    Holds c.act (fun r _ => ∀ d ∈ c.answers r, ∃ q ∈ w.store.proposals, d = q.toDto) w := by
  cases c with
  | info | repositories | questions => exact fun _ mem => nomatch mem
  | get u n =>
    refine (holds_bind_yields (holds_readProposal hw _ u n) fun p found =>
      Returns.pure (R := fun d => ∃ q ∈ w.store.proposals, d = q.toDto)
        ⟨p, MemoryStore.mem_of_proposal found, rfl⟩).mono fun r _ yields d mem => ?_
    exact yields d (Call.mem_answersOne.mp mem)
  | listUser u =>
    refine (listed_stored (holds_readUser hw _ u)).mono fun r _ listed => ?_
    cases r with
    | ok ds => exact listed ds rfl
    | error e => exact fun _ mem => nomatch mem
  | listWorkspace org s =>
    refine (listed_stored (holds_readWorkspace hw _ org s)).mono fun r _ listed => ?_
    cases r with
    | ok ds => exact listed ds rfl
    | error e => exact fun _ mem => nomatch mem
  | _ => cases reads

theorem PutsOne.writes {c : Call} {r : Except ServiceError ProposalDto} {w' : World}
    (puts : w.PutsOne (c.Puts w) ProposalDto.toProposal r w') :
    c.Leaves w w'.store ∧
      ∀ d ∈ Call.answersOne r, (∃ q ∈ w.store.proposals, d = q.toDto) ∨ c.Puts w d.toProposal :=
  ⟨puts.leaves, fun d mem => .inr (puts.answers d mem)⟩

theorem Call.transition_writes (hw : w.InMemory) (t : Transition) (who : Int) (n : String) :
    Holds (t.act who n) (fun r w' => (t.call who n).Leaves w w'.store ∧
      ∀ d ∈ Call.answersOne r, (∃ q ∈ w.store.proposals, d = q.toDto) ∨
        (t.call who n).Puts w d.toProposal) w := by
  have puts := transition_putsOne hw t who n
  cases t <;>
  exact puts.mono fun _ _ puts => PutsOne.writes (PutsOne.mono puts rfl fun _ moves => ⟨_, rfl, moves⟩)

theorem Call.writes_run (hw : w.InMemory) (c : Call) :
    Holds c.act (fun r w' => c.Leaves w w'.store ∧
      ∀ d ∈ c.answers r, (∃ q ∈ w.store.proposals, d = q.toDto) ∨ c.Puts w d.toProposal) w := by
  cases reads : c.readOnly with
  | true =>
    -- a read keeps the proposals and answers stored ones
    obtain ⟨_, _, same⟩ := Script.observes_world hw (c.observes reads)
    have answered := c.answers_stored hw reads
    rw [holds_iff] at answered ⊢
    rw [same]
    exact ⟨.inl rfl, fun d mem => .inl (answered d mem)⟩
  | false =>
    cases c with
    | create u input =>
      exact (createProposal_putsOne hw u input).mono fun _ _ puts => PutsOne.writes puts
    | update u existing changes =>
      exact (updateProposal_putsOne hw u existing changes).mono fun _ _ puts => PutsOne.writes puts
    | delete d =>
      exact (deleteProposal_store hw d).mono fun _ _ erased =>
        ⟨.inr (.inr ⟨d, rfl, erased⟩), fun _ mem => nomatch mem⟩
    | submit u n => exact Call.transition_writes hw .submit u n
    | withdraw u n => exact Call.transition_writes hw .withdraw u n
    | accept r n => exact Call.transition_writes hw .accept r n
    | reject r n => exact Call.transition_writes hw .reject r n
    | _ => cases reads

end Service

end DatasetProposals
