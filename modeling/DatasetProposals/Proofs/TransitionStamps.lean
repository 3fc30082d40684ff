import DatasetProposals.Proofs.CallWrites

/-! Transition times against statuses. Main statement: `stamps_agree_with_status`;
`submit_at_epoch_leaves_zero_stamp` shows why the clock must be positive. -/

namespace DatasetProposals

namespace Stamps

/-- A non-zero time means its transition was taken. -/
def Sound (s : Stamps) : Prop :=
  (s.submittedAt ≠ 0 → s.status ≠ .draft) ∧ (s.withdrawnAt ≠ 0 → s.status = .withdrawn) ∧
    (s.acceptedAt ≠ 0 → s.status = .accepted) ∧ (s.rejectedAt ≠ 0 → s.status = .rejected)

/-- A time is non-zero exactly when its transition was taken. -/
def Exact (s : Stamps) : Prop :=
  (s.submittedAt ≠ 0 ↔ s.status ≠ .draft) ∧ (s.withdrawnAt ≠ 0 ↔ s.status = .withdrawn) ∧
    (s.acceptedAt ≠ 0 ↔ s.status = .accepted) ∧ (s.rejectedAt ≠ 0 ↔ s.status = .rejected)

instance (s : Stamps) : Decidable s.Sound := inferInstanceAs (Decidable (_ ∧ _))
instance (s : Stamps) : Decidable s.Exact := inferInstanceAs (Decidable (_ ∧ _))

theorem Exact.sound {s : Stamps} (exact : s.Exact) : s.Sound :=
  ⟨exact.1.mp, exact.2.1.mp, exact.2.2.1.mp, exact.2.2.2.mp⟩

theorem Sound.after {s : Stamps} (sound : s.Sound) {t : Transition} (source : s.status = t.source)
    (now : Int) : (s.after t now).Sound := by
  obtain ⟨status, submitted, withdrawn, accepted, rejected⟩ := s
  obtain ⟨hs, hw, ha, hr⟩ := sound
  cases t <;> simp only [Transition.source] at source <;> subst source <;>
    simp_all [Stamps.after, Sound]

theorem Exact.after {s : Stamps} (exact : s.Exact) {t : Transition} (source : s.status = t.source)
    {now : Int} (stamped : now ≠ 0) : (s.after t now).Exact := by
  obtain ⟨status, submitted, withdrawn, accepted, rejected⟩ := s
  obtain ⟨hs, hw, ha, hr⟩ := exact
  cases t <;> simp only [Transition.source] at source <;> subst source <;>
    simp_all [Stamps.after, Exact]

end Stamps

namespace Service

open ServiceAct World
variable {w : World}

/-! The invariant over runs. -/

/-- Every stored record and every record handed out has stamps satisfying `Good`. -/
def StampsIn (Good : Stamps → Prop) (w : World) (handed : List ProposalDto) : Prop :=
  (∀ q ∈ w.store.proposals, Good q.stamps) ∧ ∀ d ∈ handed, Good d.stamps

/-- `Good` survives the transition a step makes from `w`, applied at its stamped time to a
record in its source status. -/
def Step.Advances (Good : Stamps → Prop) (w : World) (step : Step) : Prop :=
  ∀ t, step.transition? = some t → ∀ p : Proposal, Good p.stamps → p.status = t.source →
    Good (p.stamps.after t (stamp w.clock p.updatedAt))

section Invariant
variable {Good : Stamps → Prop} {handed : List ProposalDto}

theorem Call.puts_good (fresh : Good Proposal.empty.stamps) (inv : StampsIn Good w handed)
    {c : Call} (honest : (Step.call c).Honest handed) (advances : (Step.call c).Advances Good w)
    {r : Proposal} (puts : c.Puts w r) : Good r.stamps := by
  cases c with
  | create => exact puts.1 ▸ fresh
  | update _ existing _ => exact puts.2.2.2 ▸ inv.2 existing honest
  | _ =>
    obtain ⟨t, makes, p, stored, source, moved⟩ := puts
    exact moved.2.2.2 ▸ advances t makes p (inv.1 p stored) source

theorem Step.keeps_stampsIn (hw : w.InMemory) (fresh : Good Proposal.empty.stamps)
    (inv : StampsIn Good w handed) {step : Step} (honest : step.Honest handed)
    (advances : step.Advances Good w) : StampsIn Good (step.perform w) (handed ++ step.answers w) := by
  cases step with
  | call c =>
    obtain ⟨leaves, answered⟩ := Call.writes_run hw c
    have puts := fun r => Call.puts_good fresh inv honest advances (r := r)
    refine ⟨fun q mem => (leaves.stored q mem).elim (inv.1 q) (puts _), fun d mem => ?_⟩
    rcases List.mem_append.mp mem with old | new
    · exact inv.2 d old
    · rcases answered d new with ⟨q, kept, rfl⟩ | put
      · exact inv.1 q kept
      · exact puts _ put
  | _ => exact ⟨inv.1, by simpa [Step.answers] using inv.2⟩

theorem afterSteps_stampsIn (hw : w.InMemory) (fresh : Good Proposal.empty.stamps)
    (inv : StampsIn Good w handed) {steps : List Step}
    (runs : RunsWith (fun w handed step => step.Honest handed ∧ step.Advances Good w) w handed steps) :
    ∀ q ∈ (afterSteps w steps).store.proposals, Good q.stamps := by
  induction steps generalizing w handed with
  | nil => exact inv.1
  | cons step rest ih =>
    obtain ⟨⟨honest, advances⟩, runs⟩ := runs
    exact ih (step.perform_inMemory hw) (Step.keeps_stampsIn hw fresh inv honest advances) runs

end Invariant

/-! The main statement, and the epoch. -/

theorem Step.advances_sound (w : World) (step : Step) : step.Advances Stamps.Sound w :=
  fun _ _ p sound source => Stamps.Sound.after (s := p.stamps) sound source _

theorem Step.advances_exact {w : World} {step : Step}
    (positive : step.transition?.isSome → 0 < w.clock) : step.Advances Stamps.Exact w := by
  intro t makes p exact source
  have positive := positive (Option.isSome_of_eq_some makes)
  have stamped : stamp w.clock p.updatedAt ≠ 0 := by
    unfold stamp
    omega
  exact Stamps.Exact.after (s := p.stamps) exact source stamped

/-- Transition times and statuses agree over every run from stored records whose times are set
exactly for their statuses, each update made from a copy the run handed out: a non-zero time
always means its transition was taken, and when every transition call runs at a positive clock a
time is non-zero exactly when its transition was taken. -/
theorem stamps_agree_with_status (w : World) (hw : w.InMemory) (steps : List Step)
    (exact : ∀ q ∈ w.store.proposals, q.stamps.Exact)
    (honest : RunsWith (fun _ handed step => step.Honest handed) w [] steps) :
    (∀ q ∈ (afterSteps w steps).store.proposals, q.stamps.Sound) ∧
      (RunsWith (fun w _ step => step.transition?.isSome → 0 < w.clock) w [] steps →
        ∀ q ∈ (afterSteps w steps).store.proposals, q.stamps.Exact) := by
  have fresh : Proposal.empty.stamps.Exact := by decide
  constructor
  · exact afterSteps_stampsIn hw fresh.sound ⟨fun q mem => (exact q mem).sound, by simp⟩
      (honest.mono fun w _ _ honest => ⟨honest, Step.advances_sound w _⟩)
  · intro positive
    exact afterSteps_stampsIn hw fresh ⟨exact, by simp⟩
      ((honest.and positive).mono fun _ _ _ ⟨honest, positive⟩ =>
        ⟨honest, Step.advances_exact positive⟩)

theorem draftWorld_exact : ∀ q ∈ draftWorld.store.proposals, q.stamps.Exact := by
  intro q mem
  rw [List.mem_singleton.mp mem]
  decide

theorem sampleSubmitted_exact : ∀ q ∈ World.sampleSubmitted.store.proposals, q.stamps.Exact := by
  intro q mem
  rw [List.mem_singleton.mp mem]
  decide

/-- Submitting the draft of `draftWorld` at the epoch keeps the times sound. Accepting the
sample's SUBMITTED proposal at time 1000 stamps its acceptance, and the times stay exact. -/
theorem stamps_agree_on_sample_runs :
    (draftWorld.InMemory ∧ (∀ q ∈ draftWorld.store.proposals, q.stamps.Exact) ∧
      RunsWith (fun _ handed step => step.Honest handed) draftWorld [] [.call (.submit 1 "N:proposal:1")] ∧
      ((∀ q ∈ (afterSteps draftWorld [.call (.submit 1 "N:proposal:1")]).store.proposals, q.stamps.Sound) ∧
        (RunsWith (fun w _ step => step.transition?.isSome → 0 < w.clock) draftWorld [] [.call (.submit 1 "N:proposal:1")] →
          ∀ q ∈ (afterSteps draftWorld [.call (.submit 1 "N:proposal:1")]).store.proposals, q.stamps.Exact))) ∧
    (World.sampleSubmitted.InMemory ∧ (∀ q ∈ World.sampleSubmitted.store.proposals, q.stamps.Exact) ∧
      RunsWith (fun _ handed step => step.Honest handed) World.sampleSubmitted [] [.call (.accept 20 "N:proposal:1")] ∧
      RunsWith (fun w _ step => step.transition?.isSome → 0 < w.clock) World.sampleSubmitted [] [.call (.accept 20 "N:proposal:1")] ∧
      ((afterSteps World.sampleSubmitted [.call (.accept 20 "N:proposal:1")]).store.lookup ⟨1, "N:proposal:1"⟩).map (fun q => (q.status, q.acceptedAt)) =
        some (.accepted, 1000) ∧
      ((∀ q ∈ (afterSteps World.sampleSubmitted [.call (.accept 20 "N:proposal:1")]).store.proposals, q.stamps.Sound) ∧
        (RunsWith (fun w _ step => step.transition?.isSome → 0 < w.clock) World.sampleSubmitted [] [.call (.accept 20 "N:proposal:1")] →
          ∀ q ∈ (afterSteps World.sampleSubmitted [.call (.accept 20 "N:proposal:1")]).store.proposals, q.stamps.Exact))) :=
  ⟨⟨draftWorld_inMemory, draftWorld_exact, ⟨trivial, trivial⟩,
      stamps_agree_with_status draftWorld draftWorld_inMemory _ draftWorld_exact ⟨trivial, trivial⟩⟩,
    ⟨World.sampleSubmitted_inMemory, sampleSubmitted_exact, ⟨trivial, trivial⟩,
      ⟨fun _ => by decide, trivial⟩, by decide +kernel,
      stamps_agree_with_status World.sampleSubmitted World.sampleSubmitted_inMemory _ sampleSubmitted_exact
        ⟨trivial, trivial⟩⟩⟩

theorem afterSteps_transition_store {w : World} (clean : w.CleanFaults) (t : Transition)
    (who : Int) (n : String) :
    (afterSteps w [.call (t.call who n)]).store = ((t.persisted who n).run.outcome w).2.store := by
  cases t with
  | submit =>
    exact (outcome_notified (persistSubmit who n) Proposal.toDto
      (fun p => notifyTeam_calls .submitted p) clean).2.1
  | withdraw =>
    exact (outcome_notified (persistWithdraw who n) Proposal.toDto
      (fun p => notifyTeam_calls .withdrawn p) clean).2.1
  | accept =>
    have kept := (outcome_map (persistAccept who n) (·.1) w).2
    have notified := (outcome_notified (persistAccept who n) (fun a => a.1.toDto)
      (fun a => notifyOwner_calls .accepted a.1 a.2) clean).2.1
    exact notified.trans (congrArg World.store kept).symm
  | reject =>
    exact (outcome_notified (persistReject who n) Proposal.toDto
      (fun p => notifyOwner_calls .rejected p p.organizationNodeId) clean).2.1

/-- Submitting at the epoch marks a proposal SUBMITTED with its submission time still zero. -/
theorem submit_at_epoch_leaves_zero_stamp :
    draftWorld.clock = 0 ∧ (∀ q ∈ draftWorld.store.proposals, q.stamps.Exact) ∧
      ∃ q ∈ (afterSteps draftWorld [.call (.submit 1 "N:proposal:1")]).store.proposals,
        q.status = .submitted ∧ q.submittedAt = 0 ∧ ¬ q.stamps.Exact := by
  have after := afterSteps_transition_store draftWorld_inMemory.clean .submit 1 "N:proposal:1"
  dsimp only [Transition.call, Transition.persisted] at after
  -- the notification keeps the proposals, so evaluating the persisting part suffices
  have submitted : (((persistSubmit 1 "N:proposal:1").run.outcome draftWorld).2.store.lookup
      ⟨1, "N:proposal:1"⟩).map (fun q => (q.status, q.submittedAt)) = some (.submitted, 0) := by
    decide +kernel
  obtain ⟨q, found, same⟩ := Option.map_eq_some_iff.mp submitted
  obtain ⟨status, zero⟩ := Prod.mk.inj same
  refine ⟨rfl, draftWorld_exact, q, ?_, status, zero, fun exact => ?_⟩
  · rw [after]
    exact MemoryStore.mem_of_lookup found
  · exact exact.1.mpr (by simp [Proposal.stamps, status]) zero

end Service

end DatasetProposals
