import DatasetProposals.Proofs.CallWrites
import DatasetProposals.Proofs.AcceptedDatasets

/-! Creation, update and transition times over runs. Main statement:
`timestamps_kept_by_fitting_updates`; `stale_update_moves_update_time_back` shows the fit is needed. -/

namespace DatasetProposals

/-! The order of keys. -/

namespace ProposalKey

theorem lt_iff {a b : ProposalKey} :
    a.lt b = true ↔ a.userId < b.userId ∨ a.userId = b.userId ∧ a.nodeId < b.nodeId := by
  simp [lt]

theorem lt_irrefl (a : ProposalKey) : a.lt a = false := by
  cases h : a.lt a
  · rfl
  · rcases lt_iff.mp h with user | ⟨-, node⟩
    · omega
    · exact absurd node (String.lt_irrefl _)

theorem lt_trans {a b c : ProposalKey} (first : a.lt b = true) (second : b.lt c = true) :
    a.lt c = true := by
  rw [lt_iff] at first second ⊢
  rcases first with user₁ | ⟨same₁, node₁⟩ <;> rcases second with user₂ | ⟨same₂, node₂⟩
  · exact .inl (by omega)
  · exact .inl (by omega)
  · exact .inl (by omega)
  · exact .inr ⟨same₁.trans same₂, String.lt_trans node₁ node₂⟩

theorem lt_of_not_lt {a b : ProposalKey} (apart : a ≠ b) (notLt : a.lt b = false) :
    b.lt a = true := by
  obtain ⟨u, n⟩ := a
  obtain ⟨u', n'⟩ := b
  simp only [lt, Bool.or_eq_false_iff, decide_eq_false_iff_not, Bool.and_eq_false_iff,
    beq_eq_false_iff_ne, ne_eq] at notLt
  rw [lt_iff]
  dsimp only at notLt ⊢
  by_cases user : u = u'
  · subst user
    have node : n ≠ n' := fun same => apart (by rw [same])
    have : ¬ n < n' := by simpa using notLt.2
    exact .inr ⟨rfl, Std.lt_of_le_of_ne this (Ne.symm node)⟩
  · exact .inl (by omega)

end ProposalKey

/-! Sorted stores. -/

namespace ProposalMap

/-- Keys strictly increasing along the list, so no key twice. -/
def Sorted (m : ProposalMap) : Prop :=
  m.Pairwise (fun p q => p.key.lt q.key = true)

theorem Sorted.put {m : ProposalMap} (sorted : m.Sorted) (p : Proposal) : (m.put p).Sorted := by
  induction m with
  | nil => exact List.pairwise_singleton _ p
  | cons q rest ih =>
    obtain ⟨below, restSorted⟩ := List.pairwise_cons.mp sorted
    simp only [ProposalMap.put]
    split
    · next before =>
      -- `p` goes first: it is below `q`, and so below everything after `q`
      exact List.Pairwise.cons (fun x mem => by
        rcases List.mem_cons.mp mem with rfl | later
        · exact before
        · exact ProposalKey.lt_trans before (below x later)) sorted
    · split
      · next same =>
        -- `p` replaces `q`, under the same key
        have same : p.key = q.key := beq_iff_eq.mp same
        exact List.Pairwise.cons (fun x later => same ▸ below x later) restSorted
      · next after other =>
        -- `p` goes further down, above `q`
        have apart : p.key ≠ q.key := fun same => other (beq_iff_eq.mpr same)
        have above := ProposalKey.lt_of_not_lt apart (Bool.eq_false_iff.mpr after)
        exact List.Pairwise.cons (fun x mem => by
          rcases ProposalMap.mem_put mem with rfl | later
          · exact above
          · exact below x later) (ih restSorted)

theorem Sorted.erase {m : ProposalMap} (sorted : m.Sorted) (k : ProposalKey) : (m.erase k).Sorted :=
  List.Pairwise.filter _ sorted

theorem Sorted.find?_of_mem {m : ProposalMap} (sorted : m.Sorted) {p : Proposal} (mem : p ∈ m) :
    m.find? p.key = some p := by
  induction m with
  | nil => cases mem
  | cons q rest ih =>
    obtain ⟨below, restSorted⟩ := List.pairwise_cons.mp sorted
    rw [find?_cons]
    split
    · next same =>
      rcases List.mem_cons.mp mem with rfl | later
      · rfl
      · have lower := below p later
        rw [same, ProposalKey.lt_irrefl] at lower
        cases lower
    · next apart =>
      rcases List.mem_cons.mp mem with rfl | later
      · exact (apart rfl).elim
      · exact ih restSorted later

end ProposalMap

/-! Kept times. -/

namespace Stamps

/-- Every transition time set in `a` is unchanged in `b`. -/
def KeepsSet (a b : Stamps) : Prop :=
  (a.submittedAt ≠ 0 → b.submittedAt = a.submittedAt) ∧
    (a.withdrawnAt ≠ 0 → b.withdrawnAt = a.withdrawnAt) ∧
    (a.acceptedAt ≠ 0 → b.acceptedAt = a.acceptedAt) ∧
    (a.rejectedAt ≠ 0 → b.rejectedAt = a.rejectedAt)

instance (a b : Stamps) : Decidable (a.KeepsSet b) := inferInstanceAs (Decidable (_ ∧ _))

theorem KeepsSet.refl (a : Stamps) : a.KeepsSet a :=
  ⟨fun _ => rfl, fun _ => rfl, fun _ => rfl, fun _ => rfl⟩

theorem keepsSet_after (s : Stamps) (t : Transition) (now : Int) : s.KeepsSet (s.after t now) := by
  cases t <;> refine ⟨fun set => ?_, fun set => ?_, fun set => ?_, fun set => ?_⟩ <;>
    simp_all [after]

end Stamps

namespace Proposal

/-- `p'` keeps the times of `p`: created at the same time, updated no earlier, and with every
transition time that `p` set. -/
def KeepsTimes (p p' : Proposal) : Prop :=
  p'.createdAt = p.createdAt ∧ p.updatedAt ≤ p'.updatedAt ∧ p.stamps.KeepsSet p'.stamps

theorem KeepsTimes.refl (p : Proposal) : p.KeepsTimes p :=
  ⟨rfl, Int.le_refl _, Stamps.KeepsSet.refl _⟩

theorem KeepsTimes.of_lookup {s : MemoryStore} {k : ProposalKey} {p p' : Proposal}
    (before : s.lookup k = some p) (after : s.lookup k = some p') : p.KeepsTimes p' := by
  cases after.symm.trans before
  exact KeepsTimes.refl p

end Proposal

theorem Transition.Moved.keepsTimes {t : Transition} {p r : Proposal} {now : Int}
    (moved : t.Moved p (stamp now p.updatedAt) r) : p.KeepsTimes r := by
  obtain ⟨-, created, updated, stamps⟩ := moved
  refine ⟨created, ?_, stamps ▸ p.stamps.keepsSet_after t _⟩
  rw [updated]
  exact Int.le_max_right _ _

/-- An update from the copy `existing` at clock `now` keeps the times of the stored record `q`:
the copy carries `q`'s creation time and set transition times, and its update time or the clock
reaches `q`'s. -/
def ProposalDto.Fits (existing : ProposalDto) (now : Int) (q : Proposal) : Prop :=
  existing.createdAt = q.createdAt ∧ q.updatedAt ≤ stamp now existing.updatedAt ∧
    q.stamps.KeepsSet existing.stamps

instance (existing : ProposalDto) (now : Int) (q : Proposal) : Decidable (existing.Fits now q) :=
  inferInstanceAs (Decidable (_ ∧ _))

theorem ProposalDto.fits_toDto (q : Proposal) (now : Int) : q.toDto.Fits now q :=
  ⟨rfl, Int.le_max_right _ _, Stamps.KeepsSet.refl _⟩

namespace Service
open ServiceAct World
variable {w : World}

/-- An update's copy fits the record stored under its key; the other calls carry no copy. -/
def Call.CopyFits (w : World) : Call → Prop
  | .update _ existing _ => ∀ q, w.store.lookup existing.key = some q → existing.Fits w.clock q
  | _ => True

/-- A step fits the store it runs on: a call that succeeds carries a copy that fits. -/
def Step.Fits (w : World) : Step → Prop
  | .call c => (∃ a, (c.act.run.outcome w).1 = .ok a) → c.CopyFits w
  | _ => True

/-- A step from `w` keeps the times of every record stored both before and after it. -/
def Step.KeepsTimes (w : World) (step : Step) : Prop :=
  ∀ k p p', w.store.lookup k = some p → (step.perform w).store.lookup k = some p' → p.KeepsTimes p'

theorem Call.Puts.keepsTimes (sorted : w.store.proposals.Sorted) {c : Call} (fits : c.CopyFits w)
    {r p : Proposal} (puts : c.Puts w r) (before : w.store.lookup r.key = some p) : p.KeepsTimes r := by
  cases c with
  | create => rw [puts.2] at before; cases before
  | update _ existing _ =>
    obtain ⟨key, created, updated, stamps⟩ := puts
    obtain ⟨copied, later, kept⟩ := fits p (key ▸ before)
    exact ⟨created.trans copied, updated ▸ later, stamps ▸ kept⟩
  | _ =>
    obtain ⟨t, -, q, stored, -, moved⟩ := puts
    -- the record moved on is the one stored under its key
    have found : w.store.lookup r.key = some q := moved.1 ▸ sorted.find?_of_mem stored
    rw [before] at found
    cases found
    exact moved.keepsTimes

theorem keepsTimes_of_put (sorted : w.store.proposals.Sorted) {s : MemoryStore}
    (leaves : s = w.store ∨ (∃ r, (∀ p, w.store.lookup r.key = some p → p.KeepsTimes r) ∧
      s = w.store.put r) ∨ ∃ k, s = w.store.delete k) :
    (∀ k p p', w.store.lookup k = some p → s.lookup k = some p' → p.KeepsTimes p') ∧
      s.proposals.Sorted := by
  rcases leaves with rfl | ⟨r, keeps, rfl⟩ | ⟨k, rfl⟩
  · exact ⟨fun k p p' before after => .of_lookup before after, sorted⟩
  · refine ⟨fun k p p' before after => ?_, sorted.put r⟩
    rw [MemoryStore.lookup_put] at after
    split at after
    · next here =>
      cases after
      exact keeps p (here ▸ before)
    · exact .of_lookup before after
  · refine ⟨fun k' p p' before after => ?_, sorted.erase k⟩
    rw [MemoryStore.lookup_delete] at after
    split at after
    · cases after
    · exact .of_lookup before after

theorem Step.keepsTimes (hw : w.InMemory) (sorted : w.store.proposals.Sorted) {step : Step}
    (fits : step.Fits w) : step.KeepsTimes w ∧ (step.perform w).store.proposals.Sorted := by
  cases step with
  | call c =>
    obtain ⟨leaves, -⟩ := Call.writes_run hw c
    apply keepsTimes_of_put sorted
    cases c
    case update u existing changes =>
      -- an update puts its record only when it succeeds, and its copy then fits
      rcases updateProposal_putsOne hw u existing changes with ⟨kept, -⟩ | ⟨d, answered, puts, put⟩
      · exact .inl kept
      · exact .inr (.inl ⟨_, fun p before => puts.keepsTimes sorted (fits ⟨d, answered⟩) before, put⟩)
    all_goals
      rcases leaves with same | ⟨r, puts, put⟩ | ⟨d, -, erased⟩
      · exact .inl same
      · exact .inr (.inl ⟨r, fun p before => puts.keepsTimes sorted (by trivial) before, put⟩)
      · exact .inr (.inr ⟨d.key, erased⟩)
  | _ =>
    -- the harness touches the clock, the directory and the mailer, never the proposals
    exact keepsTimes_of_put sorted (.inl rfl)

theorem RunsWith.keepsTimes (hw : w.InMemory) (sorted : w.store.proposals.Sorted)
    {handed : List ProposalDto} {steps : List Step}
    (fits : RunsWith (fun w _ step => step.Fits w) w handed steps) :
    RunsWith (fun w _ step => step.KeepsTimes w) w handed steps := by
  induction steps generalizing w handed with
  | nil => trivial
  | cons step rest ih =>
    obtain ⟨keeps, sorted'⟩ := Step.keepsTimes hw sorted fits.1
    exact ⟨keeps, ih (step.perform_inMemory hw) sorted' fits.2⟩

/-- Over every run from an in-memory world whose proposals are sorted by key, each step keeps
the times of every record stored both before and after it: the creation time, the set transition
times, and an update time that never decreases, as long as the copy of every update that
succeeds fits the record stored under its key. A copy as the store holds the record always
fits. -/
theorem timestamps_kept_by_fitting_updates (w : World) (hw : w.InMemory)
    (sorted : w.store.proposals.Sorted) (steps : List Step)
    (fits : RunsWith (fun w _ step => step.Fits w) w [] steps) :
    RunsWith (fun w _ step => step.KeepsTimes w) w [] steps :=
  RunsWith.keepsTimes hw sorted fits

def firstInput : ProposalDto :=
  { ProposalDto.empty with name := "first", repositoryId := 20, organizationNodeId := "N:organization:repo" }

def firstCopy : ProposalDto :=
  ((createProposal 1 firstInput).run.outcome forgingWorld).1.toOption.getD default

def staleRun : List Step :=
  [.call (.create 1 firstInput), .setClock 2000,
   .call (.update 1 firstCopy { firstInput with name := "second" }), .setClock 500,
   .call (.update 1 firstCopy { firstInput with name := "third" })]

def freshRun : List Step :=
  [.call (.create 1 firstInput), .setClock 2000,
   .call (.update 1 firstCopy { firstInput with name := "second" })]

theorem fresh_update_keeps_times :
    forgingWorld.InMemory ∧ forgingWorld.store.proposals.Sorted ∧
      RunsWith (fun w _ step => step.Fits w) forgingWorld [] freshRun ∧
      RunsWith (fun w _ step => step.KeepsTimes w) forgingWorld [] freshRun := by
  have hw : forgingWorld.InMemory := ⟨rfl, rfl, rfl, rfl⟩
  have sorted : forgingWorld.store.proposals.Sorted := List.Pairwise.nil
  have fits : RunsWith (fun w _ step => step.Fits w) forgingWorld [] freshRun := by
    refine ⟨fun _ => trivial, trivial, fun _ q found => ?_, trivial⟩
    -- the copy fits the record it was read from, at the clock set forward
    have check : ((afterSteps forgingWorld (freshRun.take 2)).store.lookup firstCopy.key).map
        (fun q => decide (firstCopy.Fits 2000 q)) = some true := by
      decide
    obtain ⟨q', found', holds⟩ := Option.map_eq_some_iff.mp check
    cases found'.symm.trans found
    exact of_decide_eq_true holds
  exact ⟨hw, sorted, fits, timestamps_kept_by_fitting_updates forgingWorld hw sorted freshRun fits⟩

theorem firstCopy_handed : firstCopy ∈ Step.answers (.call (.create 1 firstInput)) forgingWorld := by
  have created : ((createProposal 1 firstInput).run.outcome forgingWorld).1.toOption.isSome = true := by
    decide
  unfold firstCopy
  show _ ∈ Call.answersOne ((createProposal 1 firstInput).run.outcome forgingWorld).1
  generalize ((createProposal 1 firstInput).run.outcome forgingWorld).1 = answer at created ⊢
  cases answer with
  | ok d => exact List.mem_singleton_self d
  | error e => cases created

/-- Updating from a copy the service handed out, with the clock set back, moves the update time
back: 2000 after the first update, 1000 after the second. -/
theorem stale_update_moves_update_time_back :
    RunsWith (fun _ handed step => step.Honest handed) forgingWorld [] staleRun ∧
      ((afterSteps forgingWorld (staleRun.take 3)).store.lookup firstCopy.key).map (·.updatedAt) =
        some 2000 ∧
      ((afterSteps forgingWorld staleRun).store.lookup firstCopy.key).map (·.updatedAt) = some 1000 :=
  ⟨⟨trivial, trivial, List.mem_append_left _ (List.mem_append_right _ firstCopy_handed), trivial,
      List.mem_append_left _ (List.mem_append_left _ (List.mem_append_left _
        (List.mem_append_right _ firstCopy_handed))), trivial⟩,
    by decide, by decide⟩

end Service

end DatasetProposals
