import DatasetProposals.Proofs.AcceptanceSteps
import Mathlib.Data.List.Basic
/-! Submission's guards, in order, and the record it writes. Main statement:
`submit_guards_in_order`. -/
namespace DatasetProposals

section Missing
variable (answered : List Int)

/-! `missingQuestions.go` walks the required ids carrying those it has listed already. -/

theorem mem_missingQuestions_go {x : Int} (required seen : List Int) :
    x ∈ missingQuestions.go answered required seen ↔
      x ∈ required ∧ x ∉ answered ∧ x ∉ seen := by
  induction required generalizing seen with
  | nil => simp [missingQuestions.go]
  | cons q rest ih =>
    unfold missingQuestions.go
    by_cases skipped : answered.contains q || seen.contains q
    · rw [if_pos skipped, ih]
      simp only [Bool.or_eq_true, List.contains_iff_mem] at skipped
      by_cases same : x = q
      · subst same
        constructor <;> rintro ⟨-, notAnswered, notSeen⟩ <;>
          exact (skipped.elim notAnswered notSeen).elim
      · simp [same]
    · rw [if_neg skipped, List.mem_cons, ih]
      simp only [Bool.or_eq_true, List.contains_iff_mem, not_or] at skipped
      by_cases same : x = q
      · subst same
        simp [skipped]
      · simp [same]

theorem nodup_missingQuestions_go (required seen : List Int) :
    (missingQuestions.go answered required seen).Nodup := by
  induction required generalizing seen with
  | nil => exact List.nodup_nil
  | cons q rest ih =>
    unfold missingQuestions.go
    split
    · exact ih seen
    · refine List.nodup_cons.mpr ⟨fun mem => ?_, ih (q :: seen)⟩
      exact ((mem_missingQuestions_go answered rest (q :: seen)).mp mem).2.2 List.mem_cons_self

theorem pairwise_idxOf_cons {q : Int} {rest l : List Int} (other : ∀ a ∈ l, q ≠ a)
    (ordered : l.Pairwise (fun a b => rest.idxOf a < rest.idxOf b)) :
    l.Pairwise (fun a b => (q :: rest).idxOf a < (q :: rest).idxOf b) :=
  ordered.imp_of_mem fun {a b} memA memB before => by
    rw [List.idxOf_cons_ne rest (other a memA), List.idxOf_cons_ne rest (other b memB)]
    exact Nat.succ_lt_succ before

theorem missingQuestions_go_ordered (required seen : List Int) :
    (missingQuestions.go answered required seen).Pairwise
      (fun a b => required.idxOf a < required.idxOf b) := by
  induction required generalizing seen with
  | nil => exact List.Pairwise.nil
  | cons q rest ih =>
    unfold missingQuestions.go
    split
    · next skipped =>
      -- `q` is answered or seen, so none of what is listed is `q`
      refine pairwise_idxOf_cons (fun a mem same => ?_) (ih seen)
      subst same
      have listed := (mem_missingQuestions_go answered rest seen).mp mem
      simp only [Bool.or_eq_true, List.contains_iff_mem] at skipped
      exact skipped.elim listed.2.1 listed.2.2
    · -- `q` heads the list, and what follows has seen `q`
      have other : ∀ a ∈ missingQuestions.go answered rest (q :: seen), q ≠ a := fun a mem same =>
        ((mem_missingQuestions_go answered rest (q :: seen)).mp mem).2.2 (same ▸ List.mem_cons_self)
      refine List.pairwise_cons.mpr ⟨fun b memB => ?_, pairwise_idxOf_cons other (ih (q :: seen))⟩
      rw [List.idxOf_cons_self, List.idxOf_cons_ne rest (other b memB)]
      exact Nat.succ_pos _

variable {answered} in
theorem mem_missingQuestions {required : List Int} {x : Int} :
    x ∈ missingQuestions required answered ↔ x ∈ required ∧ x ∉ answered := by
  simp [missingQuestions, mem_missingQuestions_go]

theorem nodup_missingQuestions (required : List Int) :
    (missingQuestions required answered).Nodup :=
  nodup_missingQuestions_go answered required []

theorem missingQuestions_ordered (required : List Int) :
    (missingQuestions required answered).Pairwise
      (fun a b => required.idxOf a < required.idxOf b) :=
  missingQuestions_go_ordered answered required []

variable {answered} in
theorem missingQuestions_eq_nil {required : List Int} :
    missingQuestions required answered = [] ↔ ∀ q ∈ required, q ∈ answered := by
  rw [List.eq_nil_iff_forall_not_mem]
  simp [mem_missingQuestions]

end Missing

namespace MemoryStore

def workspaceRepositories (st : MemoryStore) (org : String) : List RepositoryRecord :=
  st.repositories.filter (·.organizationNodeId == org)

theorem single_eq_ambiguous {α : Type} {collection key : String} {l : List α}
    (many : 2 ≤ l.length) : single collection key l = .error (.ambiguous collection key l.length) := by
  rcases l with _ | ⟨a, _ | ⟨b, rest⟩⟩
  · simp at many
  · simp at many
  · rfl

theorem repository_eq (st : MemoryStore) (org : String) :
    st.repository org = single "repository" org (st.workspaceRepositories org) := rfl

theorem repository_eq_ok {st : MemoryStore} {org : String} {r : RepositoryRecord} :
    st.repository org = .ok r ↔ st.workspaceRepositories org = [r] := by
  rw [repository_eq]
  unfold single
  split <;> simp_all

theorem organizationNodeId_of_repository {st : MemoryStore} {org : String} {r : RepositoryRecord}
    (found : st.repository org = .ok r) : r.organizationNodeId = org := by
  have only := repository_eq_ok.mp found
  have mem : r ∈ st.workspaceRepositories org := only ▸ List.mem_singleton_self r
  simpa [workspaceRepositories] using (List.mem_filter.mp mem).2

end MemoryStore

namespace ServiceAct
variable {α : Type}

theorem outcome_pure (a : α) (w : World) : (pure a : ServiceAct α).run.outcome w = (.ok a, w) :=
  rfl

theorem outcome_throw (e : ServiceError) (w : World) :
    (throw e : ServiceAct α).run.outcome w = (.error e, w) := rfl

theorem calls_pure (a : α) (w : World) : (pure a : ServiceAct α).run.calls w = [] := rfl

end ServiceAct

namespace Service
open Script ServiceAct World
variable {w : World} {u : Int} {n : String} {p : Proposal}

def submittedRecord (p : Proposal) (repo : RepositoryRecord) (now : Int) : Proposal :=
  { p with repositoryId := repo.repositoryId
           status := .submitted
           updatedAt := max now p.updatedAt
           submittedAt := if p.submittedAt = 0 then max now p.updatedAt else p.submittedAt }

theorem submit_apply_pinned (p : Proposal) (repo : RepositoryRecord) (now : Int) :
    Transition.submit.apply { p with repositoryId := repo.repositoryId } (stamp now p.updatedAt) =
      submittedRecord p repo now := by
  simp only [Transition.apply, Transition.target, submittedRecord, stamp, beq_iff_eq]

theorem submit_source : Transition.submit.source = .draft := rfl

theorem outcome_viaStore_proposal (hw : w.InMemory) (op : String) (u : Int) (n : String) :
    (viaStore op (Script.op (.proposal u n))).run.outcome w =
      ((w.store.proposal u n).mapError (ServiceError.ofStorage op), w.countStore .proposal) := by
  refine (outcome_mapError (Script.op (.proposal u n)) _ w).trans ?_
  change (Except.mapError _ ((Op.proposal u n).outcome w).1, ((Op.proposal u n).outcome w).2) = _
  rw [outcome_proposal hw]

theorem outcome_viaStore_repository (hw : w.InMemory) (op org : String) :
    (viaStore op (Script.op (.repository org))).run.outcome w =
      ((w.store.repository org).mapError (ServiceError.ofStorage op), w.countStore .repository) := by
  refine (outcome_mapError (Script.op (.repository org)) _ w).trans ?_
  change (Except.mapError _ ((Op.repository org).outcome w).1, ((Op.repository org).outcome w).2) = _
  rw [outcome_repository hw]

theorem ofStorage_proposalNotFound (op : String) (u : Int) (n : String) :
    ServiceError.ofStorage op (StorageError.proposalNotFound u n) =
      .notFound op ("dataset proposal " ++ toString u ++ "/" ++ n) := by
  simp [StorageError.proposalNotFound, ServiceError.ofStorage, String.append_assoc]

theorem persistSubmit_absent (hw : w.InMemory) (absent : w.store.lookup ⟨u, n⟩ = none) :
    ((persistSubmit u n).run.outcome w).1 =
      .error (.notFound Transition.submit.operation ("dataset proposal " ++ toString u ++ "/" ++ n)) := by
  unfold persistSubmit
  dsimp only
  rw [ServiceAct.outcome_bind, outcome_viaStore_proposal hw, MemoryStore.proposal_eq, absent]
  exact congrArg Except.error (ofStorage_proposalNotFound _ u n)

theorem persistSubmit_not_draft (hw : w.InMemory) (found : w.store.lookup ⟨u, n⟩ = some p)
    (status : p.status ≠ .draft) :
    ((persistSubmit u n).run.outcome w).1 =
      .error (ServiceError.wrongStatus Transition.submit.operation n p.status .draft) := by
  have key : p.nodeId = n := congrArg ProposalKey.nodeId (MemoryStore.lookup_key found)
  unfold persistSubmit
  dsimp only
  rw [ServiceAct.outcome_bind, outcome_viaStore_proposal hw, MemoryStore.proposal_eq, found]
  dsimp only [Except.mapError]
  rw [ServiceAct.outcome_bind]
  unfold checkStatus
  rw [if_pos (by simpa [Transition.source] using status)]
  rw [key]
  rfl

theorem calls_viaStore_proposal (op : String) (u : Int) (n : String) (w : World) :
    (viaStore op (Script.op (.proposal u n))).run.calls w = [.proposal u n] :=
  calls_mapError (Script.op (.proposal u n)) _ w

theorem calls_viaStore_repository (op org : String) (w : World) :
    (viaStore op (Script.op (.repository org))).run.calls w = [.repository org] :=
  calls_mapError (Script.op (.repository org)) _ w

def unansweredMessage (missing : List Int) : String :=
  "all required questions not answered (missing [" ++ ", ".intercalate (missing.map toString) ++ "])"

theorem updateIf_draft_eq_ok {st : MemoryStore} {p q : Proposal} (found : st.lookup p.key = some q)
    (draft : q.status = .draft) : st.updateIf p .draft = .ok (st.put p) :=
  MemoryStore.updateIf_eq_ok.mpr ⟨q, found, draft, rfl⟩

theorem outcome_persistSubmit_draft (hw : w.InMemory) (found : w.store.lookup ⟨u, n⟩ = some p)
    (draft : p.status = .draft) :
    (persistSubmit u n).run.outcome w =
      match w.store.repository p.organizationNodeId with
      | .error e => (.error (ServiceError.ofStorage Transition.submit.operation e),
          (w.countStore .proposal).countStore .repository)
      | .ok repo =>
        if missingQuestions repo.questions (p.survey.map (·.questionId)) = [] then
          (.ok (submittedRecord p repo w.clock),
            { ((w.countStore .proposal).countStore .repository).countStore .updateIf with
                store := w.store.put (submittedRecord p repo w.clock) })
        else
          (.error (.validation Transition.submit.operation
              (unansweredMessage (missingQuestions repo.questions (p.survey.map (·.questionId))))),
            (w.countStore .proposal).countStore .repository) := by
  unfold persistSubmit
  dsimp only
  rw [ServiceAct.outcome_bind, outcome_viaStore_proposal hw, MemoryStore.proposal_eq, found]
  dsimp only [Except.mapError]
  rw [ServiceAct.outcome_bind]
  unfold checkStatus
  rw [if_neg (by simp [Transition.source, draft]), outcome_pure]
  dsimp only
  rw [ServiceAct.outcome_bind, outcome_viaStore_repository (hw.countStore _), countStore_store]
  cases looked : w.store.repository p.organizationNodeId with
  | error e => rfl
  | ok repo =>
    dsimp only [Except.mapError]
    rw [if_neg (by simp [MemoryStore.organizationNodeId_of_repository looked])]
    by_cases answered : missingQuestions repo.questions (p.survey.map (·.questionId)) = []
    · have key : (submittedRecord p repo w.clock).key = ⟨u, n⟩ := MemoryStore.lookup_key (p := p) found
      rw [if_neg (by simp [answered]), if_pos answered]
      unfold persistTransition
      rw [outcome_lift_bind, outcome_op, outcome_now]
      dsimp only
      rw [ServiceAct.outcome_bind, outcome_viaStore_updateIf ((hw.countStore _).countStore _),
        countStore_clock, countStore_clock, countStore_store, countStore_store,
        submit_apply_pinned, submit_source, updateIf_draft_eq_ok (key ▸ found) draft]
      rfl
    · rw [if_pos (by simp [answered]), if_neg answered]
      rfl

theorem calls_persistSubmit_draft (hw : w.InMemory) (found : w.store.lookup ⟨u, n⟩ = some p)
    (draft : p.status = .draft) :
    (persistSubmit u n).run.calls w = .proposal u n :: .repository p.organizationNodeId ::
      match w.store.repository p.organizationNodeId with
      | .error _ => []
      | .ok repo =>
        if missingQuestions repo.questions (p.survey.map (·.questionId)) = [] then
          [.now, .updateIf (submittedRecord p repo w.clock) .draft]
        else [] := by
  unfold persistSubmit
  dsimp only
  rw [ServiceAct.calls_bind, calls_viaStore_proposal, outcome_viaStore_proposal hw,
    MemoryStore.proposal_eq, found]
  dsimp only [Except.mapError]
  rw [ServiceAct.calls_bind]
  unfold checkStatus
  rw [if_neg (by simp [Transition.source, draft]), outcome_pure, calls_pure]
  dsimp only
  rw [ServiceAct.calls_bind, calls_viaStore_repository, outcome_viaStore_repository (hw.countStore _),
    countStore_store]
  cases looked : w.store.repository p.organizationNodeId with
  | error e => rfl
  | ok repo =>
    dsimp only [Except.mapError]
    rw [if_neg (by simp [MemoryStore.organizationNodeId_of_repository looked])]
    by_cases answered : missingQuestions repo.questions (p.survey.map (·.questionId)) = []
    · rw [if_neg (by simp [answered]), if_pos answered]
      unfold persistTransition
      rw [calls_lift_bind, calls_op, outcome_op, outcome_now]
      dsimp only
      rw [ServiceAct.calls_bind, calls_viaStore_updateIf, countStore_clock, countStore_clock,
        submit_apply_pinned, submit_source]
      -- the answer of the write adds no call, whatever it is
      split <;> rfl
    · rw [if_pos (by simp [answered]), if_neg answered]
      rfl

/-! Submission as a whole: the persisting part, then the team's notification, which neither
writes the store nor provisions. -/

theorem outcome_submitProposal (hw : w.InMemory) :
    ((submitProposal u n).run.outcome w).1 = ((persistSubmit u n).run.outcome w).1.map (·.toDto) ∧
      ((submitProposal u n).run.outcome w).2.store = ((persistSubmit u n).run.outcome w).2.store :=
  have notified := outcome_notified (persistSubmit u n) Proposal.toDto
    (fun p => notifyTeam_calls .submitted p) hw.clean
  ⟨notified.1, notified.2.1⟩

theorem submitProposal_repository_refused (hw : w.InMemory) (found : w.store.lookup ⟨u, n⟩ = some p)
    (draft : p.status = .draft) {e : StorageError}
    (looked : w.store.repository p.organizationNodeId = .error e) :
    ((submitProposal u n).run.outcome w).1 =
      .error (ServiceError.ofStorage Transition.submit.operation e) := by
  rw [(outcome_submitProposal hw).1, outcome_persistSubmit_draft hw found draft, looked]
  rfl

theorem submitProposal_no_repository (hw : w.InMemory) (found : w.store.lookup ⟨u, n⟩ = some p)
    (draft : p.status = .draft) (none : w.store.workspaceRepositories p.organizationNodeId = []) :
    ((submitProposal u n).run.outcome w).1 =
      .error (.notFound Transition.submit.operation ("repository " ++ p.organizationNodeId)) := by
  have looked : w.store.repository p.organizationNodeId =
      .error (.notFound "repository" p.organizationNodeId) := by
    rw [MemoryStore.repository_eq, none]
    rfl
  rw [submitProposal_repository_refused hw found draft looked]
  simp [ServiceError.ofStorage]

theorem submitProposal_many_repositories (hw : w.InMemory) (found : w.store.lookup ⟨u, n⟩ = some p)
    (draft : p.status = .draft)
    (many : 2 ≤ (w.store.workspaceRepositories p.organizationNodeId).length) :
    ((submitProposal u n).run.outcome w).1 =
      .error (.ambiguous Transition.submit.operation ("repository " ++ p.organizationNodeId)
        (w.store.workspaceRepositories p.organizationNodeId).length) := by
  rw [submitProposal_repository_refused hw found draft
    (by rw [MemoryStore.repository_eq]; exact MemoryStore.single_eq_ambiguous many)]
  simp [ServiceError.ofStorage]

theorem submitProposal_absent (hw : w.InMemory) (absent : w.store.lookup ⟨u, n⟩ = none) :
    ((submitProposal u n).run.outcome w).1 =
      .error (.notFound Transition.submit.operation ("dataset proposal " ++ toString u ++ "/" ++ n)) := by
  rw [(outcome_submitProposal hw).1, persistSubmit_absent hw absent]
  rfl

theorem submitProposal_not_draft (hw : w.InMemory) (found : w.store.lookup ⟨u, n⟩ = some p)
    (status : p.status ≠ .draft) :
    ((submitProposal u n).run.outcome w).1 =
      .error (ServiceError.wrongStatus Transition.submit.operation n p.status .draft) := by
  rw [(outcome_submitProposal hw).1, persistSubmit_not_draft hw found status]
  rfl

theorem submitProposal_unanswered (hw : w.InMemory) (found : w.store.lookup ⟨u, n⟩ = some p)
    (draft : p.status = .draft) {repo : RepositoryRecord}
    (only : w.store.workspaceRepositories p.organizationNodeId = [repo])
    (unanswered : missingQuestions repo.questions (p.survey.map (·.questionId)) ≠ []) :
    ((submitProposal u n).run.outcome w).1 =
      .error (.validation Transition.submit.operation
        (unansweredMessage (missingQuestions repo.questions (p.survey.map (·.questionId))))) := by
  rw [(outcome_submitProposal hw).1, outcome_persistSubmit_draft hw found draft,
    MemoryStore.repository_eq_ok.mpr only]
  dsimp only
  rw [if_neg unanswered]
  rfl

theorem submitProposal_written (hw : w.InMemory) (found : w.store.lookup ⟨u, n⟩ = some p)
    (draft : p.status = .draft) {repo : RepositoryRecord}
    (only : w.store.workspaceRepositories p.organizationNodeId = [repo])
    (answered : missingQuestions repo.questions (p.survey.map (·.questionId)) = []) :
    ((submitProposal u n).run.outcome w).1 = .ok (submittedRecord p repo w.clock).toDto ∧
      ((submitProposal u n).run.outcome w).2.store = w.store.put (submittedRecord p repo w.clock) ∧
      ((submitProposal u n).run.calls w).filter (·.WritesStore) =
        [.updateIf (submittedRecord p repo w.clock) .draft] := by
  obtain ⟨result, store⟩ := outcome_submitProposal hw (u := u) (n := n)
  have looked := MemoryStore.repository_eq_ok.mpr only
  rw [outcome_persistSubmit_draft hw found draft, looked] at result store
  dsimp only at result store
  rw [if_pos answered] at result store
  refine ⟨result, store, ?_⟩
  refine (filter_calls_notified (persistSubmit u n) Proposal.toDto
    (fun p => notifyTeam_calls .submitted p) (fun _ writes _ => writes) w).trans ?_
  rw [calls_persistSubmit_draft hw found draft, looked]
  dsimp only
  rw [if_pos answered]
  rfl

theorem submitProposal_written_or_refused (hw : w.InMemory) :
    (∃ p repo, w.store.lookup ⟨u, n⟩ = some p ∧ p.status = .draft ∧
      w.store.workspaceRepositories p.organizationNodeId = [repo] ∧
      ((submitProposal u n).run.outcome w).1 = .ok (submittedRecord p repo w.clock).toDto ∧
      ((submitProposal u n).run.outcome w).2.store = w.store.put (submittedRecord p repo w.clock)) ∨
    (∃ p, w.store.lookup ⟨u, n⟩ = some p ∧ p.status ≠ .draft ∧
      ((submitProposal u n).run.outcome w).1 =
        .error (ServiceError.wrongStatus Transition.submit.operation n p.status .draft)) ∨
    ∃ e, ((submitProposal u n).run.outcome w).1 = .error e ∧
      ∀ op nodeId reason, e ≠ .invalidState op nodeId reason := by
  cases found : w.store.lookup ⟨u, n⟩ with
  | none => exact .inr (.inr ⟨_, submitProposal_absent hw found, fun _ _ _ wrong => nomatch wrong⟩)
  | some p =>
    by_cases draft : p.status = .draft
    case neg => exact .inr (.inl ⟨p, rfl, draft, submitProposal_not_draft hw found draft⟩)
    cases looked : w.store.repository p.organizationNodeId with
    | error e =>
      refine .inr (.inr ⟨_, submitProposal_repository_refused hw found draft looked, ?_⟩)
      cases e <;> simp [ServiceError.ofStorage]
    | ok repo =>
      have only := MemoryStore.repository_eq_ok.mp looked
      by_cases answered : missingQuestions repo.questions (p.survey.map (·.questionId)) = []
      · obtain ⟨result, store, -⟩ := submitProposal_written hw found draft only answered
        exact .inl ⟨p, repo, rfl, draft, only, result, store⟩
      · exact .inr (.inr ⟨_, submitProposal_unanswered hw found draft only answered,
          fun _ _ _ wrong => nomatch wrong⟩)

theorem submitProposal_invalidState (hw : w.InMemory) {op nodeId reason : String}
    (refused : ((submitProposal u n).run.outcome w).1 = .error (.invalidState op nodeId reason)) :
    ∃ p, w.store.lookup ⟨u, n⟩ = some p ∧ p.status ≠ .draft := by
  rcases submitProposal_written_or_refused hw (u := u) (n := n) with
    ⟨_, _, -, -, -, written, -⟩ | ⟨p, found, status, -⟩ | ⟨e, failed, named⟩
  · rw [written] at refused
    cases refused
  · exact ⟨p, found, status⟩
  · rw [failed] at refused
    cases refused
    exact (named op nodeId reason rfl).elim

/-- What submitting `u`'s proposal `n` from world `w` answers, guard by guard in the order the
guards are checked: no record, a record in another status than DRAFT (whatever its survey and
workspace), no repository or several for its workspace, a required question unanswered (the
message listing each such question once, in the order the repository first requires it), and
past them all the one write. A refusal leaves the proposals and the sent mail as they were, and
only the status check refuses for the state of the proposal. -/
structure SubmitGuarded (w : World) (u : Int) (n : String) : Prop where
  absent : w.store.lookup ⟨u, n⟩ = none →
    ((submitProposal u n).run.outcome w).1 =
      .error (.notFound Transition.submit.operation ("dataset proposal " ++ toString u ++ "/" ++ n))
  notDraft : ∀ p, w.store.lookup ⟨u, n⟩ = some p → p.status ≠ .draft →
    ((submitProposal u n).run.outcome w).1 =
      .error (ServiceError.wrongStatus Transition.submit.operation n p.status .draft)
  noRepository : ∀ p, w.store.lookup ⟨u, n⟩ = some p → p.status = .draft →
    w.store.workspaceRepositories p.organizationNodeId = [] →
    ((submitProposal u n).run.outcome w).1 =
      .error (.notFound Transition.submit.operation ("repository " ++ p.organizationNodeId))
  manyRepositories : ∀ p, w.store.lookup ⟨u, n⟩ = some p → p.status = .draft →
    2 ≤ (w.store.workspaceRepositories p.organizationNodeId).length →
    ((submitProposal u n).run.outcome w).1 =
      .error (.ambiguous Transition.submit.operation ("repository " ++ p.organizationNodeId)
        (w.store.workspaceRepositories p.organizationNodeId).length)
  unanswered : ∀ p repo, w.store.lookup ⟨u, n⟩ = some p → p.status = .draft →
    w.store.workspaceRepositories p.organizationNodeId = [repo] →
    (∃ q ∈ repo.questions, ∀ a ∈ p.survey, a.questionId ≠ q) →
    ∃ missing, ((submitProposal u n).run.outcome w).1 =
        .error (.validation Transition.submit.operation (unansweredMessage missing)) ∧
      (∀ q, q ∈ missing ↔ q ∈ repo.questions ∧ ∀ a ∈ p.survey, a.questionId ≠ q) ∧
      missing.Nodup ∧ missing.Pairwise (fun a b => repo.questions.idxOf a < repo.questions.idxOf b)
  written : ∀ p repo, w.store.lookup ⟨u, n⟩ = some p → p.status = .draft →
    w.store.workspaceRepositories p.organizationNodeId = [repo] →
    (∀ q ∈ repo.questions, ∃ a ∈ p.survey, a.questionId = q) →
    ((submitProposal u n).run.outcome w).1 = .ok (submittedRecord p repo w.clock).toDto ∧
      ((submitProposal u n).run.outcome w).2.store = w.store.put (submittedRecord p repo w.clock) ∧
      ((submitProposal u n).run.calls w).filter (·.WritesStore) =
        [.updateIf (submittedRecord p repo w.clock) .draft]
  refusedKeeps : ∀ e, ((submitProposal u n).run.outcome w).1 = .error e →
    ((submitProposal u n).run.outcome w).2.store = w.store ∧
      ((submitProposal u n).run.outcome w).2.mailer = w.mailer
  invalidOnlyByStatus : ∀ op nodeId reason,
    ((submitProposal u n).run.outcome w).1 = .error (.invalidState op nodeId reason) →
    ∃ p, w.store.lookup ⟨u, n⟩ = some p ∧ p.status ≠ .draft

/-- Submission on the in-memory store checks its guards in order: the record exists, it is a
DRAFT, its workspace has exactly one repository, and the survey answers every question that
repository requires. The first guard that fails names the refusal, and a refusal changes
neither the proposals nor the mail; past all of them the record read is written over DRAFT,
pinned to the repository found. -/
theorem submit_guards_in_order (w : World) (hw : w.InMemory) (u : Int) (n : String) :
    SubmitGuarded w u n where
  absent := submitProposal_absent hw
  notDraft _ := submitProposal_not_draft hw
  noRepository _ := submitProposal_no_repository hw
  manyRepositories _ := submitProposal_many_repositories hw
  unanswered p repo found draft only some := by
    have unanswered : missingQuestions repo.questions (p.survey.map (·.questionId)) ≠ [] := by
      obtain ⟨q, required, none⟩ := some
      rw [Ne, missingQuestions_eq_nil]
      intro all
      obtain ⟨a, mem, same⟩ := List.mem_map.mp (all q required)
      exact none a mem same
    refine ⟨_, submitProposal_unanswered hw found draft only unanswered, fun q => ?_,
      nodup_missingQuestions _ _, missingQuestions_ordered _ _⟩
    simp [mem_missingQuestions]
  written p repo found draft only all :=
    submitProposal_written hw found draft only (missingQuestions_eq_nil.mpr fun q required =>
      List.mem_map.mpr (all q required))
  refusedKeeps _ failed :=
    have kept := (submitProposal_commits u n).unchanged_of_error hw.clean failed
    ⟨kept.1, kept.2.1⟩
  invalidOnlyByStatus _ _ _ := submitProposal_invalidState hw

theorem submit_guarded_draftWorld : draftWorld.InMemory ∧ SubmitGuarded draftWorld 1 "N:proposal:1" :=
  ⟨draftWorld_inMemory, submit_guards_in_order draftWorld draftWorld_inMemory 1 "N:proposal:1"⟩

end Service
end DatasetProposals
