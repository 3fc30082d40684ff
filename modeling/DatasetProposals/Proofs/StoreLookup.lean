import DatasetProposals.Store.Memory
/-! The proposals of a memory store read as a finite map from keys to records.
Insertion, removal and the four writes are stated through `lookup`. None of the laws needs the
list to be sorted or free of repeated keys, so they hold of every store, seeded or not. -/
namespace DatasetProposals

theorem ProposalKey.beq_def (a b : ProposalKey) :
    (a == b) = (a.userId == b.userId && a.nodeId == b.nodeId) := by
  cases a; cases b; rfl

instance : LawfulBEq ProposalKey where
  eq_of_beq {a b} same := by
    cases a; cases b
    simp_all [ProposalKey.beq_def]
  rfl {a} := by simp [ProposalKey.beq_def]

namespace ProposalMap

theorem find?_cons (q : Proposal) (rest : ProposalMap) (k : ProposalKey) :
    find? (q :: rest) k = if q.key = k then some q else find? rest k := by
  by_cases hk : q.key = k <;> simp [find?,hk]

theorem find?_put (m : ProposalMap) (p : Proposal) (k : ProposalKey) :
    (m.put p).find? k = if p.key = k then some p else m.find? k := by
  induction m with
  | nil => exact find?_cons p [] k
  | cons q rest ih =>
    simp only [put]
    split
    · rw [find?_cons]
    · split
      · rename_i same
        have shared : q.key = p.key := (beq_iff_eq.mp same).symm
        rw [find?_cons,find?_cons,shared]
        by_cases hk : p.key = k <;> simp [hk]
      · rename_i other
        have apart : q.key ≠ p.key := fun h => other (beq_iff_eq.mpr h.symm)
        rw [find?_cons,ih,find?_cons]
        by_cases hp : p.key = k
        · subst k
          simp [apart]
        · simp [hp]

theorem find?_erase (m : ProposalMap) (k k' : ProposalKey) :
    (m.erase k).find? k' = if k = k' then none else m.find? k' := by
  simp only [erase,find?,List.find?_filter]
  split
  · rename_i same
    subst same
    exact List.find?_eq_none.mpr fun p _ => by simp
  · rename_i apart
    congr 1
    funext p
    by_cases hp : p.key = k'
    · simp [hp,Ne.symm apart]
    · simp [hp]

theorem find?_key {m : ProposalMap} {k : ProposalKey} {p : Proposal} (found : m.find? k = some p) :
    p.key = k := by
  simpa using List.find?_some found

end ProposalMap

namespace MemoryStore

def lookup (s : MemoryStore) (k : ProposalKey) : Option Proposal := s.proposals.find? k

/-- `s'` is `s` with the record under `k` replaced by `v`, or removed when `v` is `none`;
everything else is equal. -/
structure Writes (s s' : MemoryStore) (k : ProposalKey) (v : Option Proposal) : Prop where
  info : s'.info = s.info
  repositories : s'.repositories = s.repositories
  questions : s'.questions = s.questions
  lookup : ∀ k', s'.lookup k' = if k = k' then v else s.lookup k'

def put (s : MemoryStore) (p : Proposal) : MemoryStore := { s with proposals := s.proposals.put p }

@[simp] theorem lookup_put (s : MemoryStore) (p : Proposal) (k : ProposalKey) :
    (s.put p).lookup k = if p.key = k then some p else s.lookup k :=
  ProposalMap.find?_put _ _ _

@[simp] theorem lookup_delete (s : MemoryStore) (k k' : ProposalKey) :
    (s.delete k).lookup k' = if k = k' then none else s.lookup k' :=
  ProposalMap.find?_erase _ _ _

theorem lookup_key {s : MemoryStore} {k : ProposalKey} {p : Proposal} (found : s.lookup k = some p) :
    p.key = k :=
  ProposalMap.find?_key found

@[simp] theorem put_info (s : MemoryStore) (p : Proposal) : (s.put p).info = s.info := rfl
@[simp] theorem put_repositories (s : MemoryStore) (p : Proposal) :
    (s.put p).repositories = s.repositories := rfl
@[simp] theorem put_questions (s : MemoryStore) (p : Proposal) :
    (s.put p).questions = s.questions := rfl
@[simp] theorem delete_repositories (s : MemoryStore) (k : ProposalKey) :
    (s.delete k).repositories = s.repositories := rfl

theorem writes_put (s : MemoryStore) (p : Proposal) : s.Writes (s.put p) p.key (some p) :=
  ⟨rfl,rfl,rfl,fun k' => lookup_put s p k'⟩

theorem writes_delete (s : MemoryStore) (k : ProposalKey) : s.Writes (s.delete k) k none :=
  ⟨rfl,rfl,rfl,fun k' => lookup_delete s k k'⟩

theorem proposal_eq (s : MemoryStore) (u : Int) (n : String) :
    s.proposal u n = match s.lookup ⟨u,n⟩ with
      | some p => .ok p
      | none => .error (StorageError.proposalNotFound u n) := rfl

theorem create_eq_ok {s s' : MemoryStore} {p : Proposal} :
    s.create p = .ok s' ↔ s.lookup p.key = none ∧ s' = s.put p := by
  unfold create
  rw [← lookup, ← put]
  cases s.lookup p.key <;> simp [eq_comm]

theorem create_eq_error {s : MemoryStore} {p : Proposal} {e : StorageError} :
    s.create p = .error e ↔ s.lookup p.key ≠ none ∧ e = .alreadyExists p.userId p.nodeId := by
  unfold create
  rw [← lookup, ← put]
  cases s.lookup p.key <;> simp [eq_comm]

theorem updateIf_eq_ok {s s' : MemoryStore} {p : Proposal} {expected : Status} :
    s.updateIf p expected = .ok s' ↔
      ∃ q, s.lookup p.key = some q ∧ q.status = expected ∧ s' = s.put p := by
  unfold updateIf
  rw [← lookup, ← put]
  cases s.lookup p.key with
  | none => simp
  | some q => by_cases same : q.status = expected <;> simp [same,@eq_comm _ s']

theorem updateIf_eq_error {s : MemoryStore} {p : Proposal} {expected : Status} {e : StorageError} :
    s.updateIf p expected = .error e ↔
      (s.lookup p.key = none ∧ e = StorageError.proposalNotFound p.userId p.nodeId) ∨
      (∃ q, s.lookup p.key = some q ∧ q.status ≠ expected ∧
        e = .conflict p.userId p.nodeId expected) := by
  unfold updateIf
  rw [← lookup, ← put]
  cases s.lookup p.key with
  | none => simp [@eq_comm _ e]
  | some q => by_cases same : q.status = expected <;> simp [same,@eq_comm _ e]

theorem update_eq_ok {s s' : MemoryStore} {p : Proposal} :
    s.update p = .ok s' ↔ s.lookup p.key ≠ none ∧ s' = s.put p := by
  unfold update
  rw [← lookup, ← put]
  cases s.lookup p.key <;> simp [eq_comm]

theorem update_eq_error {s : MemoryStore} {p : Proposal} {e : StorageError} :
    s.update p = .error e ↔
      s.lookup p.key = none ∧ e = StorageError.proposalNotFound p.userId p.nodeId := by
  unfold update
  rw [← lookup, ← put]
  cases s.lookup p.key <;> simp [eq_comm]

end MemoryStore

end DatasetProposals
