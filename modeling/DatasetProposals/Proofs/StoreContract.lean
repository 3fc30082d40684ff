import DatasetProposals.Proofs.KeptTimestamps
/-! The memory store meets the proposal store contract, as a finite map kept sorted by key. Main
statement: `memory_store_meets_proposal_contract`. -/
namespace DatasetProposals

/-- A call of the document store. -/
inductive StoreCall where
  | publishingInfo
  | repositories
  | repository (org : String)
  | questions
  | proposal (userId : Int) (nodeId : String)
  | proposalsForUser (userId : Int)
  | proposalsForWorkspace (org : String) (status : Status)
  | proposalForRepository (repositoryId : Int) (status : Status) (nodeId : String)
  | create (p : Proposal)
  | update (p : Proposal)
  | updateIf (p : Proposal) (expected : Status)
  | delete (k : ProposalKey)

/-- What a store call answers. -/
inductive StoreAnswer where
  | info (r : Except StorageError (List InfoRecord))
  | repositories (r : Except StorageError (List RepositoryRecord))
  | repository (r : Except StorageError RepositoryRecord)
  | questions (r : Except StorageError (List QuestionRecord))
  | proposal (r : Except StorageError Proposal)
  | proposals (r : Except StorageError (List Proposal))
  | written (r : Except StorageError Unit)

namespace ProposalMap

theorem find?_foldl_put (ps : List Proposal) (m : ProposalMap) (k : ProposalKey) :
    (ps.foldl (fun m p => m.put p) m).find? k = ((ps.filter (·.key == k)).getLast?).or (m.find? k) := by
  induction ps generalizing m with
  | nil => rfl
  | cons p ps ih =>
    rw [List.foldl_cons, ih, ProposalMap.find?_put, List.filter_cons]
    by_cases here : p.key = k
    · -- `p` is the earliest record under `k`: a later one, if any, replaces it
      simp only [here, if_true, beq_self_eq_true, List.getLast?_cons]
      cases (ps.filter (·.key == k)).getLast? <;> rfl
    · simp [here]

theorem Sorted.nodup {m : ProposalMap} (sorted : m.Sorted) : m.Nodup :=
  sorted.imp fun {p q} lower same => by
    rw [same, ProposalKey.lt_irrefl] at lower
    cases lower

theorem Sorted.foldl_put (ps : List Proposal) {m : ProposalMap} (sorted : m.Sorted) :
    (ps.foldl (fun m p => m.put p) m).Sorted := by
  induction ps generalizing m with
  | nil => exact sorted
  | cons p ps ih => exact ih (sorted.put p)

end ProposalMap

namespace MemoryStore

def afterWrite (s : MemoryStore) : Except StorageError MemoryStore → StoreAnswer × MemoryStore
  | .ok s' => (.written (.ok ()), s')
  | .error e => (.written (.error e), s)

def perform (s : MemoryStore) : StoreCall → StoreAnswer × MemoryStore
  | .publishingInfo => (.info (.ok s.info), s)
  | .repositories => (.repositories (.ok s.repositories), s)
  | .repository org => (.repository (s.repository org), s)
  | .questions => (.questions (.ok s.questions), s)
  | .proposal u n => (.proposal (s.proposal u n), s)
  | .proposalsForUser u => (.proposals (.ok (s.proposalsForUser u)), s)
  | .proposalsForWorkspace org st => (.proposals (.ok (s.proposalsForWorkspace org st)), s)
  | .proposalForRepository r st n => (.proposal (s.proposalForRepository r st n), s)
  | .create p => s.afterWrite (s.create p)
  | .update p => s.afterWrite (s.update p)
  | .updateIf p e => s.afterWrite (s.updateIf p e)
  | .delete k => (.written (.ok ()), s.delete k)

def run (s : MemoryStore) : List StoreCall → List StoreAnswer × MemoryStore
  | [] => ([], s)
  | c :: cs =>
    let rest := (s.perform c).2.run cs
    ((s.perform c).1 :: rest.1, rest.2)

/-- `l` lists the records stored in `s` that satisfy `P`, each once. -/
def Lists (s : MemoryStore) (P : Proposal → Prop) (l : List Proposal) : Prop :=
  l.Nodup ∧ ∀ p, p ∈ l ↔ s.lookup p.key = some p ∧ P p

/-- The proposal store contract at `s`. -/
structure Contract (s : MemoryStore) : Prop where
  keyed : ∀ k p, s.lookup k = some p → p.key = k
  entries : ∀ p ∈ s.proposals, s.lookup p.key = some p
  createFree : ∀ p, s.lookup p.key = none →
    (s.perform (.create p)).1 = .written (.ok ()) ∧ s.Writes (s.perform (.create p)).2 p.key (some p)
  createTaken : ∀ p q, s.lookup p.key = some q →
    s.perform (.create p) = (.written (.error (.alreadyExists p.userId p.nodeId)), s)
  updatePresent : ∀ p q, s.lookup p.key = some q →
    (s.perform (.update p)).1 = .written (.ok ()) ∧ s.Writes (s.perform (.update p)).2 p.key (some p)
  updateAbsent : ∀ p, s.lookup p.key = none →
    s.perform (.update p) =
      (.written (.error (.notFound "dataset proposal" (toString p.userId ++ "/" ++ p.nodeId))), s)
  updateIfExpected : ∀ p e q, s.lookup p.key = some q → q.status = e →
    (s.perform (.updateIf p e)).1 = .written (.ok ()) ∧
      s.Writes (s.perform (.updateIf p e)).2 p.key (some p)
  updateIfAbsent : ∀ p e, s.lookup p.key = none →
    s.perform (.updateIf p e) =
      (.written (.error (.notFound "dataset proposal" (toString p.userId ++ "/" ++ p.nodeId))), s)
  updateIfMoved : ∀ p e q, s.lookup p.key = some q → q.status ≠ e →
    s.perform (.updateIf p e) = (.written (.error (.conflict p.userId p.nodeId e)), s)
  delete : ∀ k, (s.perform (.delete k)).1 = .written (.ok ()) ∧ s.Writes (s.perform (.delete k)).2 k none
  get : ∀ u n, s.perform (.proposal u n) =
    (.proposal (match s.lookup ⟨u, n⟩ with
      | some p => .ok p
      | none => .error (.notFound "dataset proposal" (toString u ++ "/" ++ n))), s)
  forUser : ∀ u, ∃ l, s.perform (.proposalsForUser u) = (.proposals (.ok l), s) ∧
    s.Lists (·.userId = u) l
  forWorkspace : ∀ org st, ∃ l, s.perform (.proposalsForWorkspace org st) = (.proposals (.ok l), s) ∧
    s.Lists (fun p => p.organizationNodeId = org ∧ p.status = st) l
  forRepository : ∀ r st n, ∃ l, s.Lists (fun p => p.repositoryId = r ∧ p.status = st ∧ p.nodeId = n) l ∧
    (s.perform (.proposalForRepository r st n)).2 = s ∧
    (∀ p, l = [p] → (s.perform (.proposalForRepository r st n)).1 = .proposal (.ok p)) ∧
    (l = [] → (s.perform (.proposalForRepository r st n)).1 =
      .proposal (.error (.notFound "dataset proposal" (toString r ++ "/" ++ st.name ++ "/" ++ n)))) ∧
    (2 ≤ l.length → (s.perform (.proposalForRepository r st n)).1 =
      .proposal (.error (.ambiguous "dataset proposal" (toString r ++ "/" ++ st.name ++ "/" ++ n) l.length)))
  races : ∀ k e q (first : Proposal) (rest : List Proposal), s.lookup k = some q → q.status = e →
    (∀ r ∈ first :: rest, r.key = k ∧ r.status ≠ e) →
    (s.run ((first :: rest).map (StoreCall.updateIf · e))).1 =
        .written (.ok ()) :: rest.map (fun _ => .written (.error (.conflict k.userId k.nodeId e))) ∧
      (s.run ((first :: rest).map (StoreCall.updateIf · e))).2.lookup k = some first

/-! Seeding. -/

theorem lookup_ofSeed (seed : SeedData) (k : ProposalKey) :
    (ofSeed seed).lookup k = (seed.proposals.filter (·.key == k)).getLast? := by
  simp only [lookup, ofSeed, ProposalMap.ofList, ProposalMap.find?_foldl_put]
  exact Option.or_none

theorem ofSeed_sorted (seed : SeedData) : (ofSeed seed).proposals.Sorted :=
  ProposalMap.Sorted.foldl_put seed.proposals List.Pairwise.nil

/-! Each call. -/

variable {s : MemoryStore} {p : Proposal} {e : Status}

theorem perform_create_free (free : s.lookup p.key = none) :
    s.perform (.create p) = (.written (.ok ()), s.put p) := by
  change s.afterWrite (s.create p) = _
  rw [create_eq_ok.mpr ⟨free, rfl⟩]
  rfl

theorem perform_create_taken {q : Proposal} (taken : s.lookup p.key = some q) :
    s.perform (.create p) = (.written (.error (.alreadyExists p.userId p.nodeId)), s) := by
  change s.afterWrite (s.create p) = _
  rw [create_eq_error.mpr ⟨by rw [taken]; exact Option.some_ne_none q, rfl⟩]
  rfl

theorem perform_update_present {q : Proposal} (present : s.lookup p.key = some q) :
    s.perform (.update p) = (.written (.ok ()), s.put p) := by
  change s.afterWrite (s.update p) = _
  rw [update_eq_ok.mpr ⟨by rw [present]; exact Option.some_ne_none q, rfl⟩]
  rfl

theorem perform_update_absent (absent : s.lookup p.key = none) :
    s.perform (.update p) = (.written (.error (StorageError.proposalNotFound p.userId p.nodeId)), s) := by
  change s.afterWrite (s.update p) = _
  rw [update_eq_error.mpr ⟨absent, rfl⟩]
  rfl

theorem perform_updateIf_expected {q : Proposal} (found : s.lookup p.key = some q) (expected : q.status = e) :
    s.perform (.updateIf p e) = (.written (.ok ()), s.put p) := by
  change s.afterWrite (s.updateIf p e) = _
  rw [updateIf_eq_ok.mpr ⟨q, found, expected, rfl⟩]
  rfl

theorem perform_updateIf_absent (absent : s.lookup p.key = none) :
    s.perform (.updateIf p e) =
      (.written (.error (StorageError.proposalNotFound p.userId p.nodeId)), s) := by
  change s.afterWrite (s.updateIf p e) = _
  rw [updateIf_eq_error.mpr (.inl ⟨absent, rfl⟩)]
  rfl

theorem perform_updateIf_moved {q : Proposal} (found : s.lookup p.key = some q) (moved : q.status ≠ e) :
    s.perform (.updateIf p e) = (.written (.error (.conflict p.userId p.nodeId e)), s) := by
  change s.afterWrite (s.updateIf p e) = _
  rw [updateIf_eq_error.mpr (.inr ⟨q, found, moved, rfl⟩)]
  rfl

theorem afterWrite_sorted {r : Except StorageError MemoryStore} (sorted : s.proposals.Sorted)
    (puts : ∀ s', r = .ok s' → s' = s.put p) : (s.afterWrite r).2.proposals.Sorted := by
  cases r with
  | ok s' =>
    rw [puts s' rfl]
    exact sorted.put p
  | error _ => exact sorted

theorem perform_sorted (sorted : s.proposals.Sorted) : (c : StoreCall) → (s.perform c).2.proposals.Sorted
  | .create p => afterWrite_sorted sorted fun _ wrote => (create_eq_ok.mp wrote).2
  | .update p => afterWrite_sorted sorted fun _ wrote => (update_eq_ok.mp wrote).2
  | .updateIf p e => afterWrite_sorted sorted fun _ wrote => by
    obtain ⟨_, _, _, put⟩ := updateIf_eq_ok.mp wrote
    exact put
  | .delete k => sorted.erase k
  | .publishingInfo | .repositories | .repository _ | .questions | .proposal _ _
  | .proposalsForUser _ | .proposalsForWorkspace _ _ | .proposalForRepository _ _ _ => sorted

theorem run_sorted (sorted : s.proposals.Sorted) (cs : List StoreCall) : (s.run cs).2.proposals.Sorted := by
  induction cs generalizing s with
  | nil => exact sorted
  | cons c cs ih => exact ih (perform_sorted sorted c)

/-! Listings. -/

theorem lists_filter (sorted : s.proposals.Sorted) {P : Proposal → Prop} {f : Proposal → Bool}
    (decides : ∀ p, f p = true ↔ P p) : s.Lists P (s.proposals.filter f) := by
  refine ⟨sorted.nodup.filter f, fun p => ?_⟩
  rw [List.mem_filter, decides]
  constructor
  · rintro ⟨mem, holds⟩
    exact ⟨sorted.find?_of_mem mem, holds⟩
  · rintro ⟨found, holds⟩
    exact ⟨mem_of_lookup found, holds⟩

theorem perform_proposalForRepository (r : Int) (st : Status) (n : String) :
    let l := s.proposals.filter (fun p => p.repositoryId == r && p.status == st && p.nodeId == n)
    let key := toString r ++ "/" ++ st.name ++ "/" ++ n
    (s.perform (.proposalForRepository r st n)).2 = s ∧
      (∀ p, l = [p] → (s.perform (.proposalForRepository r st n)).1 = .proposal (.ok p)) ∧
      (l = [] → (s.perform (.proposalForRepository r st n)).1 =
        .proposal (.error (.notFound "dataset proposal" key))) ∧
      (2 ≤ l.length → (s.perform (.proposalForRepository r st n)).1 =
        .proposal (.error (.ambiguous "dataset proposal" key l.length))) := by
  intro l key
  refine ⟨rfl, fun p only => ?_, fun none => ?_, fun many => ?_⟩
  · change StoreAnswer.proposal (single _ _ l) = _
    rw [only]
    rfl
  · change StoreAnswer.proposal (single _ _ l) = _
    rw [none]
    rfl
  · change StoreAnswer.proposal (single _ _ l) = _
    match l, many with
    | _ :: _ :: _, _ => rfl

/-! Racing conditional writes. -/

theorem run_conflicts {k : ProposalKey} {q : Proposal} (found : s.lookup k = some q) (moved : q.status ≠ e)
    (rs : List Proposal) (keyed : ∀ r ∈ rs, r.key = k) :
    s.run (rs.map (StoreCall.updateIf · e)) =
      (rs.map fun _ => .written (.error (.conflict k.userId k.nodeId e)), s) := by
  induction rs with
  | nil => rfl
  | cons r rs ih =>
    have key := keyed r List.mem_cons_self
    have refused := perform_updateIf_moved (e := e) (key ▸ found) moved
    rw [show r.userId = k.userId from congrArg ProposalKey.userId key,
      show r.nodeId = k.nodeId from congrArg ProposalKey.nodeId key] at refused
    change ((s.perform _).1 :: ((s.perform _).2.run _).1, ((s.perform _).2.run _).2) = _
    rw [refused]
    dsimp only
    rw [ih fun r' mem => keyed r' (List.mem_cons_of_mem r mem)]
    rfl

theorem run_racing_updateIf {k : ProposalKey} {q first : Proposal} {rest : List Proposal}
    (found : s.lookup k = some q) (expected : q.status = e)
    (leaving : ∀ r ∈ first :: rest, r.key = k ∧ r.status ≠ e) :
    (s.run ((first :: rest).map (StoreCall.updateIf · e))).1 =
        .written (.ok ()) :: rest.map (fun _ => .written (.error (.conflict k.userId k.nodeId e))) ∧
      (s.run ((first :: rest).map (StoreCall.updateIf · e))).2.lookup k = some first := by
  obtain ⟨key, moved⟩ := leaving first List.mem_cons_self
  have won := perform_updateIf_expected (key ▸ found) expected
  -- after the first write the record under `k` is the winner's, which has left `e`
  have stored : (s.put first).lookup k = some first := by
    rw [lookup_put, if_pos key]
  have lost := run_conflicts stored moved rest fun r mem => (leaving r (List.mem_cons_of_mem _ mem)).1
  change ((s.perform _).1 :: ((s.perform _).2.run _).1, ((s.perform _).2.run _).2).1 = _ ∧
    ((s.perform _).1 :: ((s.perform _).2.run _).1, ((s.perform _).2.run _).2).2.lookup k = _
  rw [won]
  dsimp only
  rw [lost]
  exact ⟨rfl, stored⟩

/-! The contract. -/

theorem contract_of_sorted (sorted : s.proposals.Sorted) : s.Contract where
  keyed _ _ found := lookup_key found
  entries _ mem := sorted.find?_of_mem mem
  createFree p free := by
    rw [perform_create_free free]
    exact ⟨rfl, writes_put s p⟩
  createTaken p _ taken := perform_create_taken taken
  updatePresent p _ present := by
    rw [perform_update_present present]
    exact ⟨rfl, writes_put s p⟩
  updateAbsent _ absent := perform_update_absent absent
  updateIfExpected p _ _ found expected := by
    rw [perform_updateIf_expected found expected]
    exact ⟨rfl, writes_put s p⟩
  updateIfAbsent _ _ absent := perform_updateIf_absent absent
  updateIfMoved _ _ _ found moved := perform_updateIf_moved found moved
  delete k := ⟨rfl, writes_delete s k⟩
  get _ _ := rfl
  forUser u := ⟨_, rfl, lists_filter sorted fun p => beq_iff_eq⟩
  forWorkspace org st := ⟨_, rfl, lists_filter sorted fun p => by simp⟩
  forRepository r st n := ⟨_, lists_filter sorted (fun p => by simp [Bool.and_assoc]),
    perform_proposalForRepository r st n⟩
  races _ _ _ _ _ found expected leaving := run_racing_updateIf found expected leaving

/-- The memory store meets the proposal store contract. Seeding keeps, under each key, the last
record of the seed with that key, and every store a run from the seed reaches meets the
contract. -/
theorem memory_store_meets_proposal_contract (seed : SeedData) (calls : List StoreCall) :
    (∀ k, (ofSeed seed).lookup k = (seed.proposals.filter (·.key == k)).getLast?) ∧
      ((ofSeed seed).run calls).2.Contract :=
  ⟨lookup_ofSeed seed, contract_of_sorted (run_sorted (ofSeed_sorted seed) calls)⟩

end MemoryStore

end DatasetProposals
