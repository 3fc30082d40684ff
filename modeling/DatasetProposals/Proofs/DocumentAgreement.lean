import Mathlib.Data.List.Perm.Basic
import Mathlib.Data.List.InsertIdx
import DatasetProposals.Proofs.DatabaseCalls
import DatasetProposals.Proofs.StoreContract
/-! The document store agrees with the memory store over every database that keeps the store's
assumptions. Main statement: `document_store_agrees_with_memory_store`, by a simulation
(`Mirrors`) that every call keeps. -/
namespace DatasetProposals
open Json
open scoped List

section FirstMatch
variable {α : Type} {P Q : α → Bool}

theorem eraseIdx_eq_filter {l : List α} {i : Nat} (found : l.findIdx? Q = some i)
    (implies : ∀ x, Q x = true → P x = true) (once : (l.filter P).length ≤ 1) :
    l.eraseIdx i = l.filter (fun x => !P x) := by
  induction l generalizing i with
  | nil => cases found
  | cons a rest ih =>
    rw [List.findIdx?_cons] at found
    by_cases here : Q a = true
    · -- the match is `a`, and no later element passes `P`
      rw [if_pos here] at found
      cases found
      have none : rest.filter P = [] := by
        rw [List.filter_cons, if_pos (implies a here), List.length_cons] at once
        exact List.length_eq_zero_iff.mp (by omega)
      rw [List.eraseIdx_cons_zero, List.filter_cons, if_neg (by simp [implies a here])]
      exact (List.filter_eq_self.mpr fun x mem => by
        simpa using List.filter_eq_nil_iff.mp none x mem).symm
    · rw [if_neg here] at found
      obtain ⟨j, later, rfl⟩ := Option.map_eq_some_iff.mp found
      -- the match lies further on, so `a` cannot pass `P` as well
      obtain ⟨bound, matched, -⟩ := List.findIdx?_eq_some_iff_getElem.mp later
      have apart : P a = false := by
        apply Bool.eq_false_iff.mpr
        intro passes
        have mem : rest[j] ∈ rest.filter P :=
          List.mem_filter.mpr ⟨List.getElem_mem bound, implies _ matched⟩
        rw [List.filter_cons, if_pos passes, List.length_cons] at once
        have := List.length_pos_of_mem mem
        omega
      have onceRest : (rest.filter P).length ≤ 1 := by
        rwa [List.filter_cons, if_neg (by simp [apart])] at once
      rw [List.eraseIdx_cons_succ, ih later onceRest, List.filter_cons, if_pos (by simp [apart])]

end FirstMatch

theorem ProposalKey.ne_of_lt {a b : ProposalKey} (lower : a.lt b = true) : b ≠ a := by
  rintro rfl
  rw [lt_irrefl] at lower
  cases lower

namespace ProposalMap

theorem erase_eq_filter (m : ProposalMap) (k : ProposalKey) :
    m.erase k = m.filter (fun q => !decide (k = q.key)) := by
  unfold erase
  congr 1
  funext q
  by_cases same : k = q.key
  · simp [same]
  · simp [same, Ne.symm same]

theorem erase_of_absent {m : ProposalMap} {k : ProposalKey} (absent : ∀ q ∈ m, q.key ≠ k) :
    m.erase k = m :=
  List.filter_eq_self.mpr fun q mem => by simpa using absent q mem

theorem Sorted.filter_key {m : ProposalMap} (sorted : m.Sorted) (k : ProposalKey) :
    m.filter (fun q => decide (k = q.key)) = (m.find? k).toList := by
  induction m with
  | nil => rfl
  | cons q rest ih =>
    obtain ⟨below, restSorted⟩ := List.pairwise_cons.mp sorted
    rw [List.filter_cons, find?_cons]
    by_cases here : q.key = k
    · -- every later key is above `q`'s, so none is `k`
      have none : rest.filter (fun r => decide (k = r.key)) = [] :=
        List.filter_eq_nil_iff.mpr fun r mem same =>
          ProposalKey.ne_of_lt (below r mem) (here.trans (of_decide_eq_true same)).symm
      simp [here, none]
    · simp [here, Ne.symm here, ih restSorted]

theorem Sorted.put_perm {m : ProposalMap} (sorted : m.Sorted) (p : Proposal) :
    (m.put p).Perm (p :: m.erase p.key) := by
  induction m with
  | nil => exact List.Perm.refl _
  | cons q rest ih =>
    obtain ⟨below, restSorted⟩ := List.pairwise_cons.mp sorted
    -- the keys after `q` are above `q`'s
    have above : ∀ r ∈ rest, r.key ≠ q.key := fun r mem => ProposalKey.ne_of_lt (below r mem)
    simp only [ProposalMap.put]
    split
    · next before =>
      -- `p` goes first, below every key of the map
      rw [erase_of_absent fun r mem => ?_]
      rcases List.mem_cons.mp mem with rfl | later
      · exact ProposalKey.ne_of_lt before
      · exact ProposalKey.ne_of_lt (ProposalKey.lt_trans before (below r later))
    · split
      · next same =>
        -- `p` replaces `q`
        have same : p.key = q.key := beq_iff_eq.mp same
        rw [ProposalMap.erase, List.filter_cons_of_neg (by simp [same]), ← ProposalMap.erase, same,
          erase_of_absent above]
      · next other =>
        have apart : q.key ≠ p.key := fun same => other (beq_iff_eq.mpr same.symm)
        rw [ProposalMap.erase, List.filter_cons_of_pos (by simp [apart]), ← ProposalMap.erase]
        exact ((ih restSorted).cons q).trans (List.Perm.swap p q _)

theorem Sorted.foldl_put_perm (ps : List Proposal) {m : ProposalMap} (sorted : m.Sorted)
    (distinct : ((m ++ ps).map Proposal.key).Nodup) :
    (ps.foldl (fun m p => m.put p) m).Perm (m ++ ps) := by
  induction ps generalizing m with
  | nil => simp
  | cons p ps ih =>
    have fresh : ∀ q ∈ m, q.key ≠ p.key := fun q mem => by
      rw [List.map_append, List.nodup_append] at distinct
      exact distinct.2.2 q.key (List.mem_map_of_mem mem) p.key List.mem_cons_self
    have added : (m.put p).Perm (p :: m) := by
      simpa only [erase_of_absent fresh] using sorted.put_perm p
    have moved : (m.put p ++ ps).Perm (m ++ p :: ps) :=
      (added.append_right ps).trans List.perm_middle.symm
    exact (ih (sorted.put p) ((moved.map _).nodup_iff.mpr distinct)).trans moved

theorem ofList_perm {ps : List Proposal} (distinct : (ps.map Proposal.key).Nodup) :
    (ofList ps).Perm ps := by
  unfold ofList
  simpa using Sorted.foldl_put_perm ps List.Pairwise.nil (by simpa using distinct)

theorem filter_key_of_perm {l : List Proposal} {m : ProposalMap} (perm : l.Perm m) (sorted : m.Sorted)
    (k : ProposalKey) : l.filter (fun q => decide (k = q.key)) = (m.find? k).toList := by
  have moved := perm.filter (fun q => decide (k = q.key))
  rw [sorted.filter_key k] at moved
  cases found : m.find? k with
  | none =>
    rw [found] at moved
    exact List.perm_nil.mp moved
  | some q =>
    rw [found] at moved
    exact List.perm_singleton.mp moved

theorem length_filter_key_le {l : List Proposal} {m : ProposalMap} (perm : l.Perm m)
    (sorted : m.Sorted) (k : ProposalKey) : (l.filter (fun q => decide (k = q.key))).length ≤ 1 := by
  rw [filter_key_of_perm perm sorted]
  cases m.find? k <;> simp

theorem any_key_of_perm {l : List Proposal} {m : ProposalMap} (perm : l.Perm m) (sorted : m.Sorted)
    (k : ProposalKey) : l.any (fun q => decide (k = q.key)) = (m.find? k).isSome := by
  rw [Bool.eq_iff_iff, List.any_eq_true, Option.isSome_iff_exists]
  constructor
  · rintro ⟨q, mem, keyed⟩
    have listed : q ∈ l.filter (fun q => decide (k = q.key)) := List.mem_filter.mpr ⟨mem, keyed⟩
    rw [filter_key_of_perm perm sorted] at listed
    exact ⟨q, Option.mem_toList.mp listed⟩
  · rintro ⟨q, found⟩
    have listed : q ∈ (m.find? k).toList := Option.mem_toList.mpr found
    rw [← filter_key_of_perm perm sorted] at listed
    exact ⟨q, List.mem_filter.mp listed⟩

theorem find?_of_findIdx? {l : List Proposal} {m : ProposalMap} {Q : Proposal → Bool} {i : Nat}
    (perm : l.Perm m) (sorted : m.Sorted) {k : ProposalKey} (found : l.findIdx? Q = some i)
    (implies : ∀ q, Q q = true → decide (k = q.key) = true) : ∃ q, m.find? k = some q ∧ Q q = true := by
  obtain ⟨bound, matched, -⟩ := List.findIdx?_eq_some_iff_getElem.mp found
  have listed : l[i] ∈ l.filter (fun q => decide (k = q.key)) :=
    List.mem_filter.mpr ⟨List.getElem_mem bound, implies _ matched⟩
  rw [filter_key_of_perm perm sorted] at listed
  exact ⟨l[i], Option.mem_toList.mp listed, matched⟩

theorem find?_of_findIdx?_none {l : List Proposal} {m : ProposalMap} {Q : Proposal → Bool}
    (perm : l.Perm m) (none : l.findIdx? Q = none) {k : ProposalKey} {q : Proposal}
    (found : m.find? k = some q) : Q q = false :=
  List.findIdx?_eq_none_iff.mp none q (perm.mem_iff.mpr (List.mem_of_find?_eq_some found))

theorem fits_put {m : ProposalMap} (fitting : ∀ q ∈ m, q.Fits) {p : Proposal} (fits : p.Fits) :
    ∀ q ∈ m.put p, q.Fits := fun q mem =>
  (mem_put mem).elim (fun same => same ▸ fits) (fitting q)

end ProposalMap

theorem MemoryStore.single_perm {α : Type} {c k : String} {l l' : List α} (perm : l.Perm l') :
    MemoryStore.single c k l = MemoryStore.single c k l' := by
  rcases l with _ | ⟨a, _ | ⟨b, rest⟩⟩
  · rw [List.perm_nil.mp perm.symm]
  · rw [List.perm_singleton.mp perm.symm]
  · -- two or more on both sides: ambiguous, with as many matches
    have lengths := perm.length_eq
    rcases l' with _ | ⟨a', _ | ⟨b', rest'⟩⟩
    · simp at lengths
    · simp at lengths
    · show Except.error _ = Except.error _
      rw [lengths]

/-! The filters the store sends, as tests on the records they are applied to. -/

theorem Proposal.keyFilter_test (u : Int) (n : String) :
    matchesFilter (Documents.keyFilter u n) ∘ Proposal.stored = fun q => decide (⟨u, n⟩ = q.key) :=
  funext fun q => Proposal.matches_keyFilter q u n

theorem Proposal.keyFilter_status_test (u : Int) (n : String) (st : Status) :
    matchesFilter (Documents.keyFilter u n ++ [("ProposalStatus", .str st.name)]) ∘ Proposal.stored =
      fun q => decide (⟨u, n⟩ = q.key ∧ st = q.status) :=
  funext fun q => Proposal.matches_keyFilter_status q u n st

theorem Proposal.userFilter_test (u : Int) :
    matchesFilter [("UserId", .int u)] ∘ Proposal.stored = (·.userId == u) := funext fun q => by
  rw [Function.comp_apply, Proposal.matches_user, Bool.beq_eq_decide_eq]
  exact decide_eq_decide.mpr eq_comm

theorem Proposal.workspaceFilter_test (org : String) (st : Status) :
    matchesFilter [("OrganizationNodeId", .str org), ("ProposalStatus", .str st.name)] ∘
      Proposal.stored = fun q => q.organizationNodeId == org && q.status == st := funext fun q => by
  rw [Function.comp_apply, Proposal.matches_workspace]
  simp [Bool.beq_eq_decide_eq, eq_comm]

theorem Proposal.repositoryFilter_test (r : Int) (st : Status) (n : String) :
    matchesFilter [("RepositoryId", .int r), ("ProposalStatus", .str st.name), ("NodeId", .str n)] ∘
      Proposal.stored = fun q => q.repositoryId == r && q.status == st && q.nodeId == n :=
  funext fun q => by
    rw [Function.comp_apply, Proposal.matches_repository]
    simp [Bool.beq_eq_decide_eq, eq_comm, Bool.and_assoc]

theorem RepositoryRecord.organizationFilter_test (org : String) :
    matchesFilter [("OrganizationNodeId", .str org)] ∘ RepositoryRecord.stored =
      (·.organizationNodeId == org) := funext fun r => by
  rw [Function.comp_apply, RepositoryRecord.matches_organization, Bool.beq_eq_decide_eq]
  exact decide_eq_decide.mpr eq_comm

theorem Proposal.any_keyFilter {l : List Proposal} (p : Proposal) :
    (l.map Proposal.stored).any (matchesFilter (Documents.keyFilter p.userId p.nodeId)) =
      l.any (fun q => decide (p.key = q.key)) := by
  rw [List.any_map, Proposal.keyFilter_test]
  rfl

theorem Proposal.findIdx?_stored {l : List Proposal} {F : List (String × Json)} {Q : Proposal → Bool}
    (test : matchesFilter F ∘ Proposal.stored = Q) :
    (l.map Proposal.stored).findIdx? (matchesFilter F) = l.findIdx? Q := by
  rw [List.findIdx?_map, test]

/-! The store's calls on a database, one at a time and in a run. -/

namespace Documents
variable {σ : Type} (db : DocumentDatabase σ)

def perform : StoreCall → DocumentCall σ StoreAnswer
  | .publishingInfo => StoreAnswer.info <$> publishingInfo db
  | .repositories => StoreAnswer.repositories <$> repositories db
  | .repository org => StoreAnswer.repository <$> repository db org
  | .questions => StoreAnswer.questions <$> questions db
  | .proposal u n => StoreAnswer.proposal <$> proposal db u n
  | .proposalsForUser u => StoreAnswer.proposals <$> proposalsForUser db u
  | .proposalsForWorkspace org st => StoreAnswer.proposals <$> proposalsForWorkspace db org st
  | .proposalForRepository r st n => StoreAnswer.proposal <$> proposalForRepository db r st n
  | .create p => StoreAnswer.written <$> create db p
  | .update p => StoreAnswer.written <$> update db p
  | .updateIf p e => StoreAnswer.written <$> updateIf db p e
  | .delete k => StoreAnswer.written <$> delete db k

def run (s : σ) : List StoreCall → List StoreAnswer × σ
  | [] => ([], s)
  | c :: cs =>
    let rest := run ((perform db c).run s).2 cs
    (((perform db c).run s).1 :: rest.1, rest.2)

theorem run_map {α β : Type} (f : α → β) (x : DocumentCall σ α) (s : σ) :
    (f <$> x).run s = (f (x.run s).1, (x.run s).2) := rfl

end Documents

/-- Two answers agree when they are equal, or when both list the same proposals, in any order. -/
inductive StoreAnswer.Agrees : StoreAnswer → StoreAnswer → Prop
  | same (a : StoreAnswer) : Agrees a a
  | listed {l l' : List Proposal} : l.Perm l' → Agrees (.proposals (.ok l)) (.proposals (.ok l'))

def StoreCall.Fits : StoreCall → Prop
  | .create p | .update p | .updateIf p _ => p.Fits
  | _ => True

/-- A seed whose records stored documents can hold. -/
structure SeedData.Fits (seed : SeedData) : Prop where
  repositories : ∀ r ∈ seed.repositories, r.Fits
  questions : ∀ q ∈ seed.questions, FitsInt64 q.id
  proposals : ∀ p ∈ seed.proposals, p.Fits

/-- A database state holding a seed's records: the information, repository and question
documents in order, the proposal documents in some order. -/
structure SeedData.StoredIn (seed : SeedData) {σ : Type} (docs : Collections σ) (s : σ) : Prop where
  info : docs s infoCollection = seed.info.map InfoRecord.stored
  repositories : docs s repositoryCollection = seed.repositories.map RepositoryRecord.stored
  questions : docs s questionCollection = seed.questions.map QuestionRecord.stored
  proposals : ∃ l : List Proposal, l.Perm seed.proposals ∧ docs s proposalCollection = l.map Proposal.stored

/-- A database state holding what a memory store holds: the store's information, repositories and
questions in order, its proposals in some order; the store's proposals are sorted by key, and
stored documents can hold every record. -/
structure Mirrors {σ : Type} (docs : Collections σ) (s : σ) (store : MemoryStore) : Prop where
  info : docs s infoCollection = store.info.map InfoRecord.stored
  repositories : docs s repositoryCollection = store.repositories.map RepositoryRecord.stored
  questions : docs s questionCollection = store.questions.map QuestionRecord.stored
  proposals : ∃ l : List Proposal, l.Perm store.proposals ∧ docs s proposalCollection = l.map Proposal.stored
  sorted : store.proposals.Sorted
  repositoriesFit : ∀ r ∈ store.repositories, r.Fits
  questionsFit : ∀ q ∈ store.questions, FitsInt64 q.id
  proposalsFit : ∀ p ∈ store.proposals, p.Fits

namespace Mirrors
variable {σ : Type} {db : DocumentDatabase σ} {docs : Collections σ} {s s' : σ} {store : MemoryStore}

theorem of_same (mirror : Mirrors docs s store) (same : docs s' = docs s) : Mirrors docs s' store :=
  { mirror with
    info := by rw [same]; exact mirror.info
    repositories := by rw [same]; exact mirror.repositories
    questions := by rw [same]; exact mirror.questions
    proposals := by rw [same]; exact mirror.proposals }

theorem withProposals (mirror : Mirrors docs s store)
    (kept : ∀ c, c ≠ proposalCollection → docs s' c = docs s c) {l : List Proposal}
    {ps : ProposalMap} (same : docs s' proposalCollection = l.map Proposal.stored)
    (perm : l.Perm ps) (sorted : ps.Sorted) (fits : ∀ p ∈ ps, p.Fits) :
    Mirrors docs s' { store with proposals := ps } where
  info := by rw [kept _ (by decide)]; exact mirror.info
  repositories := by rw [kept _ (by decide)]; exact mirror.repositories
  questions := by rw [kept _ (by decide)]; exact mirror.questions
  proposals := ⟨l, perm, same⟩
  sorted := sorted
  repositoriesFit := mirror.repositoriesFit
  questionsFit := mirror.questionsFit
  proposalsFit := fits

theorem written (mirror : Mirrors docs s store) {v : List (List (String × Json))}
    (wrote : docs s' = Function.update (docs s) proposalCollection v) {l : List Proposal}
    {ps : ProposalMap} (same : v = l.map Proposal.stored) (perm : l.Perm ps) (sorted : ps.Sorted)
    (fits : ∀ p ∈ ps, p.Fits) : Mirrors docs s' { store with proposals := ps } :=
  mirror.withProposals (fun c apart => by rw [wrote, Function.update_of_ne apart])
    (by rw [wrote, Function.update_self, same]) perm sorted fits

section Lawful
variable (lawful : db.Lawful docs)
include lawful

/-! Reads: each answers as the memory store does and leaves the collections. -/

theorem publishingInfo_run (mirror : Mirrors docs s store) :
    ∃ s', (Documents.publishingInfo db).run s = (.ok store.info, s') ∧ docs s' = docs s :=
  Documents.findAll_stored_all s lawful mirror.info fun r _ => InfoRecord.read_stored_members r

theorem repositories_run (mirror : Mirrors docs s store) :
    ∃ s', (Documents.repositories db).run s = (.ok store.repositories, s') ∧ docs s' = docs s :=
  Documents.findAll_stored_all s lawful mirror.repositories fun r mem =>
    RepositoryRecord.read_stored_members (mirror.repositoriesFit r mem)

theorem questions_run (mirror : Mirrors docs s store) :
    ∃ s', (Documents.questions db).run s = (.ok store.questions, s') ∧ docs s' = docs s :=
  Documents.findAll_stored_all s lawful mirror.questions fun q mem =>
    QuestionRecord.read_stored_members (mirror.questionsFit q mem)

theorem repository_run (mirror : Mirrors docs s store) (org : String) :
    ∃ s', (Documents.repository db org).run s = (store.repository org, s') ∧ docs s' = docs s := by
  obtain ⟨s', found, kept⟩ := Documents.findAll_stored s lawful mirror.repositories
    (fun r mem => RepositoryRecord.read_stored_members (mirror.repositoriesFit r mem))
    [("OrganizationNodeId", .str org)]
  refine ⟨s', ?_, kept⟩
  rw [Documents.repository, Documents.findSingle_run, found, RepositoryRecord.organizationFilter_test]
  rfl

theorem proposal_run (mirror : Mirrors docs s store) (u : Int) (n : String) :
    ∃ s', (Documents.proposal db u n).run s = (store.proposal u n, s') ∧ docs s' = docs s := by
  obtain ⟨l, perm, same⟩ := mirror.proposals
  obtain ⟨s', found, kept⟩ := lawful.find s proposalCollection (Documents.keyFilter u n) (some 1)
  refine ⟨s', ?_, kept⟩
  -- the documents with the key hold the record the store has under it, if any
  have keyed : l.filter (matchesFilter (Documents.keyFilter u n) ∘ Proposal.stored) =
      (store.lookup ⟨u, n⟩).toList := by
    rw [Proposal.keyFilter_test]
    exact ProposalMap.filter_key_of_perm perm mirror.sorted ⟨u, n⟩
  rw [Documents.proposal_run, found]
  dsimp only [Option.elim]
  rw [same, List.filter_map, keyed, MemoryStore.proposal_eq]
  cases looked : store.lookup ⟨u, n⟩ with
  | none => rfl
  | some q =>
    have fits := mirror.proposalsFit q (MemoryStore.mem_of_lookup looked)
    show ((Documents.read Proposal.storedDecoder q.stored).mapError _, s') = _
    rw [Proposal.read_stored_members fits]
    rfl

theorem listing_run (mirror : Mirrors docs s store) (F : List (String × Json)) {f : Proposal → Bool}
    (filtered : matchesFilter F ∘ Proposal.stored = f) :
    ∃ l s', (Documents.findAll db proposalCollection F Proposal.storedDecoder).run s = (.ok l, s') ∧
      l.Perm (store.proposals.filter f) ∧ docs s' = docs s := by
  obtain ⟨l, perm, same⟩ := mirror.proposals
  have reads : ∀ q ∈ l, Documents.read Proposal.storedDecoder q.stored = .ok q := fun q mem =>
    Proposal.read_stored_members (mirror.proposalsFit q (perm.subset mem))
  obtain ⟨s', found, kept⟩ := Documents.findAll_stored s lawful same reads F
  rw [filtered] at found
  exact ⟨_, s', found, perm.filter f, kept⟩

theorem proposalForRepository_run (mirror : Mirrors docs s store) (r : Int) (st : Status) (n : String) :
    ∃ s', (Documents.proposalForRepository db r st n).run s = (store.proposalForRepository r st n, s') ∧
      docs s' = docs s := by
  obtain ⟨l, s', found, perm, kept⟩ := mirror.listing_run lawful _ (Proposal.repositoryFilter_test r st n)
  refine ⟨s', ?_, kept⟩
  rw [Documents.proposalForRepository, Documents.findSingle_run, found]
  exact congrArg (·, s') (MemoryStore.single_perm perm)

end Lawful

/-! Writes: each answers as the memory store does, and the database's proposals follow the
store's. -/

theorem replaceAt (mirror : Mirrors docs s store) {l : List Proposal} (perm : l.Perm store.proposals)
    (same : docs s proposalCollection = l.map Proposal.stored)
    {p : Proposal} {Q : Proposal → Bool} {i : Nat} (found : l.findIdx? Q = some i)
    (implies : ∀ q, Q q = true → decide (p.key = q.key) = true) (fits : p.Fits)
    (replaced : docs s' = Function.update (docs s) proposalCollection
      ((docs s proposalCollection).set i p.stored)) :
    Mirrors docs s' (store.put p) := by
  -- the documents other than the one found are those without the key
  have rest : l.eraseIdx i = l.filter (fun q => !decide (p.key = q.key)) :=
    eraseIdx_eq_filter found implies (ProposalMap.length_filter_key_le perm mirror.sorted p.key)
  have bound : i < l.length := (List.findIdx?_eq_some_iff_getElem.mp found).1
  have moved : (l.set i p).Perm (store.proposals.put p) := calc
    (l.set i p).Perm (p :: l.eraseIdx i) := List.set_perm_cons_eraseIdx bound p
    _ = p :: l.filter (fun q => !decide (p.key = q.key)) := by rw [rest]
    _ ~ p :: store.proposals.erase p.key := by
      rw [ProposalMap.erase_eq_filter]
      exact (perm.filter _).cons p
    _ ~ store.proposals.put p := (mirror.sorted.put_perm p).symm
  exact mirror.written replaced (by rw [same, List.map_set]) moved (mirror.sorted.put p)
    (ProposalMap.fits_put mirror.proposalsFit fits)

theorem answers_read (mirror : Mirrors docs s store) {α : Type} {x : DocumentCall σ α}
    {wrap : α → StoreAnswer} {a : α} {answer : StoreAnswer} (ran : ∃ s', x.run s = (a, s') ∧ docs s' = docs s)
    (agrees : (wrap a).Agrees answer) :
    ((wrap <$> x).run s).1.Agrees answer ∧ Mirrors docs ((wrap <$> x).run s).2 store := by
  obtain ⟨s', ran, kept⟩ := ran
  rw [Documents.run_map, ran]
  exact ⟨agrees, mirror.of_same kept⟩

section Lawful
variable (lawful : db.Lawful docs)
include lawful

theorem perform_create (mirror : Mirrors docs s store) {p : Proposal} (fits : p.Fits) :
    ((Documents.perform db (.create p)).run s).1.Agrees (store.perform (.create p)).1 ∧
      Mirrors docs ((Documents.perform db (.create p)).run s).2 (store.perform (.create p)).2 := by
  obtain ⟨l, perm, same⟩ := mirror.proposals
  -- a document repeats the key exactly when the store holds a record under it
  have taken : (docs s proposalCollection).any (matchesFilter (Documents.keyFilter p.userId p.nodeId)) =
      (store.lookup p.key).isSome := by
    rw [same, Proposal.any_keyFilter]
    exact ProposalMap.any_key_of_perm perm mirror.sorted p.key
  rw [Documents.perform, Documents.run_map, Documents.create_run]
  cases looked : store.lookup p.key with
  | some q =>
    obtain ⟨f, s', inserted, duplicate, kept⟩ :=
      lawful.insertDuplicate s p (taken.trans (by rw [looked]; rfl))
    rw [inserted, MemoryStore.perform_create_taken looked]
    dsimp only
    rw [if_pos duplicate]
    exact ⟨.same _, mirror.of_same kept⟩
  | none =>
    obtain ⟨s', inserted, appended⟩ := lawful.insertFresh s p (taken.trans (by rw [looked]; rfl))
    rw [inserted, MemoryStore.perform_create_free looked]
    dsimp only
    refine ⟨.same _, ?_⟩
    -- the database appends the stored form, and the store puts the record under its free key
    have absent : ∀ q ∈ store.proposals, q.key ≠ p.key := fun q mem keyed => by
      simpa [keyed] using List.find?_eq_none.mp looked q mem
    have added : (l ++ [p]).Perm (store.proposals.put p) := calc
      (l ++ [p]).Perm (p :: l) := List.perm_append_singleton p l
      _ ~ p :: store.proposals.erase p.key := by
        rw [ProposalMap.erase_of_absent absent]
        exact perm.cons p
      _ ~ store.proposals.put p := (mirror.sorted.put_perm p).symm
    exact mirror.written appended (by rw [same, List.map_append]; rfl) added (mirror.sorted.put p)
      (ProposalMap.fits_put mirror.proposalsFit fits)

theorem perform_update (mirror : Mirrors docs s store) {p : Proposal} (fits : p.Fits) :
    ((Documents.perform db (.update p)).run s).1.Agrees (store.perform (.update p)).1 ∧
      Mirrors docs ((Documents.perform db (.update p)).run s).2 (store.perform (.update p)).2 := by
  obtain ⟨l, perm, same⟩ := mirror.proposals
  have search : (docs s proposalCollection).findIdx? (matchesFilter (Documents.keyFilter p.userId p.nodeId)) =
      l.findIdx? (fun q => decide (p.key = q.key)) := by
    rw [same]
    exact Proposal.findIdx?_stored (Proposal.keyFilter_test _ _)
  rw [Documents.perform, Documents.run_map, Documents.update_run]
  cases found : l.findIdx? (fun q => decide (p.key = q.key)) with
  | none =>
    obtain ⟨s', replaced, kept⟩ := lawful.replaceUnmatched s proposalCollection _ p.stored (search.trans found)
    -- no document has the key, so the store holds no record under it
    have absent : store.lookup p.key = none := by
      cases looked : store.lookup p.key with
      | none => rfl
      | some q =>
        have passes := ProposalMap.find?_of_findIdx?_none perm found looked
        simp [MemoryStore.lookup_key looked] at passes
    rw [replaced, MemoryStore.perform_update_absent absent]
    exact ⟨.same _, mirror.of_same kept⟩
  | some i =>
    obtain ⟨s', replaced, written⟩ :=
      lawful.replaceMatched s proposalCollection _ p.stored i (search.trans found)
    obtain ⟨q, present, -⟩ := ProposalMap.find?_of_findIdx? perm mirror.sorted found (fun _ keyed => keyed)
    rw [replaced, MemoryStore.perform_update_present present]
    exact ⟨.same _, mirror.replaceAt perm same found (fun _ keyed => keyed) fits written⟩

theorem perform_updateIf (mirror : Mirrors docs s store) {p : Proposal} {e : Status} (fits : p.Fits) :
    ((Documents.perform db (.updateIf p e)).run s).1.Agrees (store.perform (.updateIf p e)).1 ∧
      Mirrors docs ((Documents.perform db (.updateIf p e)).run s).2 (store.perform (.updateIf p e)).2 := by
  obtain ⟨l, perm, same⟩ := mirror.proposals
  have search : (docs s proposalCollection).findIdx?
      (matchesFilter (Documents.keyFilter p.userId p.nodeId ++ [("ProposalStatus", .str e.name)])) =
      l.findIdx? (fun q => decide (p.key = q.key ∧ e = q.status)) := by
    rw [same]
    exact Proposal.findIdx?_stored (Proposal.keyFilter_status_test _ _ _)
  rw [Documents.perform, Documents.run_map]
  cases found : l.findIdx? (fun q => decide (p.key = q.key ∧ e = q.status)) with
  | none =>
    -- nothing matched: the database reads the proposal again
    obtain ⟨s', replaced, kept⟩ := lawful.replaceUnmatched s proposalCollection _ p.stored (search.trans found)
    obtain ⟨s'', read, reread⟩ := (mirror.of_same kept).proposal_run lawful p.userId p.nodeId
    rw [Documents.updateIf_run_unmatched db s p e replaced (by decide), read, MemoryStore.proposal_eq]
    have mirrored := (mirror.of_same kept).of_same reread
    cases looked : store.lookup ⟨p.userId, p.nodeId⟩ with
    | none =>
      rw [MemoryStore.perform_updateIf_absent looked]
      exact ⟨.same _, mirrored⟩
    | some q =>
      -- the stored record has the key, so it is not in the expected status
      have passes := ProposalMap.find?_of_findIdx?_none perm found looked
      have keyed : p.key = q.key := (MemoryStore.lookup_key looked).symm
      have moved : q.status ≠ e := fun same => by
        rw [keyed, same] at passes
        simp at passes
      rw [MemoryStore.perform_updateIf_moved looked moved]
      exact ⟨.same _, mirrored⟩
  | some i =>
    have implies : ∀ q : Proposal, decide (p.key = q.key ∧ e = q.status) = true → decide (p.key = q.key) = true :=
      fun _ passes => decide_eq_true (of_decide_eq_true passes).1
    obtain ⟨s', replaced, written⟩ :=
      lawful.replaceMatched s proposalCollection _ p.stored i (search.trans found)
    obtain ⟨q, present, passes⟩ := ProposalMap.find?_of_findIdx? perm mirror.sorted found implies
    rw [Documents.updateIf_run_matched db s p e replaced,
      MemoryStore.perform_updateIf_expected present (of_decide_eq_true passes).2.symm]
    exact ⟨.same _, mirror.replaceAt perm same found implies fits written⟩

theorem perform_delete (mirror : Mirrors docs s store) (k : ProposalKey) :
    ((Documents.perform db (.delete k)).run s).1.Agrees (store.perform (.delete k)).1 ∧
      Mirrors docs ((Documents.perform db (.delete k)).run s).2 (store.perform (.delete k)).2 := by
  obtain ⟨l, perm, same⟩ := mirror.proposals
  have search : (docs s proposalCollection).findIdx? (matchesFilter (Documents.keyFilter k.userId k.nodeId)) =
      l.findIdx? (fun q => decide (k = q.key)) := by
    rw [same]
    exact Proposal.findIdx?_stored (Proposal.keyFilter_test _ _)
  -- what is left is the records without the key, which the memory store keeps
  have left : (l.filter (fun q => !decide (k = q.key))).Perm (store.delete k).proposals := by
    show _ ~ store.proposals.erase k
    rw [ProposalMap.erase_eq_filter]
    exact perm.filter _
  have fitting : ∀ q ∈ (store.delete k).proposals, q.Fits := fun q mem =>
    mirror.proposalsFit q (List.mem_of_mem_filter mem)
  rw [Documents.perform, Documents.run_map, Documents.delete_run]
  cases found : l.findIdx? (fun q => decide (k = q.key)) with
  | none =>
    obtain ⟨s', deleted, kept⟩ := lawful.deleteUnmatched s proposalCollection _ (search.trans found)
    -- no document has the key
    have unchanged : l.filter (fun q => !decide (k = q.key)) = l := List.filter_eq_self.mpr fun q mem => by
      simpa using List.findIdx?_eq_none_iff.mp found q mem
    rw [deleted]
    refine ⟨.same _, mirror.withProposals (fun c _ => by rw [kept]) ?_ left (mirror.sorted.erase k) fitting⟩
    rw [unchanged, kept]
    exact same
  | some i =>
    obtain ⟨s', deleted, erased⟩ := lawful.deleteMatched s proposalCollection _ i (search.trans found)
    have rest : l.eraseIdx i = l.filter (fun q => !decide (k = q.key)) :=
      eraseIdx_eq_filter found (fun _ keyed => keyed) (ProposalMap.length_filter_key_le perm mirror.sorted k)
    rw [deleted]
    exact ⟨.same _, mirror.written erased (by rw [same, List.eraseIdx_map, rest]) left
      (mirror.sorted.erase k) fitting⟩

theorem perform (mirror : Mirrors docs s store) : (c : StoreCall) → c.Fits →
    ((Documents.perform db c).run s).1.Agrees (store.perform c).1 ∧
      Mirrors docs ((Documents.perform db c).run s).2 (store.perform c).2
  | .publishingInfo, _ => mirror.answers_read (mirror.publishingInfo_run lawful) (.same _)
  | .repositories, _ => mirror.answers_read (mirror.repositories_run lawful) (.same _)
  | .repository org, _ => mirror.answers_read (mirror.repository_run lawful org) (.same _)
  | .questions, _ => mirror.answers_read (mirror.questions_run lawful) (.same _)
  | .proposal u n, _ => mirror.answers_read (mirror.proposal_run lawful u n) (.same _)
  | .proposalsForUser u, _ => by
    obtain ⟨l, s', found, perm, kept⟩ := mirror.listing_run lawful _ (Proposal.userFilter_test u)
    exact mirror.answers_read ⟨s', found, kept⟩ (.listed perm)
  | .proposalsForWorkspace org st, _ => by
    obtain ⟨l, s', found, perm, kept⟩ := mirror.listing_run lawful _ (Proposal.workspaceFilter_test org st)
    exact mirror.answers_read ⟨s', found, kept⟩ (.listed perm)
  | .proposalForRepository r st n, _ =>
    mirror.answers_read (mirror.proposalForRepository_run lawful r st n) (.same _)
  | .create _, fits => mirror.perform_create lawful fits
  | .update _, fits => mirror.perform_update lawful fits
  | .updateIf _ _, fits => mirror.perform_updateIf lawful fits
  | .delete k, _ => mirror.perform_delete lawful k

theorem run (mirror : Mirrors docs s store) (calls : List StoreCall) (fits : ∀ c ∈ calls, c.Fits) :
    List.Forall₂ StoreAnswer.Agrees (Documents.run db s calls).1 (store.run calls).1 ∧
      Mirrors docs (Documents.run db s calls).2 (store.run calls).2 := by
  induction calls generalizing s store with
  | nil => exact ⟨.nil, mirror⟩
  | cons c cs ih =>
    obtain ⟨agrees, next⟩ := mirror.perform lawful c (fits c List.mem_cons_self)
    obtain ⟨rest, final⟩ := ih next fun c' mem => fits c' (List.mem_cons_of_mem c mem)
    exact ⟨.cons agrees rest, final⟩

end Lawful

end Mirrors

theorem connect_mirrors {σ : Type} {db : DocumentDatabase σ} {docs : Collections σ}
    (lawful : db.Lawful docs) {seed : SeedData} {s : σ} (seeded : seed.StoredIn docs s)
    (distinct : (seed.proposals.map Proposal.key).Nodup) (fits : seed.Fits) :
    ∃ s', (Documents.connect db).run s = (.ok (), s') ∧ Mirrors docs s' (MemoryStore.ofSeed seed) := by
  obtain ⟨s', connected, kept⟩ := Documents.connect_run s lawful
  obtain ⟨l, perm, proposals⟩ := seeded.proposals
  have listed := ProposalMap.ofList_perm distinct
  refine ⟨s', connected, ?_⟩
  exact {
    info := by rw [kept]; exact seeded.info
    repositories := by rw [kept]; exact seeded.repositories
    questions := by rw [kept]; exact seeded.questions
    proposals := ⟨l, perm.trans listed.symm, by rw [kept]; exact proposals⟩
    sorted := MemoryStore.ofSeed_sorted seed
    repositoriesFit := fits.repositories
    questionsFit := fits.questions
    proposalsFit := fun p mem => fits.proposals p (listed.subset mem) }

/-- The document store agrees with the memory store, over any database that keeps the store's
assumptions. Seed both alike, with proposals under distinct keys and records that stored
documents can hold, and make the same calls on both, each written proposal fitting too:
connecting to the database succeeds, every call answers the same on both up to the order of a
listing of proposals, and the database is left holding the stored forms of the memory store's
proposals. -/
theorem document_store_agrees_with_memory_store {σ : Type} (db : DocumentDatabase σ)
    (docs : Collections σ) (lawful : db.Lawful docs) (seed : SeedData) (s : σ)
    (seeded : seed.StoredIn docs s) (distinct : (seed.proposals.map Proposal.key).Nodup)
    (fits : seed.Fits) (calls : List StoreCall) (callsFit : ∀ c ∈ calls, c.Fits) :
    ∃ s', (Documents.connect db).run s = (.ok (), s') ∧
      List.Forall₂ StoreAnswer.Agrees (Documents.run db s' calls).1
        ((MemoryStore.ofSeed seed).run calls).1 ∧
      docs (Documents.run db s' calls).2 proposalCollection ~
        ((MemoryStore.ofSeed seed).run calls).2.proposals.map Proposal.stored := by
  obtain ⟨s', connected, mirror⟩ := connect_mirrors lawful seeded distinct fits
  obtain ⟨agree, final⟩ := mirror.run lawful calls callsFit
  obtain ⟨l, perm, same⟩ := final.proposals
  refine ⟨s', connected, agree, ?_⟩
  rw [same]
  exact perm.map Proposal.stored

/-! A reference database that keeps the store's assumptions: each collection a list of documents,
a proposal's document refused when one with its `UserId` and `NodeId` is already there. -/

def uniqueKeyOf (doc : List (String × Json)) : List (String × Json) :=
  [("UserId", ((doc.find? (·.1 == "UserId")).map (·.2)).getD .null),
    ("NodeId", ((doc.find? (·.1 == "NodeId")).map (·.2)).getD .null)]

theorem Proposal.uniqueKeyOf_stored (p : Proposal) :
    uniqueKeyOf p.stored = Documents.keyFilter p.userId p.nodeId := by
  simp [uniqueKeyOf, Proposal.stored, Proposal.toJson, Documents.members, Documents.keyFilter]

def listDatabase : DocumentDatabase (String → List (List (String × Json))) where
  find s c F limit :=
    (.ok (limit.elim ((s c).filter (matchesFilter F)) ((s c).filter (matchesFilter F)).take), s)
  insert s c doc :=
    if c = proposalCollection ∧ (s c).any (matchesFilter (uniqueKeyOf doc)) = true then
      (.error (.write duplicateKeyCode "E11000 duplicate key error"), s)
    else (.ok (), Function.update s c (s c ++ [doc]))
  replaceOne s c F r :=
    match (s c).findIdx? (matchesFilter F) with
    | none => (.ok 0, s)
    | some i => (.ok 1, Function.update s c ((s c).set i r))
  deleteOne s c F :=
    match (s c).findIdx? (matchesFilter F) with
    | none => (.ok (), s)
    | some i => (.ok (), Function.update s c ((s c).eraseIdx i))
  createIndexes s _ _ := (.ok (), s)
  ping s := (.ok (), s)

theorem listDatabase_lawful : listDatabase.Lawful id where
  find _ _ _ _ := ⟨_, rfl, rfl⟩
  insertFresh s p free := by
    dsimp only [id] at free
    refine ⟨_, if_neg fun taken => ?_, rfl⟩
    rw [Proposal.uniqueKeyOf_stored, free] at taken
    exact Bool.false_ne_true taken.2
  insertDuplicate s p taken := by
    dsimp only [id] at taken
    exact ⟨_, s, if_pos ⟨rfl, by rw [Proposal.uniqueKeyOf_stored]; exact taken⟩, rfl, rfl⟩
  replaceUnmatched s c F r unmatched := by
    dsimp only [id] at unmatched
    exact ⟨s, by simp only [listDatabase, unmatched], rfl⟩
  replaceMatched s c F r i found := by
    dsimp only [id] at found
    exact ⟨Function.update s c ((s c).set i r), by simp only [listDatabase, found], rfl⟩
  deleteUnmatched s c F unmatched := by
    dsimp only [id] at unmatched
    exact ⟨s, by simp only [listDatabase, unmatched], rfl⟩
  deleteMatched s c F i found := by
    dsimp only [id] at found
    exact ⟨Function.update s c ((s c).eraseIdx i), by simp only [listDatabase, found], rfl⟩
  ping s := ⟨s, rfl, rfl⟩
  createIndexes s _ _ := ⟨s, rfl, rfl⟩

def SeedData.listed (seed : SeedData) (c : String) : List (List (String × Json)) :=
  if c = infoCollection then seed.info.map InfoRecord.stored
  else if c = repositoryCollection then seed.repositories.map RepositoryRecord.stored
  else if c = questionCollection then seed.questions.map QuestionRecord.stored
  else if c = proposalCollection then seed.proposals.map Proposal.stored
  else []

theorem SeedData.storedIn_listed (seed : SeedData) : seed.StoredIn id seed.listed where
  info := by simp [listed]
  repositories := by simp [listed, infoCollection, repositoryCollection]
  questions := by simp [listed, infoCollection, repositoryCollection, questionCollection]
  proposals := ⟨seed.proposals, .refl _, by
    simp [listed, infoCollection, repositoryCollection, questionCollection, proposalCollection]⟩

def sampleSeed : SeedData where
  info := [⟨"guide", "GUIDE", ⟨"publishing", "guide.md"⟩⟩]
  repositories := [⟨"N:organization:repo", 20, "repo", "Repository", "PUBLIC", "", "", ⟨"b", "o"⟩,
    ⟨"b", "l"⟩, [7], 1000, 1000⟩]
  questions := [⟨7, "Why?", "TEXT"⟩]
  proposals :=
    [⟨1, "N:proposal:1", "Ada Lovelace", "ada@example.org", "Survey", "", 20, "N:organization:repo",
        "", .draft, [], [], 1000, 1000, 0, 0, 0, 0⟩,
      ⟨1, "N:proposal:2", "Ada Lovelace", "ada@example.org", "Census", "", 20, "N:organization:repo",
        "", .submitted, [], [], 1000, 1000, 1000, 0, 0, 0⟩]

def sampleCalls : List StoreCall :=
  [.create ⟨1, "N:proposal:3", "Ada Lovelace", "ada@example.org", "Poll", "", 20, "N:organization:repo",
      "", .draft, [], [], 1000, 1000, 0, 0, 0, 0⟩,
    .updateIf ⟨1, "N:proposal:1", "Ada Lovelace", "ada@example.org", "Survey", "", 20,
      "N:organization:repo", "", .submitted, [], [], 1000, 1001, 1001, 0, 0, 0⟩ .draft,
    .updateIf ⟨1, "N:proposal:2", "Ada Lovelace", "ada@example.org", "Census", "", 20,
      "N:organization:repo", "", .accepted, [], [], 1000, 1001, 1000, 0, 1001, 0⟩ .draft,
    .proposal 1 "N:proposal:1",
    .proposalForRepository 20 .submitted "N:organization:repo",
    .proposalsForUser 1,
    .delete ⟨1, "N:proposal:3"⟩]

theorem document_store_agrees_on_a_sample_run :
    ((sampleSeed.proposals.map Proposal.key).Nodup ∧ sampleSeed.Fits ∧ ∀ c ∈ sampleCalls, c.Fits) ∧
    ∃ s, (Documents.connect listDatabase).run sampleSeed.listed = (.ok (), s) ∧
      List.Forall₂ StoreAnswer.Agrees (Documents.run listDatabase s sampleCalls).1
        ((MemoryStore.ofSeed sampleSeed).run sampleCalls).1 ∧
      (Documents.run listDatabase s sampleCalls).2 proposalCollection ~
        ((MemoryStore.ofSeed sampleSeed).run sampleCalls).2.proposals.map Proposal.stored := by
  have distinct : (sampleSeed.proposals.map Proposal.key).Nodup := by
    simp [sampleSeed, Proposal.key]
  have fits : sampleSeed.Fits :=
    ⟨by simp [sampleSeed, RepositoryRecord.Fits, RepositoryRecord.integers, FitsInt64],
      by simp [sampleSeed, FitsInt64],
      by simp [sampleSeed, Proposal.Fits, Proposal.integers, FitsInt64]⟩
  have callsFit : ∀ c ∈ sampleCalls, c.Fits := by
    simp [sampleCalls, StoreCall.Fits, Proposal.Fits, Proposal.integers, FitsInt64]
  exact ⟨⟨distinct, fits, callsFit⟩, document_store_agrees_with_memory_store listDatabase id
    listDatabase_lawful sampleSeed sampleSeed.listed sampleSeed.storedIn_listed distinct fits
    sampleCalls callsFit⟩

end DatasetProposals
