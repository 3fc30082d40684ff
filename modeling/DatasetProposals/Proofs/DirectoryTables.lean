import DatasetProposals.Proofs.Provisioning
/-! The tables of an in-memory directory over runs of its calls. Main statement:
`directory_runs_stay_well_formed`. -/
namespace DatasetProposals

/-- A call on the in-memory directory. A provisioning names the dataset node id it draws. -/
inductive DirectoryCall where
  | provision (p : Proposal) (datasetNodeId : String)
  | failAt (step : Option ProvisionStep)
  | proposalUser (userId : Int)
  | repositoryWorkspace (org : String)
  | publishingTeam (org : String)
  | welcomeWorkspace
  | datasets
  | contributors
  | isMember (organizationId userId : Int)
  | isOwner (datasetId userId : Int)

/-- What a directory call answers. -/
inductive DirectoryAnswer where
  | user (r : Except DirectoryError User)
  | organization (r : Except DirectoryError Organization)
  | team (publishers : List Publisher)
  | created (r : Except DirectoryError CreatedDataset)
  | datasets (ds : List Dataset)
  | contributors (rows : List (Int × Int))
  | flag (b : Bool)
  | armed

def DirectoryAnswer.provisioned : DirectoryAnswer → Bool
  | .created (.ok _) => true
  | _ => false

namespace MemoryDirectory

def perform (d : MemoryDirectory) : DirectoryCall → DirectoryAnswer × MemoryDirectory
  | .provision p nodeId =>
    match d.provision p nodeId with
    | .ok (created, d') => (.created (.ok created), d')
    | .error e => (.created (.error e), d)
  | .failAt step => (.armed, { d with failAt := step })
  | .proposalUser u => (.user (d.proposalUser u), d)
  | .repositoryWorkspace org => (.organization (d.repositoryWorkspace org), d)
  | .publishingTeam org => (.team (d.publishingTeam org), d)
  | .welcomeWorkspace => (.organization d.welcomeWorkspace, d)
  | .datasets => (.datasets d.datasets, d)
  | .contributors => (.contributors d.contributors, d)
  | .isMember o u => (.flag (d.isMember o u), d)
  | .isOwner ds u => (.flag (d.isOwner ds u), d)

def run (d : MemoryDirectory) : List DirectoryCall → List DirectoryAnswer × MemoryDirectory
  | [] => ([], d)
  | c :: cs =>
    let rest := (d.perform c).2.run cs
    ((d.perform c).1 :: rest.1, rest.2)

theorem run_append (d : MemoryDirectory) (cs more : List DirectoryCall) :
    (d.run (cs ++ more)).2 = ((d.run cs).2.run more).2 := by
  induction cs generalizing d with
  | nil => rfl
  | cons c cs ih => exact ih (d.perform c).2

def rowIds (d : MemoryDirectory) : List Int := d.datasets.map (·.id) ++ d.contributors.map (·.1)

/-- The representation invariant of the directory's tables. -/
structure WellFormed (d : MemoryDirectory) : Prop where
  counter : 0 ≤ d.lastId
  distinct : d.rowIds.Nodup
  drawn : ∀ i ∈ d.rowIds, 1 ≤ i ∧ i ≤ d.lastId
  oneRowEach : (d.contributors.map (·.2)).Nodup
  contributorLinks : ∀ l ∈ d.datasetContributors,
    (∃ D ∈ d.datasets, D.id = l.1) ∧ ∃ row ∈ d.contributors, row.1 = l.2
  ownerLinks : ∀ l ∈ d.datasetOwners, ∃ D ∈ d.datasets, D.id = l.1
  oneOwner : ∀ D ∈ d.datasets, d.datasetOwners.countP (·.1 == D.id) = 1
  oneContributor : ∀ D ∈ d.datasets, d.datasetContributors.countP (·.1 == D.id) = 1

theorem ofSeed_wellFormed (seed : DirectorySeed) : (ofSeed seed).WellFormed where
  counter := Int.le_refl 0
  distinct := List.nodup_nil
  drawn _ none := nomatch none
  oneRowEach := List.nodup_nil
  contributorLinks _ none := nomatch none
  ownerLinks _ none := nomatch none
  oneOwner _ none := nomatch none
  oneContributor _ none := nomatch none

/-! Links added as to a set. -/

theorem subset_addPair (s : List (Int × Int)) (p : Int × Int) : s ⊆ addPair s p :=
  fun _ mem => mem_addPair.mpr (.inl mem)

theorem countP_addPair_of_ne {s : List (Int × Int)} {p : Int × Int} {i : Int} (other : p.1 ≠ i) :
    (addPair s p).countP (·.1 == i) = s.countP (·.1 == i) := by
  unfold addPair
  split
  · rfl
  · simp [List.countP_append, other]

theorem countP_addPair_first {s : List (Int × Int)} {p : Int × Int} (first : ∀ q ∈ s, q.1 ≠ p.1) :
    (addPair s p).countP (·.1 == p.1) = 1 := by
  have absent : ¬ s.contains p := fun present => first p (List.contains_iff_mem.mp present) rfl
  have none : s.countP (·.1 == p.1) = 0 :=
    List.countP_eq_zero.mpr fun q mem same => first q mem (beq_iff_eq.mp same)
  unfold addPair
  rw [if_neg absent, List.countP_append, none]
  simp

/-! One provisioning. -/

variable {d d' : MemoryDirectory} {user : User} {D : Dataset}

theorem nodup_append_drawn {ids news : List Int} {n : Int} (distinct : ids.Nodup)
    (below : ∀ i ∈ ids, i ≤ n) (fresh : news.Nodup) (above : ∀ j ∈ news, n < j) :
    (ids ++ news).Nodup :=
  List.nodup_append.mpr ⟨distinct, fresh, fun i old j new same => by
    have := below i old
    have := above j new
    omega⟩

theorem Provisioned.rows (provisioned : d.Provisioned d' user D) :
    ∃ news : List Int, d'.rowIds.Perm (d.rowIds ++ news) ∧ news.Nodup ∧
      (∀ j ∈ news, d.lastId < j ∧ j ≤ d'.lastId) ∧ d.lastId + 1 ≤ d'.lastId := by
  obtain ⟨cid, -, row⟩ := provisioned.contributor
  have newId := provisioned.datasetId
  -- the dataset's id goes after the other datasets' ids, before the contributor rows'
  have moved : ∀ rest : List Int, (d.datasets.map (·.id) ++ [D.id] ++ rest).Perm
      (d.datasets.map (·.id) ++ rest ++ [D.id]) := fun rest => by
    rw [List.append_assoc, List.append_assoc]
    exact List.perm_append_comm.append_left _
  rcases row with ⟨-, contributors, lastId⟩ | ⟨-, rfl, contributors, lastId⟩
  · refine ⟨[D.id], ?_, List.pairwise_singleton _ _, ?_, by omega⟩
    · simp only [rowIds, provisioned.datasets, contributors, List.map_append, List.map_cons,
        List.map_nil]
      exact moved _
    · intro j mem
      rw [List.mem_singleton] at mem
      omega
  · have twoFresh : [D.id, D.id + 1].Nodup := by
      rw [List.nodup_cons, List.mem_singleton]
      exact ⟨by omega, List.pairwise_singleton _ _⟩
    refine ⟨[D.id, D.id + 1], ?_, twoFresh, ?_, by omega⟩
    · simp only [rowIds, provisioned.datasets, contributors, List.map_append, List.map_cons,
        List.map_nil]
      -- then the contributor row's id, drawn after the dataset's, goes last
      refine (moved _).trans ?_
      simp only [List.append_assoc, List.singleton_append]
      exact ((List.Perm.swap _ _ _).append_left _).append_left _
    · intro j mem
      simp only [List.mem_cons, List.not_mem_nil, or_false] at mem
      omega

theorem WellFormed.apart (inv : d.WellFormed) (provisioned : d.Provisioned d' user D) :
    ∀ D' ∈ d.datasets, D'.id ≠ D.id := fun D' mem same => by
  have drawn := inv.drawn D'.id (List.mem_append_left _ (List.mem_map_of_mem mem))
  have := provisioned.datasetId
  omega

theorem WellFormed.links_apart (inv : d.WellFormed) (provisioned : d.Provisioned d' user D) :
    (∀ l ∈ d.datasetOwners, l.1 ≠ D.id) ∧ ∀ l ∈ d.datasetContributors, l.1 ≠ D.id := by
  -- every link names an existing dataset, whose id was drawn before
  refine ⟨fun l mem same => ?_, fun l mem same => ?_⟩
  · obtain ⟨D', listed, named⟩ := inv.ownerLinks l mem
    exact inv.apart provisioned D' listed (named.trans same)
  · obtain ⟨⟨D', listed, named⟩, -⟩ := inv.contributorLinks l mem
    exact inv.apart provisioned D' listed (named.trans same)

theorem one_link_addPair {s : List (Int × Int)} {datasets : List Dataset} {x : Int}
    (apart : ∀ D' ∈ datasets, D'.id ≠ D.id) (first : ∀ l ∈ s, l.1 ≠ D.id)
    (one : ∀ D' ∈ datasets, s.countP (·.1 == D'.id) = 1) :
    ∀ D' ∈ datasets ++ [D], (addPair s (D.id, x)).countP (·.1 == D'.id) = 1 := by
  intro D' listed
  rcases List.mem_append.mp listed with old | new
  · rw [countP_addPair_of_ne (apart D' old).symm]
    exact one D' old
  · rw [List.mem_singleton.mp new]
    exact countP_addPair_first (p := (D.id, x)) first

/-- `d'` holds the datasets and contributor rows of `d`, in the same places, and its
memberships. -/
structure Grows (d d' : MemoryDirectory) : Prop where
  datasets : d.datasets <+: d'.datasets
  contributors : d.contributors <+: d'.contributors
  memberships : d.memberships ⊆ d'.memberships

theorem Grows.refl (d : MemoryDirectory) : Grows d d :=
  ⟨List.prefix_refl _, List.prefix_refl _, List.Subset.refl _⟩

theorem Grows.trans {d₁ d₂ d₃ : MemoryDirectory} (first : Grows d₁ d₂) (second : Grows d₂ d₃) :
    Grows d₁ d₃ :=
  ⟨first.datasets.trans second.datasets, first.contributors.trans second.contributors,
    List.Subset.trans first.memberships second.memberships⟩

theorem Provisioned.grows (provisioned : d.Provisioned d' user D) : Grows d d' := by
  refine ⟨?_, ?_, ?_⟩
  · rw [provisioned.datasets]
    exact List.prefix_append _ _
  · obtain ⟨cid, -, row⟩ := provisioned.contributor
    rcases row with ⟨-, same, -⟩ | ⟨-, -, appended, -⟩
    · exact same ▸ List.prefix_refl _
    · rw [appended]
      exact List.prefix_append _ _
  · rw [provisioned.memberships]
    exact subset_addPair _ _

theorem WellFormed.provisioned (inv : d.WellFormed) (provisioned : d.Provisioned d' user D) :
    d'.WellFormed := by
  obtain ⟨news, perm, fresh, above, grown⟩ := provisioned.rows
  have started := inv.counter
  obtain ⟨ownersApart, contributorsApart⟩ := inv.links_apart provisioned
  obtain ⟨cid, links, row⟩ := provisioned.contributor
  -- the contributor linked to the dataset is a row of the new directory
  have linked : ∃ r ∈ d'.contributors, r.1 = cid := by
    rcases row with ⟨found, same, -⟩ | ⟨-, -, appended, -⟩
    · exact ⟨_, same ▸ List.mem_of_find?_eq_some found, rfl⟩
    · exact ⟨_, appended ▸ List.mem_append_right _ (List.mem_singleton_self _), rfl⟩
  have rowsGrow := provisioned.grows.contributors.subset
  have datasetsGrow := provisioned.grows.datasets.subset
  have newListed : D ∈ d'.datasets := by
    rw [provisioned.datasets]; exact List.mem_append_right _ (List.mem_singleton_self _)
  refine ⟨by omega, ?_, ?_, ?_, ?_, ?_, ?_, ?_⟩
  · exact perm.nodup_iff.mpr (nodup_append_drawn inv.distinct
      (fun i mem => (inv.drawn i mem).2) fresh fun j mem => (above j mem).1)
  · intro i mem
    rcases List.mem_append.mp (perm.subset mem) with old | new
    · have := inv.drawn i old
      omega
    · have := above i new
      omega
  · rcases row with ⟨-, same, -⟩ | ⟨absent, -, appended, -⟩
    · rw [same]; exact inv.oneRowEach
    · -- the owner had no row, so the new row's user is not among the others
      rw [appended, List.map_append, List.map_cons, List.map_nil]
      refine List.nodup_append.mpr ⟨inv.oneRowEach, List.pairwise_singleton _ _, ?_⟩
      intro u mem v single same
      rw [List.mem_singleton] at single
      obtain ⟨r, listed, rfl⟩ := List.mem_map.mp mem
      exact List.find?_eq_none.mp absent r listed (beq_iff_eq.mpr (same.trans single))
  · intro l mem
    rw [links] at mem
    rcases mem_addPair.mp mem with old | rfl
    · obtain ⟨⟨D', listed, named⟩, r, row, numbered⟩ := inv.contributorLinks l old
      exact ⟨⟨D', datasetsGrow listed, named⟩, r, rowsGrow row, numbered⟩
    · exact ⟨⟨D, newListed, rfl⟩, linked⟩
  · intro l mem
    rw [provisioned.owners] at mem
    rcases mem_addPair.mp mem with old | rfl
    · obtain ⟨D', listed, named⟩ := inv.ownerLinks l old
      exact ⟨D', datasetsGrow listed, named⟩
    · exact ⟨D, newListed, rfl⟩
  · rw [provisioned.owners, provisioned.datasets]
    exact one_link_addPair (inv.apart provisioned) ownersApart inv.oneOwner
  · rw [links, provisioned.datasets]
    exact one_link_addPair (inv.apart provisioned) contributorsApart inv.oneContributor

/-! One call, then a run. -/

theorem perform_cases (d : MemoryDirectory) (c : DirectoryCall) :
    (∃ user D, (d.perform c).1.provisioned = true ∧ d.Provisioned (d.perform c).2 user D) ∨
      ((d.perform c).1.provisioned = false ∧ ∃ step, (d.perform c).2 = { d with failAt := step }) := by
  cases c with
  | provision p nodeId =>
    cases provided : d.provision p nodeId with
    | ok result =>
      obtain ⟨created, d'⟩ := result
      simp only [perform, provided]
      exact .inl ⟨_, _, rfl, (provision_eq_ok provided).2.2.2.2.2⟩
    | error e =>
      simp only [perform, provided]
      exact .inr ⟨rfl, d.failAt, rfl⟩
  | failAt step => exact .inr ⟨rfl, step, rfl⟩
  | _ => exact .inr ⟨rfl, d.failAt, rfl⟩

theorem WellFormed.withFailAt (inv : d.WellFormed) (step : Option ProvisionStep) :
    ({ d with failAt := step } : MemoryDirectory).WellFormed :=
  ⟨inv.counter, inv.distinct, inv.drawn, inv.oneRowEach, inv.contributorLinks, inv.ownerLinks,
    inv.oneOwner, inv.oneContributor⟩

theorem WellFormed.perform (inv : d.WellFormed) (c : DirectoryCall) : (d.perform c).2.WellFormed := by
  rcases perform_cases d c with ⟨user, D, -, provisioned⟩ | ⟨-, step, armed⟩
  · exact inv.provisioned provisioned
  · rw [armed]
    exact inv.withFailAt step

theorem WellFormed.run (inv : d.WellFormed) (cs : List DirectoryCall) : (d.run cs).2.WellFormed := by
  induction cs generalizing d with
  | nil => exact inv
  | cons c cs ih => exact ih (inv.perform c)

theorem grows_run (d : MemoryDirectory) (cs : List DirectoryCall) : Grows d (d.run cs).2 := by
  induction cs generalizing d with
  | nil => exact .refl d
  | cons c cs ih =>
    have first : Grows d (d.perform c).2 := by
      rcases perform_cases d c with ⟨user, D, -, provisioned⟩ | ⟨-, step, armed⟩
      · exact provisioned.grows
      · rw [armed]
        exact ⟨List.prefix_refl _, List.prefix_refl _, List.Subset.refl _⟩
    exact first.trans (ih _)

theorem perform_datasets_length (d : MemoryDirectory) (c : DirectoryCall) :
    (d.perform c).2.datasets.length = d.datasets.length + if (d.perform c).1.provisioned then 1 else 0 := by
  rcases perform_cases d c with ⟨user, D, counted, provisioned⟩ | ⟨uncounted, step, armed⟩
  · rw [counted, if_pos rfl, provisioned.datasets, List.length_append, List.length_singleton]
  · rw [uncounted, armed]
    rfl

theorem run_datasets_length (d : MemoryDirectory) (cs : List DirectoryCall) :
    (d.run cs).2.datasets.length = d.datasets.length + (d.run cs).1.countP DirectoryAnswer.provisioned := by
  induction cs generalizing d with
  | nil => rfl
  | cons c cs ih =>
    change ((d.perform c).2.run cs).2.datasets.length =
      d.datasets.length + ((d.perform c).1 :: ((d.perform c).2.run cs).1).countP DirectoryAnswer.provisioned
    rw [ih, perform_datasets_length, List.countP_cons]
    omega

/-- Every directory that a run from a seed reaches is well formed, holds as many datasets as
provisionings that succeeded, and keeps its datasets, contributor rows and memberships in every
later directory. -/
theorem directory_runs_stay_well_formed (seed : DirectorySeed) (calls : List DirectoryCall) :
    ((ofSeed seed).run calls).2.WellFormed ∧
      ((ofSeed seed).run calls).2.datasets.length =
        ((ofSeed seed).run calls).1.countP DirectoryAnswer.provisioned ∧
      ∀ more : List DirectoryCall,
        Grows ((ofSeed seed).run calls).2 ((ofSeed seed).run (calls ++ more)).2 := by
  refine ⟨(ofSeed_wellFormed seed).run calls, ?_, fun more => ?_⟩
  · rw [run_datasets_length]
    exact Nat.zero_add _
  · rw [run_append]
    exact grows_run _ more

end MemoryDirectory

end DatasetProposals
