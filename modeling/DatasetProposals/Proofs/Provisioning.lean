import DatasetProposals.Directory.Memory
/-! Provisioning a dataset for an accepted proposal, read as a change of the directory. -/
namespace DatasetProposals
namespace MemoryDirectory

theorem mem_addPair {s : List (Int × Int)} {p q : Int × Int} : q ∈ addPair s p ↔ q ∈ s ∨ q = p := by
  unfold addPair
  split
  · next present =>
    constructor
    · exact .inl
    · rintro (kept | rfl)
      · exact kept
      · exact List.contains_iff_mem.mp present
  · simp

theorem mem_addPair_self (s : List (Int × Int)) (p : Int × Int) : p ∈ addPair s p :=
  mem_addPair.mpr (.inr rfl)

/-- `d'` is `d` with the records of one successful provisioning of `dataset` for `user` added,
and nothing else changed. The contributor row linked to the dataset is the user's own: an
existing one, or a new one numbered after the dataset when the user had none. -/
structure Provisioned (d d' : MemoryDirectory) (user : User) (dataset : Dataset) : Prop where
  datasetId : dataset.id = d.lastId + 1
  datasets : d'.datasets = d.datasets ++ [dataset]
  memberships : d'.memberships = addPair d.memberships (d.publishingOrganizationId, user.id)
  owners : d'.datasetOwners = addPair d.datasetOwners (dataset.id, user.id)
  contributor : ∃ cid, d'.datasetContributors = addPair d.datasetContributors (dataset.id, cid) ∧
    ((d.contributors.find? (·.2 == user.id) = some (cid, user.id) ∧ d'.contributors = d.contributors ∧
        d'.lastId = dataset.id) ∨
      (d.contributors.find? (·.2 == user.id) = none ∧ cid = dataset.id + 1 ∧
        d'.contributors = d.contributors ++ [(cid, user.id)] ∧ d'.lastId = cid))
  users : d'.users = d.users
  organizations : d'.organizations = d.organizations
  publishers : d'.publishers = d.publishers
  publishingOrganizationId : d'.publishingOrganizationId = d.publishingOrganizationId
  welcomeSlug : d'.welcomeSlug = d.welcomeSlug
  failAt : d'.failAt = d.failAt

private theorem provision_bind_ok {ε α β : Type} {x : Except ε α} {f : α → Except ε β} {b : β} :
    (x >>= f) = .ok b ↔ ∃ a, x = .ok a ∧ f a = .ok b := by
  cases x <;> simp [bind, Except.bind]

theorem check_eq_ok {d : MemoryDirectory} {s : ProvisionStep} {u : Unit} :
    d.check s = .ok u ↔ d.failAt ≠ some s := by
  unfold check
  by_cases armed : d.failAt = some s <;> simp [armed]

theorem failAt_eq_none {f : Option ProvisionStep} (user : f ≠ some .resolveUser)
    (organization : f ≠ some .resolveOrganization) (membership : f ≠ some .addGuestMembership)
    (status : f ≠ some .resolveDatasetStatus) (agreement : f ≠ some .resolveDataUseAgreement)
    (dataset : f ≠ some .createDataset) (contributor : f ≠ some .addContributor)
    (attach : f ≠ some .attachContributor) (owner : f ≠ some .addOwner) : f = none := by
  cases f with
  | none => rfl
  | some step => cases step <;> contradiction

theorem provision_eq_ok {d d' : MemoryDirectory} {p : Proposal} {nodeId : String}
    {created : CreatedDataset} (provisioned : d.provision p nodeId = .ok (created, d')) :
    d.failAt = none ∧ d.users.find? (·.id == p.userId) = some created.user ∧
      created.user.id = p.userId ∧
      d.organizations.find? (·.id == d.publishingOrganizationId) = some created.organization ∧
      created.dataset = ⟨d.lastId + 1, nodeId, p.name⟩ ∧
      d.Provisioned d' created.user created.dataset := by
  unfold provision at provisioned
  -- each step is a bind that succeeded; the lookups fail unless they find a record
  obtain ⟨_, userStep, provisioned⟩ := provision_bind_ok.mp provisioned
  dsimp only at provisioned
  split at provisioned
  · next user owner =>
    obtain ⟨_, found, provisioned⟩ := provision_bind_ok.mp provisioned
    cases found
    obtain ⟨_, orgStep, provisioned⟩ := provision_bind_ok.mp provisioned
    split at provisioned
    · next org publisher =>
      obtain ⟨_, found, provisioned⟩ := provision_bind_ok.mp provisioned
      cases found
      obtain ⟨_, memberStep, provisioned⟩ := provision_bind_ok.mp provisioned
      obtain ⟨_, statusStep, provisioned⟩ := provision_bind_ok.mp provisioned
      obtain ⟨_, agreementStep, provisioned⟩ := provision_bind_ok.mp provisioned
      obtain ⟨_, datasetStep, provisioned⟩ := provision_bind_ok.mp provisioned
      obtain ⟨_, contributorStep, provisioned⟩ := provision_bind_ok.mp provisioned
      have userId : user.id = p.userId := by simpa using List.find?_some owner
      have orgId : org.id = d.publishingOrganizationId := by simpa using List.find?_some publisher
      -- the owner's contributor row is reused when there is one
      cases row : d.contributors.find? (·.2 == user.id) with
      | none =>
        simp only [row] at provisioned
        obtain ⟨_, attachStep, provisioned⟩ := provision_bind_ok.mp provisioned
        obtain ⟨_, ownerStep, provisioned⟩ := provision_bind_ok.mp provisioned
        cases provisioned
        -- every one of the nine steps passed its check, so no failure is armed
        have unarmed : d.failAt = none :=
          failAt_eq_none (check_eq_ok.mp userStep) (check_eq_ok.mp orgStep) (check_eq_ok.mp memberStep)
            (check_eq_ok.mp statusStep) (check_eq_ok.mp agreementStep) (check_eq_ok.mp datasetStep)
            (check_eq_ok.mp contributorStep) (check_eq_ok.mp attachStep) (check_eq_ok.mp ownerStep)
        refine ⟨unarmed, owner, userId, publisher, rfl, ?_⟩
        exact ⟨rfl, rfl, by rw [orgId], rfl, ⟨_, rfl, .inr ⟨row, rfl, rfl, rfl⟩⟩, rfl, rfl, rfl,
          rfl, rfl, rfl⟩
      | some found =>
        obtain ⟨cid, owned⟩ := found
        have ownedBy : owned = user.id := by simpa using List.find?_some row
        subst ownedBy
        simp only [row] at provisioned
        obtain ⟨_, attachStep, provisioned⟩ := provision_bind_ok.mp provisioned
        obtain ⟨_, ownerStep, provisioned⟩ := provision_bind_ok.mp provisioned
        cases provisioned
        have unarmed : d.failAt = none :=
          failAt_eq_none (check_eq_ok.mp userStep) (check_eq_ok.mp orgStep) (check_eq_ok.mp memberStep)
            (check_eq_ok.mp statusStep) (check_eq_ok.mp agreementStep) (check_eq_ok.mp datasetStep)
            (check_eq_ok.mp contributorStep) (check_eq_ok.mp attachStep) (check_eq_ok.mp ownerStep)
        refine ⟨unarmed, owner, userId, publisher, rfl, ?_⟩
        exact ⟨rfl, rfl, by rw [orgId], rfl, ⟨cid, rfl, .inl ⟨row, rfl, rfl⟩⟩, rfl, rfl, rfl, rfl,
          rfl, rfl⟩
    · obtain ⟨_, refused, _⟩ := provision_bind_ok.mp provisioned
      cases refused
  · obtain ⟨_, refused, _⟩ := provision_bind_ok.mp provisioned
    cases refused

end MemoryDirectory
end DatasetProposals
