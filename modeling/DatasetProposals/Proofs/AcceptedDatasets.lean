import DatasetProposals.Proofs.LifecycleRuns
import DatasetProposals.Proofs.Provisioning
import DatasetProposals.Proofs.FreshIds
/-! Accepted proposals and the directory agree over every run. Main statement:
`accepted_proposals_backed_by_directory`. -/
namespace DatasetProposals

namespace Script
open World
variable {w : World} {ε α β : Type} {fail : StorageError → ε}
  {W : Proposal → CreatedDataset → Op → Prop}

/-- The calls of an operation that provisions before it writes: quiet calls, then the
provisioning of some proposal `p`. A failed provisioning ends the run with an error; after a
successful one, with answer `created`, the run finishes with the one write `W p created`
allows. -/
inductive ProvisionThen (W : Proposal → CreatedDataset → Op → Prop) (fail : StorageError → ε) :
    Script (Except ε α) → Prop
  | refuse (e : ε) : ProvisionThen W fail (.done (.error e))
  | quiet {o : Op} {next : o.Answer → Script (Except ε α)} (quiet : o.Quiet = true)
      (rest : ∀ b, ProvisionThen W fail (next b)) : ProvisionThen W fail (.call o next)
  | provision {p : Proposal} {next : (Op.provision p).Answer → Script (Except ε α)}
      (failed : ∀ e : DirectoryError, ∃ e', next (Except.error e) = .done (.error e'))
      (succeeded : ∀ created : CreatedDataset, Finishes (W p created) fail (next (Except.ok created))) :
      ProvisionThen W fail (.call (.provision p) next)

theorem ProvisionThen.of_quiet {s : Script β} {k : β → Script (Except ε α)}
    (first : Everywhere (·.Quiet = true) s) (rest : ∀ b, ProvisionThen W fail (k b)) :
    ProvisionThen W fail (s >>= k) := by
  induction first with
  | done b => exact rest b
  | call quiet _ ih => exact .quiet quiet ih

theorem ProvisionThen.bind {s : Script (Except ε α)} {k : Except ε α → Script (Except ε β)}
    (first : ProvisionThen W fail s) (failing : ∀ e, k (.error e) = .done (.error e))
    (rest : ∀ a, Settles (k (.ok a))) : ProvisionThen W fail (s >>= k) := by
  induction first with
  | refuse e =>
    rw [done_bind,failing]
    exact .refuse e
  | quiet quiet _ ih => exact .quiet quiet ih
  | @provision p next failed succeeded =>
    refine .provision (fun e => ?_) fun created => (succeeded created).bind failing rest
    obtain ⟨e',ended⟩ := failed e
    refine ⟨e',?_⟩
    change next (.error e) >>= k = _
    rw [ended,done_bind,failing]

theorem ProvisionThen.law (hw : w.InMemory) {s : Script (Except ε α)} (shape : ProvisionThen W fail s) :
    ((s.outcome w).2.store = w.store ∧ (s.outcome w).2.directory = w.directory) ∨
      ∃ p created i, w.issued < i ∧ i ≤ (s.outcome w).2.issued ∧
        w.directory.provision p ("N:dataset:" ++ candidateUuid i) =
          .ok (created, (s.outcome w).2.directory) ∧
        ((s.outcome w).2.store = w.store ∨
          ∃ o, W p created o ∧ o.Wrote w.store (s.outcome w).2.store) := by
  induction shape generalizing w with
  | refuse e => exact .inl ⟨rfl,rfl⟩
  | @quiet o next quiet _ ih =>
    have first := outcome_follows hw o
    have store := outcome_store hw (Op.Quiet.writesStore quiet)
    have directory := outcome_directory hw (Op.Quiet.provisions quiet)
    rw [outcome_call,← store,← directory]
    rcases ih (o.outcome w).1 first.inMemory with same | ⟨p,created,i,fresh,issued,provided,written⟩
    · exact .inl same
    · exact .inr ⟨p,created,i,Nat.lt_of_le_of_lt first.issued fresh,issued,provided,written⟩
  | @provision p next failed succeeded =>
    have outcome := outcome_provision hw p
    rw [outcome_call]
    cases provided : w.directory.provision p ("N:dataset:" ++ candidateUuid w.nextIssue) with
    | error e =>
      simp only [provided] at outcome
      rw [outcome]
      obtain ⟨e',stopped⟩ := failed e
      dsimp only
      rw [stopped]
      exact .inl ⟨rfl,rfl⟩
    | ok result =>
      obtain ⟨created,d⟩ := result
      simp only [provided] at outcome
      rw [outcome]
      dsimp only
      -- after provisioning, the run only finishes: it writes at most once and provisions no more
      have after : ({ w.countDirectory .provision with issued := w.nextIssue, directory := d } :
          World).InMemory := ⟨hw.documents,hw.relational,hw.storeRules,hw.directoryRules⟩
      have finishes := succeeded created
      have directory := Script.directory_eq after finishes.calls
      refine .inr ⟨p,created,w.nextIssue,issued_lt_nextIssue w,(Script.follows after _).issued,?_,
        finishes.store_law after⟩
      rw [directory]
      exact provided

end Script

namespace ServiceAct
open Script

theorem provisionThen_quiet_bind {W : Proposal → CreatedDataset → Op → Prop}
    {fail : StorageError → ServiceError} {α β : Type} {x : ServiceAct α} {f : α → ServiceAct β}
    (first : Everywhere (·.Quiet = true) x.run) (rest : ∀ a, ProvisionThen W fail (f a).run) :
    ProvisionThen W fail (x >>= f).run :=
  ProvisionThen.of_quiet first fun r => by
    cases r with
    | ok a => exact rest a
    | error e => exact .refuse e

theorem provisionThen_bind {W : Proposal → CreatedDataset → Op → Prop}
    {fail : StorageError → ServiceError} {α β : Type} {x : ServiceAct α} {f : α → ServiceAct β}
    (first : ProvisionThen W fail x.run) (rest : ∀ a, Settles (f a).run) :
    ProvisionThen W fail (x >>= f).run :=
  first.bind (fun _ => rfl) rest

end ServiceAct

namespace Service
open Script ServiceAct

/-- The write that records an acceptance: the proposal read, accepted into the dataset and the
organization its provisioning answered, written only over a SUBMITTED record. -/
def AcceptWrite (p : Proposal) (created : CreatedDataset) (o : Op) : Prop :=
  ∃ q, o = .updateIf q .submitted ∧ q.status = .accepted ∧ q.key = p.key ∧ q.name = p.name ∧
    q.datasetNodeId = created.dataset.nodeId ∧ q.organizationNodeId = created.organization.nodeId

theorem persistAccept_provisionThen (r : Int) (n : String) :
    ProvisionThen AcceptWrite (ServiceError.ofStorage Transition.accept.operation)
      (persistAccept r n).run := by
  unfold persistAccept
  dsimp only
  refine provisionThen_quiet_bind (quiet_of_observes (findForRepository_observes _ _ _)) fun p => ?_
  refine .provision (fun e => ⟨_,rfl⟩) fun created => ?_
  refine finishes_lift_bind (.op (by rfl)) fun now => ?_
  exact finishes_updateIf ⟨_,rfl,rfl,rfl,rfl,rfl,rfl⟩ fun _ => .done _

theorem acceptProposal_provisionThen (r : Int) (n : String) :
    ProvisionThen AcceptWrite (ServiceError.ofStorage Transition.accept.operation)
      (acceptProposal r n).run :=
  provisionThen_bind (persistAccept_provisionThen r n) fun _ =>
    settles_bind (settles_lift (notifyOwner_calls _ _ _)) fun _ => .done _

end Service

namespace MemoryDirectory
variable {d d' : MemoryDirectory} {p q : Proposal} {D : Dataset}

/-- How the directory backs an accepted proposal `p` with the dataset `D`: `D` is the only
dataset under the proposal's dataset node id, it carries the proposal's name, the owner owns
it and it is linked to the owner's contributor row; the owner is a member of the publishing
organization, and the proposal names that organization. -/
structure Backs (d : MemoryDirectory) (p : Proposal) (D : Dataset) : Prop where
  only : d.datasets.filter (·.nodeId == p.datasetNodeId) = [D]
  name : D.name = p.name
  owner : (D.id, p.userId) ∈ d.datasetOwners
  contributor : ∃ cid, d.contributors.find? (·.2 == p.userId) = some (cid, p.userId) ∧
    (D.id, cid) ∈ d.datasetContributors
  member : (d.publishingOrganizationId, p.userId) ∈ d.memberships
  organization : ∃ org, d.organizations.find? (·.id == d.publishingOrganizationId) = some org ∧
    p.organizationNodeId = org.nodeId

theorem Backs.mem (backs : d.Backs p D) : D ∈ d.datasets ∧ D.nodeId = p.datasetNodeId := by
  have listed : D ∈ d.datasets.filter (·.nodeId == p.datasetNodeId) := by
    rw [backs.only]
    exact List.mem_singleton_self D
  rw [List.mem_filter,beq_iff_eq] at listed
  exact listed

theorem Backs.withFailAt (backs : d.Backs p D) (step : Option ProvisionStep) :
    ({ d with failAt := step } : MemoryDirectory).Backs p D :=
  ⟨backs.only,backs.name,backs.owner,backs.contributor,backs.member,backs.organization⟩

theorem Backs.provisioned (backs : d.Backs p D) {user : User} {D' : Dataset}
    (provisioned : d.Provisioned d' user D') (apart : D'.nodeId ≠ p.datasetNodeId) :
    d'.Backs p D where
  only := by
    rw [provisioned.datasets,List.filter_append,backs.only]
    simp [apart]
  name := backs.name
  owner := by
    rw [provisioned.owners]
    exact mem_addPair.mpr (.inl backs.owner)
  contributor := by
    obtain ⟨cid,found,linked⟩ := backs.contributor
    obtain ⟨cid',links,row⟩ := provisioned.contributor
    refine ⟨cid,?_,by rw [links]; exact mem_addPair.mpr (.inl linked)⟩
    rcases row with ⟨-,same,-⟩ | ⟨-,-,appended,-⟩
    · rw [same]
      exact found
    · rw [appended,List.find?_append,found]
      rfl
  member := by
    rw [provisioned.memberships,provisioned.publishingOrganizationId]
    exact mem_addPair.mpr (.inl backs.member)
  organization := by
    rw [provisioned.organizations,provisioned.publishingOrganizationId]
    exact backs.organization

theorem backs_of_provision {nodeId : String} {created : CreatedDataset}
    (provided : d.provision p nodeId = .ok (created, d')) (unused : ∀ D ∈ d.datasets, D.nodeId ≠ nodeId)
    (key : q.key = p.key) (name : q.name = p.name) (datasetId : q.datasetNodeId = nodeId)
    (organization : q.organizationNodeId = created.organization.nodeId) :
    d'.Backs q created.dataset := by
  obtain ⟨-,-,userId,found,dataset,provisioned⟩ := provision_eq_ok provided
  have owner : q.userId = created.user.id := (congrArg ProposalKey.userId key).trans userId.symm
  obtain ⟨cid,links,row⟩ := provisioned.contributor
  refine ⟨?_,?_,?_,⟨cid,?_,?_⟩,?_,⟨created.organization,?_,organization⟩⟩
  · -- the new dataset is the only one under its node id
    have none : d.datasets.filter (·.nodeId == nodeId) = [] :=
      List.filter_eq_nil_iff.mpr fun D listed same => unused D listed (beq_iff_eq.mp same)
    rw [provisioned.datasets,List.filter_append,datasetId,none,dataset]
    simp
  · rw [dataset,name]
  · rw [provisioned.owners,owner]
    exact mem_addPair_self _ _
  · rw [owner]
    rcases row with ⟨present,same,-⟩ | ⟨absent,-,appended,-⟩
    · rw [same]
      exact present
    · rw [appended,List.find?_append,absent]
      simp
  · rw [links]
    exact mem_addPair_self _ _
  · rw [provisioned.memberships,provisioned.publishingOrganizationId,owner]
    exact mem_addPair_self _ _
  · rw [provisioned.organizations,provisioned.publishingOrganizationId]
    exact found

end MemoryDirectory

namespace MemoryStore

theorem Writes.found {s s' : MemoryStore} {k k' : ProposalKey} {v : Option Proposal} {p : Proposal}
    (writes : s.Writes s' k v) (found : s'.lookup k' = some p) :
    (k = k' ∧ v = some p) ∨ s.lookup k' = some p := by
  rw [writes.lookup] at found
  by_cases here : k = k'
  · rw [if_pos here] at found
    exact .inl ⟨here,found⟩
  · rw [if_neg here] at found
    exact .inr found

end MemoryStore

namespace World
variable {w w' : World}

/-- No dataset of the directory carries a dataset node id still to be issued. Identifiers are
random, so one drawn later never equals one given out before; a directory built from a seed
has no dataset at all. -/
def FreshDatasetIds (w : World) : Prop :=
  ∀ D ∈ w.directory.datasets, ∀ n, w.issued < n → D.nodeId ≠ "N:dataset:" ++ candidateUuid n

/-- The invariant of runs: every stored ACCEPTED proposal is backed by the directory, no two of
them share a dataset node id, and no dataset carries an identifier still to be issued. -/
structure AcceptedBacked (w : World) : Prop where
  backed : ∀ k p, w.store.lookup k = some p → p.status = .accepted → ∃ D, w.directory.Backs p D
  distinct : ∀ k k' p p', w.store.lookup k = some p → w.store.lookup k' = some p' →
    p.status = .accepted → p'.status = .accepted → p.datasetNodeId = p'.datasetNodeId → k = k'
  fresh : w.FreshDatasetIds

theorem AcceptedBacked.initial (noneAccepted : ∀ k p, w.store.lookup k = some p → p.status ≠ .accepted)
    (fresh : w.FreshDatasetIds) : w.AcceptedBacked where
  backed k p found accepted := absurd accepted (noneAccepted k p found)
  distinct k _ p _ found _ accepted := absurd accepted (noneAccepted k p found)
  fresh := fresh

theorem AcceptedBacked.of_kept (inv : w.AcceptedBacked)
    (kept : ∀ k p, w'.store.lookup k = some p → p.status = .accepted → w.store.lookup k = some p)
    (directory : w'.directory = w.directory) (issued : w.issued ≤ w'.issued) : w'.AcceptedBacked where
  backed k p found accepted := by
    rw [directory]
    exact inv.backed k p (kept k p found accepted) accepted
  distinct k k' p p' found found' accepted accepted' same :=
    inv.distinct k k' p p' (kept k p found accepted) (kept k' p' found' accepted') accepted accepted' same
  fresh D listed n later := by
    rw [directory] at listed
    exact inv.fresh D listed n (Nat.lt_of_le_of_lt issued later)

theorem AcceptedBacked.of_provision (inv : w.AcceptedBacked) {p : Proposal} {created : CreatedDataset}
    {i : Nat} (before : w.issued < i) (after : i ≤ w'.issued)
    (provided : w.directory.provision p ("N:dataset:" ++ candidateUuid i) = .ok (created, w'.directory))
    (written : w'.store = w.store ∨ ∃ o, Service.AcceptWrite p created o ∧ o.Wrote w.store w'.store) :
    w'.AcceptedBacked := by
  obtain ⟨-,-,-,-,dataset,provisioned⟩ := MemoryDirectory.provision_eq_ok provided
  have unused : ∀ D ∈ w.directory.datasets, D.nodeId ≠ "N:dataset:" ++ candidateUuid i :=
    fun D listed => inv.fresh D listed i before
  -- every ACCEPTED record stored before names a dataset that was there, so not the new one
  have oldApart : ∀ k r, w.store.lookup k = some r → r.status = .accepted →
      r.datasetNodeId ≠ "N:dataset:" ++ candidateUuid i := by
    intro k r found accepted
    obtain ⟨D,backs⟩ := inv.backed k r found accepted
    rw [← backs.mem.2]
    exact unused D backs.mem.1
  have oldBacked : ∀ k r, w.store.lookup k = some r → r.status = .accepted →
      ∃ D, w'.directory.Backs r D := by
    intro k r found accepted
    obtain ⟨D,backs⟩ := inv.backed k r found accepted
    refine ⟨D,backs.provisioned provisioned ?_⟩
    rw [dataset]
    exact (oldApart k r found accepted).symm
  have fresh : w'.FreshDatasetIds := by
    intro D listed n later
    rw [provisioned.datasets,List.mem_append,List.mem_singleton] at listed
    rcases listed with old | rfl
    · exact inv.fresh D old n (by omega)
    · rw [dataset]
      intro same
      have drawn : i = n := (prefixed_candidate_inj "N:dataset:").mp same
      omega
  rcases written with same | ⟨o,⟨q,rfl,accepted,key,name,datasetId,organization⟩,wrote⟩
  · refine ⟨fun k r found acc => ?_,fun k k' r r' found found' acc acc' shared => ?_,fresh⟩
    · rw [same] at found
      exact oldBacked k r found acc
    · rw [same] at found found'
      exact inv.distinct k k' r r' found found' acc acc' shared
  · -- the write puts `q` over a SUBMITTED record; every other key keeps its record
    obtain ⟨old,-,-,stored⟩ := MemoryStore.updateIf_eq_ok.mp wrote
    have newId : q.datasetNodeId = "N:dataset:" ++ candidateUuid i := by rw [datasetId,dataset]
    have newBacked : w'.directory.Backs q created.dataset :=
      MemoryDirectory.backs_of_provision provided unused key name newId organization
    have lookup (k : ProposalKey) : w'.store.lookup k = if q.key = k then some q else w.store.lookup k := by
      rw [stored,MemoryStore.lookup_put]
    refine ⟨fun k r found acc => ?_,fun k k' r r' found found' acc acc' shared => ?_,fresh⟩
    · rw [lookup] at found
      by_cases here : q.key = k
      · rw [if_pos here] at found
        cases found
        exact ⟨_,newBacked⟩
      · rw [if_neg here] at found
        exact oldBacked k r found acc
    · rw [lookup] at found found'
      by_cases here : q.key = k <;> by_cases here' : q.key = k'
      · exact here.symm.trans here'
      · rw [if_pos here] at found
        rw [if_neg here'] at found'
        cases found
        exact absurd (shared.symm.trans newId) (oldApart k' r' found' acc')
      · rw [if_neg here] at found
        rw [if_pos here'] at found'
        cases found'
        exact absurd (shared.trans newId) (oldApart k r found acc)
      · rw [if_neg here] at found
        rw [if_neg here'] at found'
        exact inv.distinct k k' r r' found found' acc acc' shared

end World

namespace Service
open World Script

theorem Call.StoreLaw.accepted_kept {c : Call} {s s' : MemoryStore} (law : c.StoreLaw s s')
    (other : ∀ r n, c ≠ .accept r n) {k : ProposalKey} {p : Proposal}
    (found : s'.lookup k = some p) (accepted : p.status = .accepted) : s.lookup k = some p := by
  have unwritten : ∀ {k'} {v : Option Proposal}, s.Writes s' k' v → (v = some p → False) →
      s.lookup k = some p := fun writes notThis =>
    (writes.found found).resolve_left fun ⟨_,written⟩ => notThis written
  cases c with
  | create u input =>
    rcases law with same | ⟨r,draft,-,writes⟩
    · rwa [same] at found
    · refine unwritten writes fun written => ?_
      cases written
      rw [draft] at accepted
      cases accepted
  | update u existing changes =>
    rcases law with same | ⟨r,-,-,-,draft,writes⟩
    · rwa [same] at found
    · refine unwritten writes fun written => ?_
      cases written
      rw [draft] at accepted
      cases accepted
  | delete d =>
    rcases law with same | writes
    · rwa [same] at found
    · exact unwritten writes fun written => by cases written
  | accept r n => exact absurd rfl (other r n)
  | _ =>
    rcases law with same | ⟨t,r,-,transition,-,-,target,writes⟩
    · rwa [same] at found
    · refine unwritten writes fun written => ?_
      cases written
      -- the record written is in the target status of the call's transition: acceptance
      have isAccept : t = .accept := by
        cases t with
        | accept => rfl
        | _ =>
          rw [target] at accepted
          cases accepted
      subst isAccept
      cases transition

theorem Call.keeps_acceptedBacked {w : World} (hw : w.InMemory) (inv : w.AcceptedBacked) (c : Call) :
    (c.act.run.outcome w).2.AcceptedBacked := by
  have grows := (Script.follows hw c.act.run).issued
  cases reads : c.readOnly with
  | true =>
    obtain ⟨storeFaults,directoryFaults,same⟩ := observes_world hw (c.observes reads)
    rw [same]
    exact inv.of_kept (fun _ _ found _ => found) rfl (Nat.le_refl _)
  | false =>
    by_cases accepting : ∃ r n, c = .accept r n
    · obtain ⟨r,n,rfl⟩ := accepting
      rcases (acceptProposal_provisionThen r n).law hw with
        ⟨store,directory⟩ | ⟨p,created,i,before,after,provided,written⟩
      · exact inv.of_kept (fun k p found _ => store ▸ found) directory grows
      · exact inv.of_provision before after provided written
    · have other : ∀ r n, c ≠ .accept r n := fun r n same => accepting ⟨r,n,same⟩
      have never : c.provisions = false := by
        cases provides : c.provisions with
        | false => rfl
        | true => exact absurd (Call.accept_of_provisions provides) accepting
      have law := Call.storeLaw_run hw c reads
      have directory := Script.directory_eq hw ((c.commits reads).calls never)
      exact inv.of_kept (fun k p found accepted => law.accepted_kept other found accepted) directory grows

theorem Step.keeps_acceptedBacked {w : World} (hw : w.InMemory) (inv : w.AcceptedBacked) :
    (step : Step) → (step.perform w).AcceptedBacked
  | .call c => Call.keeps_acceptedBacked hw inv c
  | .setClock _ | .advance _ | .failSend _ => inv.of_kept (fun _ _ found _ => found) rfl (Nat.le_refl _)
  | .failAt step =>
    ⟨fun k p found accepted => (inv.backed k p found accepted).imp fun _ backs => backs.withFailAt step,
      inv.distinct,inv.fresh⟩

theorem afterSteps_acceptedBacked {w : World} (hw : w.InMemory) (inv : w.AcceptedBacked)
    (steps : List Step) : (afterSteps w steps).AcceptedBacked := by
  induction steps generalizing w with
  | nil => exact inv
  | cons step rest ih => exact ih (step.perform_inMemory hw) (Step.keeps_acceptedBacked hw inv step)

/-- Accepted proposals and the directory agree in every state a run reaches from an in-memory
world with no ACCEPTED proposal: each stored ACCEPTED proposal is backed by exactly one dataset
under its dataset node id, named as the proposal and owned by its owner, linked to the owner's
contributor row, with the owner a member of the publishing organization that the proposal
names; and no two stored ACCEPTED proposals share a dataset node id. -/
theorem accepted_proposals_backed_by_directory (w : World) (hw : w.InMemory)
    (noneAccepted : ∀ k p, w.store.lookup k = some p → p.status ≠ .accepted)
    (fresh : w.FreshDatasetIds) (steps : List Step) :
    (∀ k p, (afterSteps w steps).store.lookup k = some p → p.status = .accepted →
      ∃ D, (afterSteps w steps).directory.Backs p D) ∧
    (∀ k k' p p', (afterSteps w steps).store.lookup k = some p →
      (afterSteps w steps).store.lookup k' = some p' → p.status = .accepted →
      p'.status = .accepted → p.datasetNodeId = p'.datasetNodeId → k = k') := by
  have inv := afterSteps_acceptedBacked hw (.initial noneAccepted fresh) steps
  exact ⟨inv.backed,inv.distinct⟩

def createSubmitAccept : List Step :=
  [createSurvey, .call (.submit 1 firstKey.nodeId), .call (.accept 20 firstKey.nodeId)]

/-- In the sample world, creating, submitting and accepting a proposal leaves it ACCEPTED, and
backed by the directory. -/
theorem accepted_backed_after_create_submit_accept :
    World.sample.InMemory ∧
      (∀ k p, World.sample.store.lookup k = some p → p.status ≠ .accepted) ∧
      World.sample.FreshDatasetIds ∧
      ((afterSteps World.sample createSubmitAccept).store.lookup firstKey).map (·.status) =
        some .accepted ∧
      (∀ k p, (afterSteps World.sample createSubmitAccept).store.lookup k = some p →
        p.status = .accepted → ∃ D, (afterSteps World.sample createSubmitAccept).directory.Backs p D) ∧
      (∀ k k' p p', (afterSteps World.sample createSubmitAccept).store.lookup k = some p →
        (afterSteps World.sample createSubmitAccept).store.lookup k' = some p' → p.status = .accepted →
        p'.status = .accepted → p.datasetNodeId = p'.datasetNodeId → k = k') :=
  have noneAccepted : ∀ k p, World.sample.store.lookup k = some p → p.status ≠ .accepted :=
    fun _ _ found => by cases found
  have fresh : World.sample.FreshDatasetIds := fun _ listed => by cases listed
  ⟨World.sample_inMemory, noneAccepted, fresh, by decide +kernel,
    accepted_proposals_backed_by_directory World.sample World.sample_inMemory noneAccepted fresh
      createSubmitAccept⟩

def forgingWorld : World :=
  { (default : World) with
    clock := 1000
    directory := { (default : World).directory with
      users := [⟨1, "N:user:1", "Ada", "Lovelace", "ada@example.org"⟩] } }

def forgedCopy (n : Nat) (name : String) : ProposalDto :=
  { ProposalDto.empty with
    userId := 1
    proposalNodeId := "N:proposal:" ++ candidateUuid n
    name := name
    repositoryId := 20
    organizationNodeId := "N:organization:repo"
    datasetNodeId := "N:dataset:shared"
    createdAt := 1000
    updatedAt := 1000 }

def forgingRun : List Step :=
  [.call (.create 1 { ProposalDto.empty with
      name := "first", repositoryId := 20, organizationNodeId := "N:organization:repo" }),
   .call (.create 1 { ProposalDto.empty with
      name := "second", repositoryId := 20, organizationNodeId := "N:organization:repo" }),
   .call (.update 1 (forgedCopy 1 "first") { ProposalDto.empty with name := "first" }),
   .call (.update 1 (forgedCopy 2 "second") { ProposalDto.empty with name := "second" })]

/-- Two updates that copy one dataset node id into two DRAFT proposals leave two stored
proposals sharing it, from a world with no proposal and no dataset. -/
theorem updates_can_share_dataset_node_id :
    forgingWorld.InMemory ∧
      (∀ k p, forgingWorld.store.lookup k = some p → p.status ≠ .accepted) ∧
      forgingWorld.FreshDatasetIds ∧
      (⟨1, "N:proposal:" ++ candidateUuid 1⟩ : ProposalKey) ≠ ⟨1, "N:proposal:" ++ candidateUuid 2⟩ ∧
      ((afterSteps forgingWorld forgingRun).store.lookup ⟨1, "N:proposal:" ++ candidateUuid 1⟩).map
        (·.datasetNodeId) = some "N:dataset:shared" ∧
      ((afterSteps forgingWorld forgingRun).store.lookup ⟨1, "N:proposal:" ++ candidateUuid 2⟩).map
        (·.datasetNodeId) = some "N:dataset:shared" :=
  ⟨⟨rfl,rfl,rfl,rfl⟩,(fun _ _ found => by cases found),(fun _ listed => by cases listed),
    by decide,by decide,by decide⟩

end Service

end DatasetProposals
