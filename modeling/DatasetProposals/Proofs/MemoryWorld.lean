import DatasetProposals.Proofs.ScriptRun
import DatasetProposals.Proofs.StoreLookup
/-! Worlds whose service runs on the in-memory store and directory: one lemma per call gives its
answer and the world after it, and frame lemmas say what each call leaves alone. -/
namespace DatasetProposals
namespace World

/-- The service runs on the in-memory store and directory; fault rules may be set. -/
structure OnMemory (w : World) : Prop where
  documents : w.documents = none
  relational : w.relational = none

/-- The service runs on the in-memory store and directory, and no rule injects a fault. -/
structure InMemory (w : World) : Prop where
  documents : w.documents = none
  relational : w.relational = none
  storeRules : w.storeFaults.rules = []
  directoryRules : w.directoryFaults.rules = []

def countStore (w : World) (m : StoreMethod) : World :=
  { w with storeFaults := (w.storeFaults.hit m).2 }

def countDirectory (w : World) (m : DirectoryMethod) : World :=
  { w with directoryFaults := (w.directoryFaults.hit m).2 }

def nextIssue (w : World) : Nat :=
  firstUnreserved w.reserved (w.issued + 1) ((w.reserved.map String.length).foldr (· + ·) 0 + 1)

section Counting
variable (w : World)

@[simp] theorem countStore_store (m) : (w.countStore m).store = w.store := rfl
@[simp] theorem countStore_directory (m) : (w.countStore m).directory = w.directory := rfl
@[simp] theorem countStore_mailer (m) : (w.countStore m).mailer = w.mailer := rfl
@[simp] theorem countStore_clock (m) : (w.countStore m).clock = w.clock := rfl
@[simp] theorem countStore_issued (m) : (w.countStore m).issued = w.issued := rfl
@[simp] theorem countStore_settings (m) : (w.countStore m).settings = w.settings := rfl
@[simp] theorem countStore_reserved (m) : (w.countStore m).reserved = w.reserved := rfl
@[simp] theorem countDirectory_store (m) : (w.countDirectory m).store = w.store := rfl
@[simp] theorem countDirectory_directory (m) : (w.countDirectory m).directory = w.directory := rfl
@[simp] theorem countDirectory_mailer (m) : (w.countDirectory m).mailer = w.mailer := rfl
@[simp] theorem countDirectory_clock (m) : (w.countDirectory m).clock = w.clock := rfl
@[simp] theorem countDirectory_issued (m) : (w.countDirectory m).issued = w.issued := rfl
@[simp] theorem countDirectory_settings (m) : (w.countDirectory m).settings = w.settings := rfl
@[simp] theorem countDirectory_reserved (m) : (w.countDirectory m).reserved = w.reserved := rfl
@[simp] theorem countDirectory_nextIssue (m) : (w.countDirectory m).nextIssue = w.nextIssue := rfl

end Counting

theorem InMemory.onMemory {w : World} (hw : w.InMemory) : w.OnMemory :=
  ⟨hw.documents,hw.relational⟩

theorem InMemory.countStore {w : World} (hw : w.InMemory) (m : StoreMethod) :
    (w.countStore m).InMemory :=
  ⟨hw.documents,hw.relational,hw.storeRules,hw.directoryRules⟩

theorem InMemory.countDirectory {w : World} (hw : w.InMemory) (m : DirectoryMethod) :
    (w.countDirectory m).InMemory :=
  ⟨hw.documents,hw.relational,hw.storeRules,hw.directoryRules⟩

theorem InMemory.withStore {w : World} (hw : w.InMemory) (s : MemoryStore) :
    ({ w with store := s } : World).InMemory :=
  ⟨hw.documents,hw.relational,hw.storeRules,hw.directoryRules⟩

/-! With no rule, a fault plan lets every call through and only counts it. -/

variable {w : World}

private theorem storeHit_miss (hw : w.InMemory) (m : StoreMethod) : (w.storeFaults.hit m).1 = none := by
  simp [FaultPlan.hit,hw.storeRules]

private theorem directoryHit_miss (hw : w.InMemory) (m : DirectoryMethod) :
    (w.directoryFaults.hit m).1 = none := by
  simp [FaultPlan.hit,hw.directoryRules]

private theorem faultyListRead_run (hw : w.InMemory) (m : StoreMethod)
    (real : Act (Except StorageError (List α))) (mangle : α → α) (extra : List α) :
    (faultyListRead m real mangle extra).run w = real.run (w.countStore m) := by
  simp only [faultyListRead,storeHit,StateT.run_bind,StateT.run_modifyGet,storeHit_miss hw]
  rfl

private theorem faultyRecordRead_run (hw : w.InMemory) (m : StoreMethod)
    (real : Act (Except StorageError α)) (mangle : α → α) (phantomAnswer : Option α) :
    (faultyRecordRead m real mangle phantomAnswer).run w = real.run (w.countStore m) := by
  simp only [faultyRecordRead,storeHit,StateT.run_bind,StateT.run_modifyGet,storeHit_miss hw]
  rfl

private theorem faultyWrite_run (hw : w.InMemory) (m : StoreMethod) (defaults : Int × String × Status)
    (real unconditional mangle applied : Act (Except StorageError Unit)) :
    (faultyWrite m defaults real unconditional mangle applied).run w = real.run (w.countStore m) := by
  simp only [faultyWrite,storeHit,StateT.run_bind,StateT.run_modifyGet,storeHit_miss hw]
  rfl

private theorem faultyDirectory_run (hw : w.InMemory) (m : DirectoryMethod)
    (real : Act (Except DirectoryError α)) (skipped : Option α) :
    (faultyDirectory m real skipped).run w = real.run (w.countDirectory m) := by
  simp only [faultyDirectory,directoryHit,StateT.run_bind,StateT.run_modifyGet,directoryHit_miss hw]
  rfl

theorem storeCall_reading (hw : w.OnMemory) (onServer : DocumentCall DocumentServer (Except StorageError α))
    (f : MemoryStore → Except StorageError α) :
    (storeCall onServer (reading f)).run w = (f w.store, w) := by
  obtain ⟨settings,store,documents,rest⟩ := w
  have none : documents = none := hw.documents
  subst none
  simp only [storeCall,reading,StateT.run_bind,StateT.run_get,pure_bind]
  cases f store <;> rfl

theorem storeCall_writing (hw : w.OnMemory) (onServer : DocumentCall DocumentServer (Except StorageError Unit))
    (f : MemoryStore → Except StorageError MemoryStore) :
    (storeCall onServer (writing f)).run w = match f w.store with
      | .ok s => (.ok (), { w with store := s })
      | .error e => (.error e, w) := by
  obtain ⟨settings,store,documents,rest⟩ := w
  have none : documents = none := hw.documents
  subst none
  simp only [storeCall,writing,StateT.run_bind,StateT.run_get,pure_bind]
  cases f store <;> rfl

/-! One lemma per call. -/

theorem outcome_publishingInfo (hw : w.InMemory) :
    Op.publishingInfo.outcome w = (.ok w.store.info, w.countStore .publishingInfo) := by
  show World.publishingInfo.run w = _
  simp only [World.publishingInfo,faultyListRead_run hw,rawPublishingInfo,
    storeCall_reading (hw.countStore _).onMemory]
  rfl

theorem outcome_repositories (hw : w.InMemory) :
    Op.repositories.outcome w = (.ok w.store.repositories, w.countStore .repositories) := by
  show World.repositories.run w = _
  simp only [World.repositories,faultyListRead_run hw,rawRepositories,
    storeCall_reading (hw.countStore _).onMemory]
  rfl

theorem outcome_questions (hw : w.InMemory) :
    Op.questions.outcome w = (.ok w.store.questions, w.countStore .questions) := by
  show World.questions.run w = _
  simp only [World.questions,faultyListRead_run hw,rawQuestions,
    storeCall_reading (hw.countStore _).onMemory]
  rfl

theorem outcome_repository (hw : w.InMemory) (org : String) :
    (Op.repository org).outcome w = (w.store.repository org, w.countStore .repository) := by
  show (World.repository org).run w = _
  simp only [World.repository,storeHit,StateT.run_bind,StateT.run_modifyGet,
    storeHit_miss hw]
  exact storeCall_reading (hw.countStore _).onMemory _ _

theorem outcome_proposal (hw : w.InMemory) (u : Int) (n : String) :
    (Op.proposal u n).outcome w = (w.store.proposal u n, w.countStore .proposal) := by
  show (World.proposal u n).run w = _
  simp only [World.proposal,faultyRecordRead_run hw,rawProposal,
    storeCall_reading (hw.countStore _).onMemory]
  rfl

theorem outcome_proposalsForUser (hw : w.InMemory) (u : Int) :
    (Op.proposalsForUser u).outcome w =
      (.ok (w.store.proposalsForUser u), w.countStore .proposalsForUser) := by
  show (World.proposalsForUser u).run w = _
  simp only [World.proposalsForUser,faultyListRead_run hw,rawProposalsForUser,
    storeCall_reading (hw.countStore _).onMemory]
  rfl

theorem outcome_proposalsForWorkspace (hw : w.InMemory) (org : String) (s : Status) :
    (Op.proposalsForWorkspace org s).outcome w =
      (.ok (w.store.proposalsForWorkspace org s), w.countStore .proposalsForWorkspace) := by
  show (World.proposalsForWorkspace org s).run w = _
  simp only [World.proposalsForWorkspace,faultyListRead_run hw,
    rawProposalsForWorkspace,storeCall_reading (hw.countStore _).onMemory]
  rfl

theorem outcome_proposalForRepository (hw : w.InMemory) (r : Int) (s : Status) (n : String) :
    (Op.proposalForRepository r s n).outcome w =
      (w.store.proposalForRepository r s n, w.countStore .proposalForRepository) := by
  show (World.proposalForRepository r s n).run w = _
  simp only [World.proposalForRepository,faultyRecordRead_run hw,
    rawProposalForRepository,storeCall_reading (hw.countStore _).onMemory]
  rfl

theorem outcome_create (hw : w.InMemory) (p : Proposal) :
    (Op.create p).outcome w = match w.store.create p with
      | .ok s => (.ok (), { w.countStore .create with store := s })
      | .error e => (.error e, w.countStore .create) := by
  show (World.create p).run w = _
  simp only [World.create,faultyWrite_run hw,rawCreate,
    storeCall_writing (hw.countStore _).onMemory]
  rfl

theorem outcome_updateIf (hw : w.InMemory) (p : Proposal) (expected : Status) :
    (Op.updateIf p expected).outcome w = match w.store.updateIf p expected with
      | .ok s => (.ok (), { w.countStore .updateIf with store := s })
      | .error e => (.error e, w.countStore .updateIf) := by
  show (World.updateIf p expected).run w = _
  simp only [World.updateIf,faultyWrite_run hw,rawUpdateIf,
    storeCall_writing (hw.countStore _).onMemory]
  rfl

theorem outcome_delete (hw : w.InMemory) (k : ProposalKey) :
    (Op.delete k).outcome w = (.ok (), { w.countStore .delete with store := w.store.delete k }) := by
  show (World.delete k).run w = _
  simp only [World.delete,faultyWrite_run hw,rawDelete,
    storeCall_writing (hw.countStore _).onMemory]
  rfl

theorem directoryCall_memory (hw : w.OnMemory) {α : Type}
    (onRelational : RelationalDirectory → Session α) (inMemory : MemoryDirectory → Except DirectoryError α) :
    (do
      let w ← get
      match w.relational with
      | some d => relationally d (onRelational d)
      | none => return inMemory w.directory : Act _).run w = (inMemory w.directory, w) := by
  obtain ⟨settings,store,documents,directory,relational,rest⟩ := w
  have none : relational = none := hw.relational
  subst none
  rfl

theorem outcome_proposalUser (hw : w.InMemory) (u : Int) :
    (Op.proposalUser u).outcome w =
      (w.directory.proposalUser u, w.countDirectory .proposalUser) := by
  show (World.proposalUser u).run w = _
  simp only [World.proposalUser,faultyDirectory_run hw,rawProposalUser]
  exact directoryCall_memory (hw.countDirectory _).onMemory (fun _ => RelationalDirectory.proposalUser u)
    (fun d => d.proposalUser u)

theorem outcome_publishingTeam (hw : w.InMemory) (org : String) :
    (Op.publishingTeam org).outcome w =
      (.ok (w.directory.publishingTeam org), w.countDirectory .publishingTeam) := by
  show (World.publishingTeam org).run w = _
  simp only [World.publishingTeam,faultyDirectory_run hw,rawPublishingTeam]
  exact directoryCall_memory (hw.countDirectory _).onMemory (fun _ => RelationalDirectory.publishingTeam org)
    (fun d => .ok (d.publishingTeam org))

theorem outcome_welcomeWorkspace (hw : w.InMemory) :
    Op.welcomeWorkspace.outcome w =
      (w.directory.welcomeWorkspace, w.countDirectory .welcomeWorkspace) := by
  show World.welcomeWorkspace.run w = _
  simp only [World.welcomeWorkspace,faultyDirectory_run hw]
  obtain ⟨settings,store,documents,directory,relational,rest⟩ := w
  have none : relational = none := hw.relational
  subst none
  rfl

theorem outcome_freshNodeId (pre : String) :
    (Op.freshNodeId pre).outcome w = (pre ++ candidateUuid w.nextIssue, { w with issued := w.nextIssue }) :=
  rfl

theorem rawProvision_run (hw : w.OnMemory) (p : Proposal) :
    (rawProvision p).run w =
      match w.directory.provision p ("N:dataset:" ++ candidateUuid w.nextIssue) with
      | .ok (created, d) => (.ok created, { w with issued := w.nextIssue, directory := d })
      | .error e => (.error e, { w with issued := w.nextIssue }) := by
  obtain ⟨settings,store,documents,directory,relational,storeFaults,directoryFaults,clock,mailer,
    issued,reserved⟩ := w
  have none : relational = none := hw.relational
  subst none
  simp only [rawProvision,freshNodeId,nextIssue,StateT.run_bind,StateT.run_modifyGet,
    StateT.run_get,pure_bind]
  -- both sides match on the same provisioning of the directory
  cases directory.provision p
      ("N:dataset:" ++ candidateUuid (firstUnreserved reserved (issued + 1)
        ((reserved.map String.length).foldr (· + ·) 0 + 1))) with
  | ok result => rfl
  | error e => rfl

theorem outcome_provision (hw : w.InMemory) (p : Proposal) :
    (Op.provision p).outcome w =
      match w.directory.provision p ("N:dataset:" ++ candidateUuid w.nextIssue) with
      | .ok (created, d) =>
        (.ok created, { w.countDirectory .provision with issued := w.nextIssue, directory := d })
      | .error e => (.error e, { w.countDirectory .provision with issued := w.nextIssue }) := by
  show (World.provision p).run w = _
  simp only [World.provision,faultyDirectory_run hw]
  exact rawProvision_run (hw.countDirectory _).onMemory p

@[simp] theorem outcome_now : Op.now.outcome w = (w.clock, w) := rfl

@[simp] theorem outcome_settings : Op.settings.outcome w = (w.settings, w) := rfl

private theorem deliver_run (m : Email) :
    (do if World.finishesInTime (← get) then let _ ← World.send m : Act Unit).run w = ((), w) ∨
      (do if World.finishesInTime (← get) then let _ ← World.send m : Act Unit).run w =
        ((), { w with mailer := { w.mailer with sent := w.mailer.sent ++ [m] } }) := by
  simp only [StateT.run_bind,StateT.run_get,pure_bind]
  by_cases timely : w.finishesInTime = true
  · rw [if_pos timely]
    simp only [send,StateT.run_bind,StateT.run_get,pure_bind]
    split
    · exact .inl rfl
    · split
      · exact .inl rfl
      · exact .inr rfl
    · split
      · exact .inl rfl
      · exact .inr rfl
  · rw [if_neg timely]
    exact .inl rfl

theorem outcome_deliver (m : Email) :
    (Op.deliver m).outcome w = ((), w) ∨
      (Op.deliver m).outcome w = ((), { w with mailer := { w.mailer with sent := w.mailer.sent ++ [m] } }) :=
  deliver_run m

theorem firstUnreserved_ge (reserved : List String) (n fuel : Nat) : n ≤ firstUnreserved reserved n fuel := by
  induction fuel generalizing n with
  | zero => exact Nat.le_refl _
  | succ fuel ih =>
    simp only [firstUnreserved]
    split
    · exact Nat.le_of_succ_le (ih (n + 1))
    · exact Nat.le_refl _

theorem issued_lt_nextIssue (w : World) : w.issued < w.nextIssue :=
  firstUnreserved_ge _ _ _

/-! What a call can change. -/

end World

namespace Op

def WritesStore : Op → Bool
  | .create _ | .updateIf _ _ | .delete _ => true
  | _ => false

def Provisions : Op → Bool
  | .provision _ => true
  | _ => false

def Delivers : Op → Bool
  | .deliver _ => true
  | _ => false

def Issues : Op → Bool
  | .freshNodeId _ | .provision _ => true
  | _ => false

end Op

namespace World
variable {w : World}

theorem outcome_shape (hw : w.InMemory) (o : Op) :
    ∃ (storeFaults : StoreFaults) (directoryFaults : DirectoryFaults) (store : MemoryStore)
      (directory : MemoryDirectory) (issued : Nat) (sent : List Email),
      (o.outcome w).2 =
        { w with
          storeFaults := storeFaults, directoryFaults := directoryFaults, store := store,
          directory := directory, issued := issued, mailer := { w.mailer with sent := sent } } ∧
      storeFaults.rules = w.storeFaults.rules ∧ directoryFaults.rules = w.directoryFaults.rules ∧
      w.issued ≤ issued ∧ (o.WritesStore = false → store = w.store) ∧
      (o.Provisions = false → directory = w.directory) ∧ (o.Delivers = false → sent = w.mailer.sent) ∧
      (o.Issues = false → issued = w.issued) := by
  have counted (m : StoreMethod) : ((w.storeFaults.hit m).2).rules = w.storeFaults.rules := rfl
  have countedDirectory (m : DirectoryMethod) :
      ((w.directoryFaults.hit m).2).rules = w.directoryFaults.rules := rfl
  cases o with
  | publishingInfo =>
    rw [outcome_publishingInfo hw]
    exact ⟨_,_,_,_,_,_,rfl,counted _,rfl,Nat.le_refl _,fun _ => rfl,fun _ => rfl,fun _ => rfl,fun _ => rfl⟩
  | repositories =>
    rw [outcome_repositories hw]
    exact ⟨_,_,_,_,_,_,rfl,counted _,rfl,Nat.le_refl _,fun _ => rfl,fun _ => rfl,fun _ => rfl,fun _ => rfl⟩
  | questions =>
    rw [outcome_questions hw]
    exact ⟨_,_,_,_,_,_,rfl,counted _,rfl,Nat.le_refl _,fun _ => rfl,fun _ => rfl,fun _ => rfl,fun _ => rfl⟩
  | repository org =>
    rw [outcome_repository hw]
    exact ⟨_,_,_,_,_,_,rfl,counted _,rfl,Nat.le_refl _,fun _ => rfl,fun _ => rfl,fun _ => rfl,fun _ => rfl⟩
  | proposal u n =>
    rw [outcome_proposal hw]
    exact ⟨_,_,_,_,_,_,rfl,counted _,rfl,Nat.le_refl _,fun _ => rfl,fun _ => rfl,fun _ => rfl,fun _ => rfl⟩
  | proposalsForUser u =>
    rw [outcome_proposalsForUser hw]
    exact ⟨_,_,_,_,_,_,rfl,counted _,rfl,Nat.le_refl _,fun _ => rfl,fun _ => rfl,fun _ => rfl,fun _ => rfl⟩
  | proposalsForWorkspace org s =>
    rw [outcome_proposalsForWorkspace hw]
    exact ⟨_,_,_,_,_,_,rfl,counted _,rfl,Nat.le_refl _,fun _ => rfl,fun _ => rfl,fun _ => rfl,fun _ => rfl⟩
  | proposalForRepository r s n =>
    rw [outcome_proposalForRepository hw]
    exact ⟨_,_,_,_,_,_,rfl,counted _,rfl,Nat.le_refl _,fun _ => rfl,fun _ => rfl,fun _ => rfl,fun _ => rfl⟩
  | create p =>
    rw [outcome_create hw]
    split
    · exact ⟨_,_,_,_,_,_,rfl,counted _,rfl,Nat.le_refl _,fun h => Bool.noConfusion h,fun _ => rfl,fun _ => rfl,fun _ => rfl⟩
    · exact ⟨_,_,_,_,_,_,rfl,counted _,rfl,Nat.le_refl _,fun _ => rfl,fun _ => rfl,fun _ => rfl,fun _ => rfl⟩
  | updateIf p e =>
    rw [outcome_updateIf hw]
    split
    · exact ⟨_,_,_,_,_,_,rfl,counted _,rfl,Nat.le_refl _,fun h => Bool.noConfusion h,fun _ => rfl,fun _ => rfl,fun _ => rfl⟩
    · exact ⟨_,_,_,_,_,_,rfl,counted _,rfl,Nat.le_refl _,fun _ => rfl,fun _ => rfl,fun _ => rfl,fun _ => rfl⟩
  | delete k =>
    rw [outcome_delete hw]
    exact ⟨_,_,_,_,_,_,rfl,counted _,rfl,Nat.le_refl _,fun h => Bool.noConfusion h,fun _ => rfl,fun _ => rfl,fun _ => rfl⟩
  | proposalUser u =>
    rw [outcome_proposalUser hw]
    exact ⟨_,_,_,_,_,_,rfl,rfl,countedDirectory _,Nat.le_refl _,fun _ => rfl,fun _ => rfl,fun _ => rfl,fun _ => rfl⟩
  | publishingTeam org =>
    rw [outcome_publishingTeam hw]
    exact ⟨_,_,_,_,_,_,rfl,rfl,countedDirectory _,Nat.le_refl _,fun _ => rfl,fun _ => rfl,fun _ => rfl,fun _ => rfl⟩
  | welcomeWorkspace =>
    rw [outcome_welcomeWorkspace hw]
    exact ⟨_,_,_,_,_,_,rfl,rfl,countedDirectory _,Nat.le_refl _,fun _ => rfl,fun _ => rfl,fun _ => rfl,fun _ => rfl⟩
  | provision p =>
    have grows := Nat.le_of_lt (issued_lt_nextIssue w)
    rw [outcome_provision hw]
    split
    · exact ⟨_,_,_,_,_,_,rfl,rfl,countedDirectory _,grows,fun _ => rfl,fun h => Bool.noConfusion h,fun _ => rfl,fun h => Bool.noConfusion h⟩
    · exact ⟨_,_,_,_,_,_,rfl,rfl,countedDirectory _,grows,fun _ => rfl,fun _ => rfl,fun _ => rfl,fun h => Bool.noConfusion h⟩
  | now => exact ⟨_,_,_,_,_,_,rfl,rfl,rfl,Nat.le_refl _,fun _ => rfl,fun _ => rfl,fun _ => rfl,fun _ => rfl⟩
  | freshNodeId pre =>
    rw [outcome_freshNodeId]
    exact ⟨_,_,_,_,_,_,rfl,rfl,rfl,Nat.le_of_lt (issued_lt_nextIssue w),fun _ => rfl,fun _ => rfl,fun _ => rfl,fun h => Bool.noConfusion h⟩
  | settings => exact ⟨_,_,_,_,_,_,rfl,rfl,rfl,Nat.le_refl _,fun _ => rfl,fun _ => rfl,fun _ => rfl,fun _ => rfl⟩
  | deliver m =>
    rcases outcome_deliver (w := w) m with same | recorded
    · rw [same]
      exact ⟨_,_,_,_,_,_,rfl,rfl,rfl,Nat.le_refl _,fun _ => rfl,fun _ => rfl,fun _ => rfl,fun _ => rfl⟩
    · rw [recorded]
      exact ⟨_,_,_,_,_,_,rfl,rfl,rfl,Nat.le_refl _,fun _ => rfl,fun _ => rfl,fun h => Bool.noConfusion h,fun _ => rfl⟩

/-- `w'` comes after `w` by calls on an in-memory world: it is still in memory, with the same
settings, clock and reserved texts and at least as many identifiers issued. -/
structure Follows (w w' : World) : Prop where
  inMemory : w'.InMemory
  settings : w'.settings = w.settings
  clock : w'.clock = w.clock
  reserved : w'.reserved = w.reserved
  issued : w.issued ≤ w'.issued

theorem Follows.refl (hw : w.InMemory) : w.Follows w := ⟨hw,rfl,rfl,rfl,Nat.le_refl _⟩

theorem Follows.trans {u v w : World} (first : u.Follows v) (second : v.Follows w) : u.Follows w :=
  ⟨second.inMemory,second.settings.trans first.settings,second.clock.trans first.clock,
    second.reserved.trans first.reserved,Nat.le_trans first.issued second.issued⟩

theorem outcome_follows (hw : w.InMemory) (o : Op) : w.Follows (o.outcome w).2 := by
  obtain ⟨_,_,_,_,_,_,eq,storeRules,directoryRules,issued,-,-,-,-⟩ := outcome_shape hw o
  rw [eq]
  exact ⟨⟨hw.documents,hw.relational,storeRules.trans hw.storeRules,
    directoryRules.trans hw.directoryRules⟩,rfl,rfl,rfl,issued⟩

theorem outcome_store (hw : w.InMemory) {o : Op} (keeps : o.WritesStore = false) :
    (o.outcome w).2.store = w.store := by
  obtain ⟨_,_,_,_,_,_,eq,-,-,-,store,-,-,-⟩ := outcome_shape hw o
  rw [eq]
  exact store keeps

theorem outcome_directory (hw : w.InMemory) {o : Op} (keeps : o.Provisions = false) :
    (o.outcome w).2.directory = w.directory := by
  obtain ⟨_,_,_,_,_,_,eq,-,-,-,-,directory,-,-⟩ := outcome_shape hw o
  rw [eq]
  exact directory keeps

theorem outcome_mailer (hw : w.InMemory) {o : Op} (keeps : o.Delivers = false) :
    (o.outcome w).2.mailer = w.mailer := by
  obtain ⟨_,_,_,_,_,_,eq,-,-,-,-,-,sent,-⟩ := outcome_shape hw o
  rw [eq,sent keeps]

theorem outcome_issued (hw : w.InMemory) {o : Op} (keeps : o.Issues = false) :
    (o.outcome w).2.issued = w.issued := by
  obtain ⟨_,_,_,_,_,_,eq,-,-,-,-,-,-,issued⟩ := outcome_shape hw o
  rw [eq]
  exact issued keeps

/-! Sample worlds, where the statements below are instantiated. -/

def sample : World :=
  { (default : World) with
    clock := 1000
    store := { (default : MemoryStore) with
      repositories := [{ (default : RepositoryRecord) with
        organizationNodeId := "N:organization:repo", repositoryId := 20, displayName := "Repo" }] }
    directory := { (default : World).directory with
      users := [⟨1, "N:user:1", "Ada", "Lovelace", "ada@example.org"⟩]
      organizations := [⟨7, "N:organization:publishing", "Publishing", "publishing"⟩]
      publishingOrganizationId := 7 } }

def sampleProposal : Proposal :=
  { Proposal.empty with
    userId := 1, nodeId := "N:proposal:1", ownerName := "Ada Lovelace",
    emailAddress := "ada@example.org", name := "Survey", repositoryId := 20,
    organizationNodeId := "N:organization:repo", status := .submitted, createdAt := 1000,
    updatedAt := 1000, submittedAt := 1000 }

def sampleSubmitted : World := { sample with store := { sample.store with proposals := [sampleProposal] } }

theorem sample_inMemory : sample.InMemory := ⟨rfl, rfl, rfl, rfl⟩

theorem sampleSubmitted_inMemory : sampleSubmitted.InMemory := sample_inMemory.withStore _

end World

namespace Script
open World
variable {w : World}

theorem follows (hw : w.InMemory) (s : Script α) : w.Follows (s.outcome w).2 :=
  (Everywhere.keeps (I := World.InMemory) (R := fun w w' => w.InMemory → w.Follows w')
    (fun _ hw => .refl hw) (fun first second hu => (first hu).trans (second (first hu).inMemory))
    (fun o _ hw _ => ⟨fun _ => outcome_follows hw o,(outcome_follows hw o).inMemory⟩)
    (Everywhere.of_forall (P := fun _ => True) (fun _ => trivial) s) hw).1 hw

theorem store_eq (hw : w.InMemory) {s : Script α} (calls : Everywhere (·.WritesStore = false) s) :
    (s.outcome w).2.store = w.store :=
  (Everywhere.keeps (I := World.InMemory) (R := fun w w' => w'.store = w.store) (fun _ => rfl)
    (fun first second => second.trans first)
    (fun _ _ hw keeps => ⟨outcome_store hw keeps,(outcome_follows hw _).inMemory⟩) calls hw).1

theorem directory_eq (hw : w.InMemory) {s : Script α} (calls : Everywhere (·.Provisions = false) s) :
    (s.outcome w).2.directory = w.directory :=
  (Everywhere.keeps (I := World.InMemory) (R := fun w w' => w'.directory = w.directory) (fun _ => rfl)
    (fun first second => second.trans first)
    (fun _ _ hw keeps => ⟨outcome_directory hw keeps,(outcome_follows hw _).inMemory⟩) calls hw).1

theorem mailer_eq (hw : w.InMemory) {s : Script α} (calls : Everywhere (·.Delivers = false) s) :
    (s.outcome w).2.mailer = w.mailer :=
  (Everywhere.keeps (I := World.InMemory) (R := fun w w' => w'.mailer = w.mailer) (fun _ => rfl)
    (fun first second => second.trans first)
    (fun _ _ hw keeps => ⟨outcome_mailer hw keeps,(outcome_follows hw _).inMemory⟩) calls hw).1

end Script

end DatasetProposals
