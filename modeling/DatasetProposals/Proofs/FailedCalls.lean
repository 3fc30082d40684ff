import Mathlib.Control.Monad.Basic
import DatasetProposals.Proofs.CallShape
import DatasetProposals.Proofs.Provisioning
/-! Failed calls leave no trace, one lemma per call (`World.Trace`) combined with the shapes of
the operations. Main statement: `failed_call_leaves_no_trace`. -/
namespace DatasetProposals
namespace World

/-- The service runs on the in-memory backends, and every store fault rule answers its error
without performing the write it refuses. -/
structure CleanFaults (w : World) : Prop where
  onMemory : w.OnMemory
  inert : ∀ r ∈ w.storeFaults.rules, r.apply = false

variable {w w' : World}

theorem CleanFaults.of_eq (clean : w.CleanFaults) (documents : w'.documents = w.documents)
    (relational : w'.relational = w.relational) (rules : w'.storeFaults.rules = w.storeFaults.rules) :
    w'.CleanFaults :=
  ⟨⟨documents.trans clean.onMemory.documents,relational.trans clean.onMemory.relational⟩,
    rules ▸ clean.inert⟩

/-- `w'` holds the proposals, the directory and the mail of `w`. -/
structure Unchanged (w w' : World) : Prop where
  store : w'.store = w.store
  directory : w'.directory = w.directory
  mailer : w'.mailer = w.mailer

theorem Unchanged.refl (w : World) : Unchanged w w := ⟨rfl,rfl,rfl⟩

theorem Unchanged.trans {u v w : World} (first : Unchanged u v) (second : Unchanged v w) :
    Unchanged u w :=
  ⟨second.store.trans first.store,second.directory.trans first.directory,
    second.mailer.trans first.mailer⟩

/-! Calls through the fault plans. A hit call's answer is the rule's; what each call can do to
the world is the same whether or not a rule hits it. -/

theorem storeHit_run (m : StoreMethod) :
    (storeHit m).run w = ((w.storeFaults.hit m).1, w.countStore m) := rfl

theorem directoryHit_run (m : DirectoryMethod) :
    (directoryHit m).run w = ((w.directoryFaults.hit m).1, w.countDirectory m) := rfl

theorem act_bind_run (x : Id (α × World)) (f : α × World → Id (β × World)) :
    x >>= f = f x := rfl

theorem faultyListRead_world (hw : w.OnMemory) (m : StoreMethod)
    (onServer : DocumentCall DocumentServer (Except StorageError (List α)))
    (f : MemoryStore → Except StorageError (List α))
    (mangle : α → α) (extra : List α) :
    ((faultyListRead m (storeCall onServer (reading f)) mangle extra).run w).2 = w.countStore m := by
  simp only [faultyListRead,StateT.run_bind,storeHit_run,act_bind_run,
    storeCall_reading (w := w.countStore m) ⟨hw.documents,hw.relational⟩]
  repeat' split
  all_goals rfl

theorem faultyRecordRead_world (hw : w.OnMemory) (m : StoreMethod)
    (onServer : DocumentCall DocumentServer (Except StorageError α)) (f : MemoryStore → Except StorageError α)
    (mangle : α → α) (phantomAnswer : Option α) :
    ((faultyRecordRead m (storeCall onServer (reading f)) mangle phantomAnswer).run w).2 =
      w.countStore m := by
  simp only [faultyRecordRead,StateT.run_bind,storeHit_run,act_bind_run,
    storeCall_reading (w := w.countStore m) ⟨hw.documents,hw.relational⟩]
  repeat' split
  all_goals rfl

theorem repository_world (hw : w.OnMemory) (org : String) :
    ((World.repository org).run w).2 = w.countStore .repository := by
  have reached : ((rawRepository org).run (w.countStore .repository)).2 = w.countStore .repository := by
    simp only [rawRepository,storeCall_reading (w := w.countStore .repository) ⟨hw.documents,hw.relational⟩]
  simp only [World.repository,StateT.run_bind,storeHit_run,act_bind_run]
  cases (w.storeFaults.hit .repository).1 with
  | none => exact reached
  | some r =>
    dsimp only
    cases injectedStorageError r plainDefaults with
    | some e => rfl
    | none =>
      cases r.effect with
      | skip => rfl
      | _ => exact reached

/-- From `w`, the write `a` leaves `w'` but for the proposals, and changes them only when it
answers success. -/
def WritesOnly (a : Act (Except StorageError Unit)) (w w' : World) : Prop :=
  ∃ s, (a.run w).2 = { w' with store := s } ∧ (s = w.store ∨ (a.run w).1 = .ok ())

theorem writesOnly_storeCall (hw : w.OnMemory) (onServer : DocumentCall DocumentServer (Except StorageError Unit))
    (f : MemoryStore → Except StorageError MemoryStore) :
    WritesOnly (storeCall onServer (writing f)) w w := by
  unfold WritesOnly
  rw [storeCall_writing hw]
  cases f w.store with
  | ok s => exact ⟨s,rfl,.inr rfl⟩
  | error e => exact ⟨w.store,rfl,.inl rfl⟩

theorem writesOnly_ok : WritesOnly (pure (.ok ())) w w := ⟨w.store,rfl,.inl rfl⟩

theorem writesOnly_replace (hw : w.OnMemory) (p : Proposal) : WritesOnly (rawReplace p) w w := by
  have recreated : (w.store.delete p.key).create p = .ok ((w.store.delete p.key).put p) :=
    MemoryStore.create_eq_ok.mpr ⟨by simp,rfl⟩
  refine ⟨(w.store.delete p.key).put p,?_,.inr ?_⟩
  all_goals
    simp only [rawReplace,rawDelete,rawCreate,StateT.run_bind,storeCall_writing hw,act_bind_run]
    rw [storeCall_writing (w := { w with store := w.store.delete p.key }) ⟨hw.documents,hw.relational⟩,
      recreated]

theorem writesOnly_faultyWrite (clean : w.CleanFaults) (m : StoreMethod) (defaults : Int × String × Status)
    {real unconditional mangle applied : Act (Except StorageError Unit)}
    (realOnly : WritesOnly real (w.countStore m) (w.countStore m))
    (unconditionalOnly : WritesOnly unconditional (w.countStore m) (w.countStore m))
    (mangleOnly : WritesOnly mangle (w.countStore m) (w.countStore m)) :
    WritesOnly (faultyWrite m defaults real unconditional mangle applied) w (w.countStore m) := by
  unfold WritesOnly
  simp only [faultyWrite,StateT.run_bind,storeHit_run,act_bind_run]
  cases hit : (w.storeFaults.hit m).1 with
  | none => exact realOnly
  | some r =>
    have inert : r.apply = false := clean.inert r (List.mem_of_find?_eq_some hit)
    dsimp only
    cases injectedStorageError r defaults with
    | some e =>
      dsimp only
      rw [inert]
      exact ⟨w.store,rfl,.inl rfl⟩
    | none =>
      dsimp only
      cases r.effect with
      | skip => exact ⟨w.store,rfl,.inr rfl⟩
      | unconditional => exact unconditionalOnly
      | mangle => exact mangleOnly
      | _ => exact realOnly

theorem faultyDirectory_world (m : DirectoryMethod) (real : Act (Except DirectoryError α))
    (skipped : Option α) (keeps : (real.run (w.countDirectory m)).2 = w.countDirectory m) :
    ((faultyDirectory m real skipped).run w).2 = w.countDirectory m := by
  simp only [faultyDirectory,StateT.run_bind,directoryHit_run,act_bind_run]
  cases (w.directoryFaults.hit m).1 with
  | none => exact keeps
  | some r =>
    dsimp only
    split <;> rfl

theorem provision_run_cases (p : Proposal) :
    (∃ e, (World.provision p).run w = (.error e, w.countDirectory .provision)) ∨
      (World.provision p).run w = (rawProvision p).run (w.countDirectory .provision) := by
  simp only [World.provision,faultyDirectory,StateT.run_bind,directoryHit_run,act_bind_run]
  cases (w.directoryFaults.hit .provision).1 with
  | none => exact .inr rfl
  | some r =>
    dsimp only
    -- no rule can skip provisioning: there is no answer to skip to
    cases r.effect <;> exact .inl ⟨_,rfl⟩

/-- What one call can leave behind on a world whose faults are clean: the faults stay clean;
the proposals change only by a write that succeeded, the directory only by a provisioning that
succeeded, and the mail only by a delivery. -/
structure Trace (o : Op) (w : World) (b : o.Answer) (w' : World) : Prop where
  clean : w'.CleanFaults
  store : w'.store = w.store ∨ o.WritesStore = true ∧ o.writeError b = none
  directory : w'.directory = w.directory ∨ o.Provisions = true ∧ o.provisionFailed b = false ∧
    ∃ p nodeId created, w.directory.provision p nodeId = .ok (created, w'.directory)
  mailer : w'.mailer = w.mailer ∨ o.Delivers = true

theorem Trace.frame {o : Op} {b : o.Answer} (clean : w.CleanFaults)
    (documents : w'.documents = w.documents) (relational : w'.relational = w.relational)
    (rules : w'.storeFaults.rules = w.storeFaults.rules) (store : w'.store = w.store)
    (directory : w'.directory = w.directory) (mailer : w'.mailer = w.mailer) : Trace o w b w' :=
  ⟨clean.of_eq documents relational rules,.inl store,.inl directory,.inl mailer⟩

theorem Trace.write (clean : w.CleanFaults) (m : StoreMethod) {o : Op} (writes : o.WritesStore = true)
    (s : MemoryStore) (world : (o.outcome w).2 = { w.countStore m with store := s })
    (changed : s = w.store ∨ o.writeError (o.outcome w).1 = none) :
    Trace o w (o.outcome w).1 (o.outcome w).2 := by
  rw [world]
  refine ⟨clean.of_eq rfl rfl rfl,?_,.inl rfl,.inl rfl⟩
  rcases changed with same | succeeded
  · exact .inl same
  · exact .inr ⟨writes,succeeded⟩

theorem outcome_trace (clean : w.CleanFaults) (o : Op) : Trace o w (o.outcome w).1 (o.outcome w).2 := by
  have counted (m : StoreMethod) : (w.countStore m).OnMemory :=
    ⟨clean.onMemory.documents,clean.onMemory.relational⟩
  have countedDirectory (m : DirectoryMethod) : (w.countDirectory m).OnMemory :=
    ⟨clean.onMemory.documents,clean.onMemory.relational⟩
  have storeRead {m : StoreMethod} (world : (o.outcome w).2 = w.countStore m) :
      Trace o w (o.outcome w).1 (o.outcome w).2 := by
    rw [world]
    exact .frame clean rfl rfl rfl rfl rfl rfl
  have directoryRead {m : DirectoryMethod} (world : (o.outcome w).2 = w.countDirectory m) :
      Trace o w (o.outcome w).1 (o.outcome w).2 := by
    rw [world]
    exact .frame clean rfl rfl rfl rfl rfl rfl
  cases o with
  | publishingInfo => exact storeRead (faultyListRead_world clean.onMemory _ _ _ _ _)
  | repositories => exact storeRead (faultyListRead_world clean.onMemory _ _ _ _ _)
  | questions => exact storeRead (faultyListRead_world clean.onMemory _ _ _ _ _)
  | repository org => exact storeRead (repository_world clean.onMemory org)
  | proposal u n => exact storeRead (faultyRecordRead_world clean.onMemory _ _ _ _ _)
  | proposalsForUser u => exact storeRead (faultyListRead_world clean.onMemory _ _ _ _ _)
  | proposalsForWorkspace org s => exact storeRead (faultyListRead_world clean.onMemory _ _ _ _ _)
  | proposalForRepository r s n => exact storeRead (faultyRecordRead_world clean.onMemory _ _ _ _ _)
  | create p =>
    have only : WritesOnly (World.create p) w (w.countStore .create) :=
      writesOnly_faultyWrite clean .create plainDefaults (writesOnly_storeCall (counted _) _ _)
        (writesOnly_replace (counted _) p) (writesOnly_storeCall (counted _) _ _)
    obtain ⟨s,world,changed⟩ := only
    exact .write clean .create rfl s world (changed.imp_right fun succeeded =>
      show Op.writeError (.create p) ((World.create p).run w).1 = none by
        rw [succeeded]; rfl)
  | updateIf p e =>
    have only : WritesOnly (World.updateIf p e) w (w.countStore .updateIf) :=
      writesOnly_faultyWrite clean .updateIf _ (writesOnly_storeCall (counted _) _ _)
        (writesOnly_storeCall (counted _) _ _) (writesOnly_storeCall (counted _) _ _)
    obtain ⟨s,world,changed⟩ := only
    exact .write clean .updateIf rfl s world (changed.imp_right fun succeeded =>
      show Op.writeError (.updateIf p e) ((World.updateIf p e).run w).1 = none by
        rw [succeeded]; rfl)
  | delete k =>
    have only : WritesOnly (World.delete k) w (w.countStore .delete) :=
      writesOnly_faultyWrite clean .delete plainDefaults (writesOnly_storeCall (counted _) _ _)
        writesOnly_ok writesOnly_ok
    obtain ⟨s,world,changed⟩ := only
    exact .write clean .delete rfl s world (changed.imp_right fun succeeded =>
      show Op.writeError (.delete k) ((World.delete k).run w).1 = none by
        rw [succeeded]; rfl)
  | proposalUser u =>
    exact directoryRead (faultyDirectory_world _ _ _
      (congrArg Prod.snd (directoryCall_memory (countedDirectory _) _ (·.proposalUser u))))
  | publishingTeam org =>
    exact directoryRead (faultyDirectory_world _ _ _
      (congrArg Prod.snd (directoryCall_memory (countedDirectory _) _ fun d => .ok (d.publishingTeam org))))
  | welcomeWorkspace =>
    exact directoryRead (faultyDirectory_world _ _ _
      (congrArg Prod.snd (directoryCall_memory (countedDirectory _) _ (·.welcomeWorkspace))))
  | provision p =>
    show Trace (.provision p) w ((World.provision p).run w).1 ((World.provision p).run w).2
    rcases provision_run_cases (w := w) p with ⟨e,refused⟩ | reached
    · rw [refused]
      exact .frame clean rfl rfl rfl rfl rfl rfl
    · rw [reached,rawProvision_run (countedDirectory _)]
      cases provided : (w.countDirectory .provision).directory.provision p
          ("N:dataset:" ++ candidateUuid (w.countDirectory .provision).nextIssue) with
      | ok result =>
        exact ⟨clean.of_eq rfl rfl rfl,.inl rfl,.inr ⟨rfl,rfl,p,_,result.1,provided⟩,.inl rfl⟩
      | error e => exact .frame clean rfl rfl rfl rfl rfl rfl
  | now => exact .frame clean rfl rfl rfl rfl rfl rfl
  | freshNodeId pre => exact .frame clean rfl rfl rfl rfl rfl rfl
  | settings => exact .frame clean rfl rfl rfl rfl rfl rfl
  | deliver m =>
    rcases outcome_deliver (w := w) m with same | recorded
    · rw [same]
      exact .frame clean rfl rfl rfl rfl rfl rfl
    · rw [recorded]
      exact ⟨clean.of_eq rfl rfl rfl,.inl rfl,.inl rfl,.inr rfl⟩

theorem Trace.unchanged {o : Op} {b : o.Answer} (trace : Trace o w b w') (quiet : o.Quiet = true) :
    Unchanged w w' where
  store := trace.store.resolve_right fun ⟨writes,_⟩ =>
    Bool.false_ne_true ((Op.Quiet.writesStore quiet).symm.trans writes)
  directory := trace.directory.resolve_right fun ⟨provisions,_⟩ =>
    Bool.false_ne_true ((Op.Quiet.provisions quiet).symm.trans provisions)
  mailer := trace.mailer.resolve_right fun delivers =>
    Bool.false_ne_true ((Op.Quiet.delivers quiet).symm.trans delivers)

theorem Trace.unchanged_of_writeError {o : Op} {b : o.Answer} (trace : Trace o w b w')
    (writes : o.WritesStore = true) {e : StorageError} (refused : o.writeError b = some e) :
    Unchanged w w' := by
  refine ⟨trace.store.resolve_right fun ⟨_,succeeded⟩ => ?_,
    trace.directory.resolve_right fun ⟨provisions,_⟩ => ?_,
    trace.mailer.resolve_right fun delivers => ?_⟩
  · rw [refused] at succeeded
    cases succeeded
  · exact Bool.false_ne_true ((Op.WritesStore.provisions writes).symm.trans provisions)
  · exact Bool.false_ne_true ((Op.WritesStore.delivers writes).symm.trans delivers)

end World

namespace Script
open World
variable {w : World} {ε α : Type} {A : Op → Prop} {fail : StorageError → ε}

theorem Settles.outcome_ok {s : Script (Except ε α)} (settles : Settles s) (w : World) :
    ∃ a, (s.outcome w).1 = .ok a := by
  induction settles generalizing w with
  | done a => exact ⟨a,rfl⟩
  | call _ _ _ ih => exact ih _ _

theorem unchanged_of_quiet {s : Script α} (calls : Everywhere (·.Quiet = true) s)
    (clean : w.CleanFaults) : Unchanged w (s.outcome w).2 :=
  (Everywhere.keeps (I := CleanFaults) (R := Unchanged) Unchanged.refl Unchanged.trans
    (fun o _ clean quiet => ⟨(outcome_trace clean o).unchanged quiet,(outcome_trace clean o).clean⟩)
    calls clean).1

theorem Finishes.unchanged_of_error {s : Script (Except ε α)} (finishes : Finishes A fail s)
    (clean : w.CleanFaults) {e : ε} (failed : (s.outcome w).1 = .error e) :
    Unchanged w (s.outcome w).2 ∧ ∃ se, e = fail se := by
  induction finishes generalizing w with
  | @quiet o next quiet _ ih =>
    rw [outcome_call] at failed ⊢
    have trace := outcome_trace clean o
    obtain ⟨rest,failure⟩ := ih _ trace.clean failed
    exact ⟨(trace.unchanged quiet).trans rest,failure⟩
  | @write o next writes _ refused succeeded =>
    rw [outcome_call] at failed ⊢
    have trace := outcome_trace clean o
    cases written : o.writeError (o.outcome w).1 with
    | none =>
      -- after a successful write the run settles, so it cannot end in an error
      obtain ⟨a,ok⟩ := (succeeded _ written).outcome_ok (o.outcome w).2
      rw [ok] at failed
      cases failed
    | some se =>
      rw [refused _ _ written] at failed ⊢
      cases failed
      exact ⟨trace.unchanged_of_writeError writes written,se,rfl⟩

theorem Commits.unchanged_of_error {s : Script (Except ε α)} {once : Bool}
    (commits : Commits A fail once s) (clean : w.CleanFaults) {e : ε}
    (failed : (s.outcome w).1 = .error e) :
    (s.outcome w).2.store = w.store ∧ (s.outcome w).2.mailer = w.mailer ∧
      ((s.outcome w).2.directory = w.directory ∨
        once = true ∧ (∃ se, e = fail se) ∧
          ∃ user dataset, w.directory.Provisioned (s.outcome w).2.directory user dataset) := by
  induction commits generalizing w with
  | refuse e' => exact ⟨rfl,rfl,.inl rfl⟩
  | @quiet _ o next quiet _ ih =>
    rw [outcome_call] at failed ⊢
    have trace := outcome_trace clean o
    have first := trace.unchanged quiet
    obtain ⟨store,mailer,directory⟩ := ih _ trace.clean failed
    refine ⟨store.trans first.store,mailer.trans first.mailer,?_⟩
    rw [← first.directory]
    exact directory
  | @provision p next refused succeeded =>
    rw [outcome_call] at failed ⊢
    have trace := outcome_trace clean (.provision p)
    have store := trace.store.resolve_right fun ⟨writes,_⟩ => Bool.false_ne_true writes
    have mailer := trace.mailer.resolve_right Bool.false_ne_true
    cases provisioned : (Op.provision p).provisionFailed ((Op.provision p).outcome w).1 with
    | true =>
      obtain ⟨e',stopped⟩ := refused _ provisioned
      rw [stopped] at failed ⊢
      have directory := trace.directory.resolve_right fun ⟨_,succeeded,_⟩ =>
        Bool.false_ne_true (succeeded.symm.trans provisioned)
      exact ⟨store,mailer,.inl directory⟩
    | false =>
      obtain ⟨rest,failure⟩ := (succeeded _ provisioned).unchanged_of_error trace.clean failed
      refine ⟨rest.store.trans store,rest.mailer.trans mailer,?_⟩
      rw [rest.directory]
      rcases trace.directory with same | ⟨-,-,p',nodeId,created,made⟩
      · exact .inl same
      · exact .inr ⟨rfl,failure,created.user,created.dataset,
          (MemoryDirectory.provision_eq_ok made).2.2.2.2.2⟩
  | finish finishes =>
    obtain ⟨rest,-⟩ := finishes.unchanged_of_error clean failed
    exact ⟨rest.store,rest.mailer,.inl rest.directory⟩

end Script

namespace Service
open World

/-- A service call that answers an error leaves the proposals and the sent mail exactly as they
were. It leaves the directory as it was too, except for an acceptance whose error is that of
its final write: its provisioning had succeeded, and the directory holds the records of that
one provisioning more. -/
theorem failed_call_leaves_no_trace (w : World) (clean : w.CleanFaults) (c : Call) (e : ServiceError)
    (failed : (c.act.run.outcome w).1 = .error e) :
    (c.act.run.outcome w).2.store = w.store ∧ (c.act.run.outcome w).2.mailer = w.mailer ∧
      ((c.act.run.outcome w).2.directory = w.directory ∨
        (∃ r n, c = .accept r n) ∧ (∃ se, e = ServiceError.ofStorage c.operation se) ∧
          ∃ user dataset, w.directory.Provisioned (c.act.run.outcome w).2.directory user dataset) := by
  cases reads : c.readOnly with
  | true =>
    have kept := Script.unchanged_of_quiet ((c.observes reads).mono fun _ => Op.Observes.quiet) clean
    exact ⟨kept.store,kept.mailer,.inl kept.directory⟩
  | false =>
    obtain ⟨store,mailer,directory⟩ := (c.commits reads).unchanged_of_error clean failed
    exact ⟨store,mailer,directory.imp_right fun ⟨provisions,failure,provisioned⟩ =>
      ⟨Call.accept_of_provisions provisions,failure,provisioned⟩⟩

def conflictingWorld : World :=
  { World.sampleSubmitted with
    storeFaults := ⟨[⟨.updateIf, .conflict, 0, none, none, none, none, none, false⟩], []⟩ }

/-- Submitting a proposal that does not exist fails and leaves the world as it was. An acceptance
whose final write meets a conflict fails after provisioning: it leaves the proposals and the
mail, and the directory holds the one dataset provisioned. -/
theorem failed_submit_and_accept_leave_no_trace :
    ((default : World).CleanFaults ∧
      ((Call.submit 1 "N:proposal:1").act.run.outcome default).1 =
        .error (.notFound "submit dataset proposal" "dataset proposal 1/N:proposal:1") ∧
      ((Call.submit 1 "N:proposal:1").act.run.outcome default).2.store = (default : World).store ∧
      ((Call.submit 1 "N:proposal:1").act.run.outcome default).2.mailer = (default : World).mailer ∧
      (((Call.submit 1 "N:proposal:1").act.run.outcome default).2.directory = (default : World).directory ∨
        (∃ r n, (Call.submit 1 "N:proposal:1") = .accept r n) ∧
          (∃ se, ServiceError.notFound "submit dataset proposal" "dataset proposal 1/N:proposal:1" =
            ServiceError.ofStorage (Call.submit 1 "N:proposal:1").operation se) ∧
          ∃ user dataset, (default : World).directory.Provisioned
            ((Call.submit 1 "N:proposal:1").act.run.outcome default).2.directory user dataset)) ∧
    (conflictingWorld.CleanFaults ∧
      ((Call.accept 20 "N:proposal:1").act.run.outcome conflictingWorld).2.directory.datasets.map (·.name) = ["Survey"] ∧
      ∃ e, ((Call.accept 20 "N:proposal:1").act.run.outcome conflictingWorld).1 = .error e ∧
        e.message = "accept dataset proposal: proposal N:proposal:1 was modified concurrently" ∧
        ((Call.accept 20 "N:proposal:1").act.run.outcome conflictingWorld).2.store = conflictingWorld.store ∧
        ((Call.accept 20 "N:proposal:1").act.run.outcome conflictingWorld).2.mailer = conflictingWorld.mailer ∧
        (((Call.accept 20 "N:proposal:1").act.run.outcome conflictingWorld).2.directory = conflictingWorld.directory ∨
          (∃ r n, (Call.accept 20 "N:proposal:1") = .accept r n) ∧ (∃ se, e = ServiceError.ofStorage (Call.accept 20 "N:proposal:1").operation se) ∧
            ∃ user dataset, conflictingWorld.directory.Provisioned
              ((Call.accept 20 "N:proposal:1").act.run.outcome conflictingWorld).2.directory user dataset)) := by
  have clean : (default : World).CleanFaults := ⟨⟨rfl,rfl⟩,fun _ member => by cases member⟩
  have missing : ((Call.submit 1 "N:proposal:1").act.run.outcome default).1 =
      .error (.notFound "submit dataset proposal" "dataset proposal 1/N:proposal:1") := rfl
  have inert : conflictingWorld.CleanFaults := ⟨⟨rfl,rfl⟩,fun _ member => by
    rw [List.mem_singleton.mp member]⟩
  -- the answer is too large to compare whole: its message is compared, then the error named
  have refused : (((Call.accept 20 "N:proposal:1").act.run.outcome conflictingWorld).1.map (fun _ => ())).mapError
      ServiceError.message = .error "accept dataset proposal: proposal N:proposal:1 was modified concurrently" := by
    decide +kernel
  obtain ⟨e, failed, message⟩ : ∃ e, ((Call.accept 20 "N:proposal:1").act.run.outcome conflictingWorld).1 = .error e ∧
      e.message = "accept dataset proposal: proposal N:proposal:1 was modified concurrently" := by
    generalize ((Call.accept 20 "N:proposal:1").act.run.outcome conflictingWorld).1 = answer at refused ⊢
    cases answer with
    | error e => exact ⟨e, rfl, Except.error.inj refused⟩
    | ok a => cases refused
  exact ⟨⟨clean,missing,failed_call_leaves_no_trace default clean _ _ missing⟩,
    inert,by decide +kernel,e,failed,message,failed_call_leaves_no_trace conflictingWorld inert _ _ failed⟩

end Service
end DatasetProposals
