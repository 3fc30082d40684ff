import DatasetProposals.Proofs.FailedCalls
/-! Notification never changes a transition's outcome. Main statement:
`notification_never_changes_outcome`. -/
namespace DatasetProposals

namespace Transition

def call : Transition → Int → String → Service.Call
  | .submit, who, n => .submit who n
  | .withdraw, who, n => .withdraw who n
  | .accept, who, n => .accept who n
  | .reject, who, n => .reject who n

def persisted : Transition → Int → String → ServiceAct Proposal
  | .submit, who, n => Service.persistSubmit who n
  | .withdraw, who, n => Service.persistWithdraw who n
  | .accept, who, n => do return (← Service.persistAccept who n).1
  | .reject, who, n => Service.persistReject who n

end Transition

namespace Op

def ReadsSettings : Op → Bool
  | .settings => true
  | _ => false

theorem unconfigured_of_persists {o : Op} (persists : o.Persists = true) :
    o.ReadsSettings = false ∧ o.Delivers = false := by
  cases o <;> simp_all [Persists, ReadsSettings, Delivers]

end Op

namespace World

def reconfigured (w : World) (settings : Settings) (mailer : Mailer) : World :=
  { w with settings := settings, mailer := mailer }

variable {w : World} {settings : Settings} {mailer : Mailer}

@[simp] theorem reconfigured_store : (w.reconfigured settings mailer).store = w.store := rfl
@[simp] theorem reconfigured_directory : (w.reconfigured settings mailer).directory = w.directory := rfl
@[simp] theorem reconfigured_nextIssue : (w.reconfigured settings mailer).nextIssue = w.nextIssue := rfl

theorem InMemory.reconfigured (hw : w.InMemory) (settings : Settings) (mailer : Mailer) :
    (w.reconfigured settings mailer).InMemory :=
  ⟨hw.documents, hw.relational, hw.storeRules, hw.directoryRules⟩

theorem outcome_reconfigured (hw : w.InMemory) {o : Op} (reads : o.ReadsSettings = false)
    (delivers : o.Delivers = false) :
    o.outcome (w.reconfigured settings mailer) =
      ((o.outcome w).1, (o.outcome w).2.reconfigured settings mailer) := by
  have hw' := hw.reconfigured settings mailer
  cases o with
  | publishingInfo => rw [outcome_publishingInfo hw', outcome_publishingInfo hw]; rfl
  | repositories => rw [outcome_repositories hw', outcome_repositories hw]; rfl
  | questions => rw [outcome_questions hw', outcome_questions hw]; rfl
  | repository org => rw [outcome_repository hw', outcome_repository hw]; rfl
  | proposal u n => rw [outcome_proposal hw', outcome_proposal hw]; rfl
  | proposalsForUser u => rw [outcome_proposalsForUser hw', outcome_proposalsForUser hw]; rfl
  | proposalsForWorkspace org s =>
    rw [outcome_proposalsForWorkspace hw', outcome_proposalsForWorkspace hw]; rfl
  | proposalForRepository r s n =>
    rw [outcome_proposalForRepository hw', outcome_proposalForRepository hw]; rfl
  | create p =>
    rw [outcome_create hw', outcome_create hw, reconfigured_store]
    cases w.store.create p <;> rfl
  | updateIf p e =>
    rw [outcome_updateIf hw', outcome_updateIf hw, reconfigured_store]
    cases w.store.updateIf p e <;> rfl
  | delete k => rw [outcome_delete hw', outcome_delete hw]; rfl
  | proposalUser u => rw [outcome_proposalUser hw', outcome_proposalUser hw]; rfl
  | publishingTeam org => rw [outcome_publishingTeam hw', outcome_publishingTeam hw]; rfl
  | welcomeWorkspace => rw [outcome_welcomeWorkspace hw', outcome_welcomeWorkspace hw]; rfl
  | provision p =>
    rw [outcome_provision hw', outcome_provision hw, reconfigured_directory, reconfigured_nextIssue]
    cases w.directory.provision p ("N:dataset:" ++ candidateUuid w.nextIssue) <;> rfl
  | now => rfl
  | freshNodeId pre => rfl
  | settings => cases reads
  | deliver m => cases delivers

end World

namespace Script
open World
variable {w : World} {α : Type}

theorem outcome_reconfigured (hw : w.InMemory) {settings : Settings} {mailer : Mailer} {s : Script α}
    (calls : Everywhere (fun o => o.ReadsSettings = false ∧ o.Delivers = false) s) :
    s.outcome (w.reconfigured settings mailer) =
      ((s.outcome w).1, (s.outcome w).2.reconfigured settings mailer) := by
  induction calls generalizing w with
  | done a => rfl
  | @call o next here _ ih =>
    rw [outcome_call, outcome_call, World.outcome_reconfigured hw here.1 here.2]
    exact ih _ (outcome_follows hw o).inMemory

theorem clean_outcome (s : Script α) (clean : w.CleanFaults) : (s.outcome w).2.CleanFaults :=
  (Everywhere.keeps (I := CleanFaults) (R := fun _ _ => True) (fun _ => trivial)
    (fun _ _ => trivial) (fun o _ clean _ => ⟨trivial, (outcome_trace clean o).clean⟩)
    (Everywhere.of_forall (P := fun _ => True) (fun _ => trivial) s) clean).2

theorem keeps_of_calls {s : Script α}
    (calls : Everywhere (fun o => o.WritesStore = false ∧ o.Provisions = false) s)
    (clean : w.CleanFaults) : (s.outcome w).2.store = w.store ∧ (s.outcome w).2.directory = w.directory :=
  (Everywhere.keeps (I := CleanFaults)
    (R := fun u v => v.store = u.store ∧ v.directory = u.directory) (fun _ => ⟨rfl, rfl⟩)
    (fun first second => ⟨second.1.trans first.1, second.2.trans first.2⟩)
    (fun o _ clean keeps =>
      have trace := outcome_trace clean o
      ⟨⟨trace.store.resolve_right fun ⟨writes, _⟩ => Bool.false_ne_true (keeps.1.symm.trans writes),
        trace.directory.resolve_right fun ⟨provisions, _⟩ =>
          Bool.false_ne_true (keeps.2.symm.trans provisions)⟩, trace.clean⟩)
    calls clean).1

end Script

namespace ServiceAct
open Script

variable {α β : Type} {w w₁ w₂ : World}

/-- Runs of `x` from `w₁` and from `w₂` end alike: with the same result, the same document
store and the same directory. -/
def EndAlike (x : ServiceAct α) (w₁ w₂ : World) : Prop :=
  (x.run.outcome w₁).1 = (x.run.outcome w₂).1 ∧
    (x.run.outcome w₁).2.store = (x.run.outcome w₂).2.store ∧
    (x.run.outcome w₁).2.directory = (x.run.outcome w₂).2.directory

theorem outcome_notified (x : ServiceAct α) (view : α → β) {notice : α → Script Unit}
    (quiet : ∀ a, Everywhere (fun o => o.WritesStore = false ∧ o.Provisions = false) (notice a))
    (clean : w.CleanFaults) :
    Holds (x >>= fun a => (liftM (notice a) : ServiceAct Unit) >>= fun _ => pure (view a))
      (fun r w' => r = (x.run.outcome w).1.map view ∧ w'.store = (x.run.outcome w).2.store ∧
        w'.directory = (x.run.outcome w).2.directory) w := by
  rw [holds_bind, holds_iff]
  have after := clean_outcome x.run clean
  -- split the run where the persisting part ends
  generalize x.run.outcome w = persisted at after ⊢
  obtain ⟨r, w'⟩ := persisted
  cases r with
  | error e => exact ⟨rfl, rfl, rfl⟩
  | ok a =>
    dsimp only
    rw [holds_bind, holds_lift]
    obtain ⟨store, directory⟩ := keeps_of_calls (quiet a) after
    exact ⟨rfl, store, directory⟩

theorem outcome_map (x : ServiceAct α) (view : α → β) (w : World) :
    Holds (x >>= fun a => pure (view a)) (fun r w' => r = (x.run.outcome w).1.map view ∧
      w' = (x.run.outcome w).2) w := by
  rw [holds_bind, holds_iff]
  generalize x.run.outcome w = persisted
  obtain ⟨r, w'⟩ := persisted
  cases r with
  | error e => exact ⟨rfl, rfl⟩
  | ok a => exact ⟨rfl, rfl⟩

theorem EndAlike.notified {x : ServiceAct α} {notice : α → Script Unit} {view : α → β}
    (quiet : ∀ a, Everywhere (fun o => o.WritesStore = false ∧ o.Provisions = false) (notice a))
    (clean₁ : w₁.CleanFaults) (clean₂ : w₂.CleanFaults) (persisting : x.EndAlike w₁ w₂) :
    (x >>= fun a => (liftM (notice a) : ServiceAct Unit) >>= fun _ => pure (view a)).EndAlike
      w₁ w₂ := by
  obtain ⟨result₁, store₁, directory₁⟩ := outcome_notified x view quiet clean₁
  obtain ⟨result₂, store₂, directory₂⟩ := outcome_notified x view quiet clean₂
  obtain ⟨result, store, directory⟩ := persisting
  exact ⟨by rw [result₁, result₂, result], by rw [store₁, store₂, store],
    by rw [directory₁, directory₂, directory]⟩

end ServiceAct

namespace Service
open Script ServiceAct

theorem acceptProposal_endAlike {r : Int} {n : String} {w₁ w₂ : World} (clean₁ : w₁.CleanFaults)
    (clean₂ : w₂.CleanFaults) (persisting : (Transition.persisted .accept r n).EndAlike w₁ w₂) :
    (acceptProposal r n).EndAlike w₁ w₂ := by
  have notices (a : Proposal × String) := notifyOwner_calls .accepted a.1 a.2
  obtain ⟨result₁, store₁, directory₁⟩ :=
    outcome_notified (persistAccept r n) (fun a => a.1.toDto) notices clean₁
  obtain ⟨result₂, store₂, directory₂⟩ :=
    outcome_notified (persistAccept r n) (fun a => a.1.toDto) notices clean₂
  obtain ⟨written₁, world₁⟩ := outcome_map (persistAccept r n) (·.1) w₁
  obtain ⟨written₂, world₂⟩ := outcome_map (persistAccept r n) (·.1) w₂
  have unfolded : Transition.persisted .accept r n = (persistAccept r n >>= fun a => pure a.1) := rfl
  rw [unfolded] at persisting
  obtain ⟨result, store, directory⟩ := persisting
  rw [written₁, written₂] at result
  rw [world₁, world₂] at store directory
  -- the record's view is a function of the record written
  have viewed : ((persistAccept r n).run.outcome w₁).1.map (fun a => a.1.toDto) =
      ((persistAccept r n).run.outcome w₂).1.map (fun a => a.1.toDto) := by
    generalize ((persistAccept r n).run.outcome w₁).1 = a₁ at result ⊢
    generalize ((persistAccept r n).run.outcome w₂).1 = a₂ at result ⊢
    cases a₁ <;> cases a₂ <;> simp_all [Except.map]
  exact ⟨result₁.trans (viewed.trans result₂.symm), store₁.trans (store.trans store₂.symm),
    directory₁.trans (directory.trans directory₂.symm)⟩

/-- Notification never changes a transition's outcome: two runs of a transition call from
worlds on the in-memory backends whose faults are clean, whose persisting parts end alike, end
alike, whatever their notification steps meet. -/
theorem notification_never_changes_outcome (t : Transition) (who : Int) (n : String)
    (w₁ w₂ : World) (clean₁ : w₁.CleanFaults) (clean₂ : w₂.CleanFaults)
    (persisting : (t.persisted who n).EndAlike w₁ w₂) : (t.call who n).act.EndAlike w₁ w₂ := by
  cases t with
  | submit => exact persisting.notified (fun p => notifyTeam_calls .submitted p) clean₁ clean₂
  | withdraw => exact persisting.notified (fun p => notifyTeam_calls .withdrawn p) clean₁ clean₂
  | accept => exact acceptProposal_endAlike clean₁ clean₂ persisting
  | reject =>
    exact persisting.notified (fun p => notifyOwner_calls .rejected p p.organizationNodeId)
      clean₁ clean₂

/-! The persisting parts read no settings and hand no mail over, so the templates, the sender,
the timeout and the transport never reach them. -/

theorem persisted_unconfigured (t : Transition) (who : Int) (n : String) :
    Everywhere (fun o => o.ReadsSettings = false ∧ o.Delivers = false) (t.persisted who n).run := by
  have persists : Everywhere (·.Persists = true) (t.persisted who n).run := by
    cases t with
    | submit => exact persistSubmit_persists who n
    | withdraw => exact persistWithdraw_persists who n
    | accept => exact everywhere_bind (persistAccept_persists who n) fun _ => .done _
    | reject => exact persistReject_persists who n
  exact persists.mono fun _ => Op.unconfigured_of_persists

theorem persisted_endAlike_reconfigured (t : Transition) (who : Int) (n : String) {w : World}
    (hw : w.InMemory) (settings : Settings) (mailer : Mailer) :
    (t.persisted who n).EndAlike w (w.reconfigured settings mailer) := by
  have same : (t.persisted who n).run.outcome (w.reconfigured settings mailer) =
      (((t.persisted who n).run.outcome w).1, ((t.persisted who n).run.outcome w).2.reconfigured
        settings mailer) :=
    Script.outcome_reconfigured hw (persisted_unconfigured t who n)
  exact ⟨by rw [same], by rw [same, World.reconfigured_store],
    by rw [same, World.reconfigured_directory]⟩

def draftWorld : World :=
  { (default : World) with
    store := { (default : MemoryStore) with
      repositories := [{ (default : RepositoryRecord) with
        organizationNodeId := "N:organization:repo", repositoryId := 20, displayName := "Repo" }],
      proposals := [{ Proposal.empty with
        userId := 1, nodeId := "N:proposal:1", organizationNodeId := "N:organization:repo",
        emailAddress := "ada@example.org", name := "Study" }] }
    directory := { (default : MemoryDirectory) with
      publishers := [{ (default : Publisher) with
        workspaceNodeId := "N:organization:repo", emailAddress := "pat@example.org" }] } }

def mutedWorld : World :=
  draftWorld.reconfigured { draftWorld.settings with templates := .given [] }
    { draftWorld.mailer with failing := true }

theorem draftWorld_inMemory : draftWorld.InMemory := ⟨rfl, rfl, rfl, rfl⟩

/-- Submitting the draft ends alike whether its notification is sent or finds no template and a
failing sender. -/
theorem submit_ends_alike_when_muted :
    draftWorld.CleanFaults ∧ mutedWorld.CleanFaults ∧
      (Transition.persisted .submit 1 "N:proposal:1").EndAlike draftWorld mutedWorld ∧
      (Transition.call .submit 1 "N:proposal:1").act.EndAlike draftWorld mutedWorld :=
  have clean : draftWorld.CleanFaults := ⟨⟨rfl, rfl⟩, fun _ mem => nomatch mem⟩
  have muted : mutedWorld.CleanFaults := ⟨⟨rfl, rfl⟩, fun _ mem => nomatch mem⟩
  have persisting := persisted_endAlike_reconfigured .submit 1 "N:proposal:1" draftWorld_inMemory
    { draftWorld.settings with templates := .given [] } { draftWorld.mailer with failing := true }
  ⟨clean, muted, persisting,
    notification_never_changes_outcome .submit 1 "N:proposal:1" draftWorld mutedWorld clean muted
      persisting⟩

end Service

end DatasetProposals
