import DatasetProposals.Proofs.MemoryWorld
import DatasetProposals.Service.Operations
/-! The shape of each operation's script, read off its text whatever its calls answer: quiet
calls, then one allowed write, after which nothing fails. -/
namespace DatasetProposals

namespace Op

def Observes : Op → Bool
  | .publishingInfo | .repositories | .questions | .repository _ | .proposal _ _
  | .proposalsForUser _ | .proposalsForWorkspace _ _ | .proposalForRepository _ _ _
  | .proposalUser _ | .publishingTeam _ | .welcomeWorkspace | .now | .settings => true
  | _ => false

def Quiet : Op → Bool
  | .freshNodeId _ => true
  | o => o.Observes

def Persists : Op → Bool
  | .proposal _ _ | .repository _ | .proposalForRepository _ _ _ | .now | .provision _
  | .updateIf _ _ => true
  | _ => false

def writeError : (o : Op) → o.Answer → Option StorageError
  | .create _, .error e | .updateIf _ _, .error e | .delete _, .error e => some e
  | _, _ => none

def provisionFailed : (o : Op) → o.Answer → Bool
  | .provision _, .error _ => true
  | _, _ => false

theorem Quiet.writesStore {o : Op} (quiet : o.Quiet = true) : o.WritesStore = false := by
  cases o <;> simp_all [Quiet, Observes, WritesStore]

theorem Quiet.provisions {o : Op} (quiet : o.Quiet = true) : o.Provisions = false := by
  cases o <;> simp_all [Quiet, Observes, Provisions]

theorem Quiet.delivers {o : Op} (quiet : o.Quiet = true) : o.Delivers = false := by
  cases o <;> simp_all [Quiet, Observes, Delivers]

theorem Persists.delivers {o : Op} (persists : o.Persists = true) : o.Delivers = false := by
  cases o <;> simp_all [Persists, Delivers]

theorem Observes.quiet {o : Op} (observes : o.Observes = true) : o.Quiet = true := by
  cases o <;> simp_all [Quiet]

theorem WritesStore.provisions {o : Op} (writes : o.WritesStore = true) : o.Provisions = false := by
  cases o <;> simp_all [WritesStore, Provisions]

theorem WritesStore.delivers {o : Op} (writes : o.WritesStore = true) : o.Delivers = false := by
  cases o <;> simp_all [WritesStore, Delivers]

end Op

namespace Script

variable {ε α : Type}

/-- What an operation does after its write succeeded: it reads and hands over mail, and it
ends without error. -/
inductive Settles : Script (Except ε α) → Prop
  | done (a : α) : Settles (.done (.ok a))
  | call {o : Op} {next : o.Answer → Script (Except ε α)} (keeps : o.WritesStore = false)
      (noProvision : o.Provisions = false) (rest : ∀ b, Settles (next b)) : Settles (.call o next)

/-- How an operation that changes the store ends: quiet calls, then the one write that `A`
allows. A failed write ends the operation at once with the error `fail` makes of the store's;
after a successful write it `Settles`. -/
inductive Finishes (A : Op → Prop) (fail : StorageError → ε) : Script (Except ε α) → Prop
  | quiet {o : Op} {next : o.Answer → Script (Except ε α)} (quiet : o.Quiet = true)
      (rest : ∀ b, Finishes A fail (next b)) : Finishes A fail (.call o next)
  | write {o : Op} {next : o.Answer → Script (Except ε α)} (writes : o.WritesStore = true)
      (allowed : A o) (failed : ∀ b e, o.writeError b = some e → next b = .done (.error (fail e)))
      (succeeded : ∀ b, o.writeError b = none → Settles (next b)) : Finishes A fail (.call o next)

/-- An operation that changes the store: quiet calls, at any of which it may give up with an
error, and then its end. While `once` holds it may instead provision a dataset: a failed
provisioning ends it with an error, and after a successful one it goes straight to its end. -/
inductive Commits (A : Op → Prop) (fail : StorageError → ε) : Bool → Script (Except ε α) → Prop
  | refuse (e : ε) : Commits A fail once (.done (.error e))
  | quiet {o : Op} {next : o.Answer → Script (Except ε α)} (quiet : o.Quiet = true)
      (rest : ∀ b, Commits A fail once (next b)) : Commits A fail once (.call o next)
  | provision {p : Proposal} {next : (Op.provision p).Answer → Script (Except ε α)}
      (failed : ∀ b, (Op.provision p).provisionFailed b = true → ∃ e, next b = .done (.error e))
      (succeeded : ∀ b, (Op.provision p).provisionFailed b = false → Finishes A fail (next b)) :
      Commits A fail true (.call (.provision p) next)
  | finish {s : Script (Except ε α)} (finishes : Finishes A fail s) : Commits A fail once s

variable {A : Op → Prop} {fail : StorageError → ε}

theorem Settles.calls {s : Script (Except ε α)} (settles : Settles s) :
    Everywhere (fun o => o.WritesStore = false ∧ o.Provisions = false) s := by
  induction settles with
  | done a => exact .done _
  | call keeps noProvision _ ih => exact .call ⟨keeps,noProvision⟩ ih

theorem Settles.bind {s : Script (Except ε α)} {k : Except ε α → Script (Except ε β)}
    (first : Settles s) (rest : ∀ a, Settles (k (.ok a))) : Settles (s >>= k) := by
  induction first with
  | done a => exact rest a
  | call keeps noProvision _ ih => exact .call keeps noProvision ih

theorem Finishes.of_quiet {s : Script β} {k : β → Script (Except ε α)}
    (first : Everywhere (·.Quiet = true) s) (rest : ∀ b, Finishes A fail (k b)) :
    Finishes A fail (s >>= k) := by
  induction first with
  | done b => exact rest b
  | call quiet _ ih => exact .quiet quiet ih

theorem Finishes.bind {s : Script (Except ε α)} {k : Except ε α → Script (Except ε β)}
    (first : Finishes A fail s) (failing : ∀ e, k (.error e) = .done (.error e))
    (rest : ∀ a, Settles (k (.ok a))) : Finishes A fail (s >>= k) := by
  induction first with
  | quiet quiet _ ih => exact .quiet quiet ih
  | @write o next writes allowed failed succeeded =>
    refine .write writes allowed (fun b e wrote => ?_) fun b wrote => (succeeded b wrote).bind rest
    change next b >>= k = _
    rw [failed b e wrote,done_bind,failing]

theorem Commits.of_quiet {s : Script β} {k : β → Script (Except ε α)}
    (first : Everywhere (·.Quiet = true) s) (rest : ∀ b, Commits A fail once (k b)) :
    Commits A fail once (s >>= k) := by
  induction first with
  | done b => exact rest b
  | call quiet _ ih => exact .quiet quiet ih

theorem Commits.bind {s : Script (Except ε α)} {k : Except ε α → Script (Except ε β)}
    (first : Commits A fail once s) (failing : ∀ e, k (.error e) = .done (.error e))
    (rest : ∀ a, Settles (k (.ok a))) : Commits A fail once (s >>= k) := by
  induction first with
  | refuse e =>
    rw [done_bind,failing]
    exact .refuse e
  | quiet quiet _ ih => exact .quiet quiet ih
  | @provision p next failed succeeded =>
    refine .provision (fun b refused => ?_) fun b provisioned => (succeeded b provisioned).bind failing rest
    obtain ⟨e, ended⟩ := failed b refused
    refine ⟨e, ?_⟩
    change next b >>= k = _
    rw [ended,done_bind,failing]
  | finish finishes => exact .finish (finishes.bind failing rest)

theorem Finishes.mono {A' : Op → Prop} {s : Script (Except ε α)} (finishes : Finishes A fail s)
    (weaker : ∀ o, A o → A' o) : Finishes A' fail s := by
  induction finishes with
  | quiet quiet _ ih => exact .quiet quiet ih
  | write writes allowed failed succeeded => exact .write writes (weaker _ allowed) failed succeeded

theorem Commits.mono {A' : Op → Prop} {s : Script (Except ε α)} (commits : Commits A fail once s)
    (weaker : ∀ o, A o → A' o) : Commits A' fail once s := by
  induction commits with
  | refuse e => exact .refuse e
  | quiet quiet _ ih => exact .quiet quiet ih
  | provision failed succeeded =>
    exact .provision failed fun b provisioned => (succeeded b provisioned).mono weaker
  | finish finishes => exact .finish (finishes.mono weaker)

theorem Finishes.calls {s : Script (Except ε α)} (finishes : Finishes A fail s) :
    Everywhere (·.Provisions = false) s := by
  induction finishes with
  | quiet quiet _ ih => exact .call (Op.Quiet.provisions quiet) ih
  | @write o next writes _ failed succeeded =>
    refine .call (Op.WritesStore.provisions writes) fun b => ?_
    cases written : o.writeError b with
    | none => exact (succeeded b written).calls.mono fun _ keeps => keeps.2
    | some e =>
      rw [failed b e written]
      exact .done _

theorem Commits.calls {s : Script (Except ε α)} {once : Bool} (commits : Commits A fail once s)
    (never : once = false) : Everywhere (·.Provisions = false) s := by
  induction commits with
  | refuse e => exact .done _
  | quiet quiet _ ih => exact .call (Op.Quiet.provisions quiet) fun b => ih b never
  | provision _ _ => cases never
  | finish finishes => exact finishes.calls

end Script

namespace ServiceAct
open Script

variable {α β : Type} {P : Op → Prop} {A : Op → Prop} {fail : StorageError → ServiceError}

theorem everywhere_bind {x : ServiceAct α} {f : α → ServiceAct β} (first : Everywhere P x.run)
    (rest : ∀ a, Everywhere P (f a).run) : Everywhere P (x >>= f).run :=
  first.bind fun r => by
    cases r with
    | ok a => exact rest a
    | error e => exact .done _

theorem everywhere_lift {s : Script α} (calls : Everywhere P s) :
    Everywhere P (liftM s : ServiceAct α).run :=
  calls.bind fun _ => .done _

theorem everywhere_mk {s : Script (Except ServiceError α)} (calls : Everywhere P s) :
    Everywhere P (ExceptT.mk s).run :=
  calls

theorem everywhere_viaStore {call : Script (Except StorageError α)} (calls : Everywhere P call)
    (op : String) : Everywhere P (Service.viaStore op call).run :=
  calls.bind fun _ => .done _

theorem everywhere_viaDirectory {call : Script (Except DirectoryError α)} (calls : Everywhere P call)
    (op : String) : Everywhere P (Service.viaDirectory op call).run :=
  calls.bind fun _ => .done _

theorem settles_bind {x : ServiceAct α} {f : α → ServiceAct β} (first : Settles x.run)
    (rest : ∀ a, Settles (f a).run) : Settles (x >>= f).run :=
  first.bind rest

theorem settles_lift {s : Script α}
    (calls : Everywhere (fun o => o.WritesStore = false ∧ o.Provisions = false) s) :
    Settles (liftM s : ServiceAct α).run := by
  induction calls with
  | done a => exact .done a
  | call here _ ih => exact .call here.1 here.2 ih

theorem commits_quiet_bind {x : ServiceAct α} {f : α → ServiceAct β}
    (first : Everywhere (·.Quiet = true) x.run) (rest : ∀ a, Commits A fail once (f a).run) :
    Commits A fail once (x >>= f).run :=
  Commits.of_quiet first fun r => by
    cases r with
    | ok a => exact rest a
    | error e => exact .refuse e

theorem commits_bind {x : ServiceAct α} {f : α → ServiceAct β} (first : Commits A fail once x.run)
    (rest : ∀ a, Settles (f a).run) : Commits A fail once (x >>= f).run :=
  first.bind (fun _ => rfl) rest

theorem commits_throw_bind (e : ServiceError) (f : α → ServiceAct β) :
    Commits A fail once (throw e >>= f : ServiceAct β).run :=
  .refuse e

theorem run_lift_bind (s : Script α) (f : α → ServiceAct β) :
    ((liftM s : ServiceAct α) >>= f).run = s >>= fun a => (f a).run := by
  change (s >>= fun a => Script.done (Except.ok a)) >>= _ = _
  rw [Script.bind_assoc]
  rfl

theorem finishes_lift_bind {s : Script α} {f : α → ServiceAct β}
    (first : Everywhere (·.Quiet = true) s) (rest : ∀ a, Finishes A fail (f a).run) :
    Finishes A fail ((liftM s : ServiceAct α) >>= f).run := by
  rw [run_lift_bind]
  exact Finishes.of_quiet first rest

theorem finishes_updateIf {op : String} {p : Proposal} {e : Status} (allowed : A (.updateIf p e))
    {f : Unit → ServiceAct α} (rest : ∀ u, Settles (f u).run) :
    Finishes A (ServiceError.ofStorage op) (Service.viaStore op (Script.op (.updateIf p e)) >>= f).run := by
  refine .write rfl allowed (fun b err failed => ?_) fun b succeeded => ?_
  · cases b with
    | error stored =>
      cases failed
      rfl
    | ok u => cases failed
  · cases b with
    | error stored => cases succeeded
    | ok u => exact rest u

end ServiceAct

namespace Transition

@[simp] theorem apply_status (t : Transition) (p : Proposal) (now : Int) :
    (t.apply p now).status = t.target := by
  cases t <;> rfl

@[simp] theorem apply_key (t : Transition) (p : Proposal) (now : Int) :
    (t.apply p now).key = p.key := by
  cases t <;> rfl

/-- The write a transition makes: a record in its target status, written only over one in its
source status. -/
def Writes (t : Transition) (o : Op) : Prop :=
  ∃ p, o = .updateIf p t.source ∧ p.status = t.target

end Transition

namespace Service
open Script ServiceAct

theorem checkStatus_calls (P : Op → Prop) (t : Transition) (p : Proposal) :
    Everywhere P (checkStatus t p).run := by
  unfold checkStatus
  split
  · exact .done _
  · exact .done _

theorem persistTransition_finishes (t : Transition) (p : Proposal) :
    Finishes t.Writes (ServiceError.ofStorage t.operation) (persistTransition t p).run :=
  finishes_lift_bind (.op rfl) fun _ =>
    finishes_updateIf ⟨_,rfl,Transition.apply_status _ _ _⟩ fun _ => .done _

theorem dispatch_calls (e : Event) (attrs : Attributes) (recipients : List String) :
    Everywhere (fun o => o.WritesStore = false ∧ o.Provisions = false) (dispatch e attrs recipients) := by
  unfold dispatch
  refine (Everywhere.op ⟨rfl,rfl⟩).bind fun s => ?_
  split
  · exact .done _
  · exact .op ⟨rfl,rfl⟩

theorem notifyTeam_calls (e : Event) (p : Proposal) :
    Everywhere (fun o => o.WritesStore = false ∧ o.Provisions = false) (notifyTeam e p) := by
  unfold notifyTeam
  refine (Everywhere.op ⟨rfl,rfl⟩).bind fun r => ?_
  split
  · exact .done _
  · refine (Everywhere.op ⟨rfl,rfl⟩).bind fun r => ?_
    split
    · exact .done _
    · dsimp only
      split
      · exact .done _
      · exact (Everywhere.op ⟨rfl,rfl⟩).bind fun s => dispatch_calls _ _ _

theorem notifyOwner_calls (e : Event) (p : Proposal) (org : String) :
    Everywhere (fun o => o.WritesStore = false ∧ o.Provisions = false) (notifyOwner e p org) := by
  unfold notifyOwner
  refine (Everywhere.op ⟨rfl,rfl⟩).bind fun r => ?_
  split
  · exact .done _
  · refine (Everywhere.op ⟨rfl,rfl⟩).bind fun r => ?_
    split
    · exact .done _
    · dsimp only
      split
      · exact .done _
      · exact (Everywhere.op ⟨rfl,rfl⟩).bind fun s => dispatch_calls _ _ _

/-! The operations one by one. -/

theorem publishingInfo_observes : Everywhere (·.Observes = true) publishingInfo.run :=
  everywhere_bind (everywhere_viaStore (.op (by rfl)) _) fun _ =>
    everywhere_bind (everywhere_lift (.op (by rfl))) fun _ =>
      everywhere_bind (everywhere_lift (.op (by rfl))) fun _ => .done _

theorem publishingRepositories_observes :
    Everywhere (·.Observes = true) publishingRepositories.run :=
  everywhere_bind (everywhere_viaStore (.op (by rfl)) _) fun _ =>
    everywhere_bind (everywhere_viaStore (.op (by rfl)) _) fun _ =>
      everywhere_bind (everywhere_lift (.op (by rfl))) fun _ =>
        everywhere_bind (everywhere_lift (.op (by rfl))) fun _ => .done _

theorem proposalQuestions_observes : Everywhere (·.Observes = true) proposalQuestions.run :=
  everywhere_bind (everywhere_viaStore (.op (by rfl)) _) fun _ => .done _

theorem getProposal_observes (u : Int) (n : String) :
    Everywhere (·.Observes = true) (getProposal u n).run :=
  everywhere_bind (everywhere_viaStore (.op (by rfl)) _) fun _ => .done _

theorem proposalsForUser_observes (u : Int) :
    Everywhere (·.Observes = true) (proposalsForUser u).run :=
  everywhere_bind (everywhere_viaStore (.op (by rfl)) _) fun _ => .done _

theorem proposalsForWorkspace_observes (org : String) (s : Status) :
    Everywhere (·.Observes = true) (proposalsForWorkspace org s).run :=
  everywhere_bind (everywhere_viaStore (.op (by rfl)) _) fun _ => .done _

theorem findForRepository.settled_calls {P : Op → Prop}
    (reads : ∀ r s n, P (.proposalForRepository r s n)) (t : Transition) (r : Int)
    (n op c k : String) (statuses : List Status) :
    Everywhere P (findForRepository.settled t r n op c k statuses).run := by
  induction statuses with
  | nil => exact .done _
  | cons s rest ih =>
    unfold findForRepository.settled
    refine everywhere_bind (everywhere_lift (.op (reads _ _ _))) fun answer => ?_
    split
    · exact everywhere_bind (checkStatus_calls _ _ _) fun _ => .done _
    · exact ih
    · exact .done _

theorem findForRepository_calls {P : Op → Prop} (reads : ∀ r s n, P (.proposalForRepository r s n))
    (t : Transition) (r : Int) (n : String) : Everywhere P (findForRepository t r n).run := by
  unfold findForRepository
  refine everywhere_bind (everywhere_lift (.op (reads _ _ _))) fun answer => ?_
  split
  · exact findForRepository.settled_calls reads _ _ _ _ _ _ _
  · exact .done _
  · exact .done _

theorem findForRepository_observes (t : Transition) (r : Int) (n : String) :
    Everywhere (·.Observes = true) (findForRepository t r n).run :=
  findForRepository_calls (fun _ _ _ => rfl) t r n

theorem quiet_of_observes {s : Script α} (calls : Everywhere (·.Observes = true) s) :
    Everywhere (·.Quiet = true) s :=
  calls.mono fun _ => Op.Observes.quiet

theorem createProposal_commits (u : Int) (input : ProposalDto) :
    Commits (fun o => ∃ p, o = .create p ∧ p.status = .draft)
      (ServiceError.ofStorage "create dataset proposal") false (createProposal u input).run := by
  unfold createProposal
  dsimp only
  split
  · exact commits_throw_bind _ _
  · refine commits_quiet_bind (everywhere_viaDirectory (.op (by rfl)) _) fun user => ?_
    refine commits_quiet_bind (everywhere_lift (.op (by rfl))) fun now => ?_
    refine commits_quiet_bind (everywhere_lift (.op (by rfl))) fun nodeId => .finish ?_
    refine .write rfl ⟨_,rfl,rfl⟩ (fun b err failed => ?_) fun b succeeded => ?_
    · cases b with
      | error stored =>
        cases failed
        rfl
      | ok u => cases failed
    · cases b with
      | error stored => cases succeeded
      | ok u => exact .done _

theorem updateProposal_commits (u : Int) (existing update : ProposalDto) :
    Commits (fun o => ∃ p, o = .updateIf p .draft ∧ p.status = .draft)
      (ServiceError.ofStorage "update dataset proposal") false
      (updateProposal u existing update).run := by
  unfold updateProposal
  dsimp only
  split
  · exact commits_throw_bind _ _
  · split
    · exact commits_throw_bind _ _
    · rename_i _ draft
      have draft : existing.status = .draft := by simpa using draft
      refine commits_quiet_bind (everywhere_viaDirectory (.op (by rfl)) _) fun user => ?_
      refine commits_quiet_bind (everywhere_lift (.op (by rfl))) fun now => ?_
      exact .finish (finishes_updateIf ⟨_,rfl,draft⟩ fun _ => .done _)

theorem deleteProposal_commits (d : ProposalDto) :
    Commits (· = .delete d.key) (ServiceError.ofStorage "delete dataset proposal") false
      (deleteProposal d).run := by
  refine .finish (.write rfl rfl (fun b err failed => ?_) fun b succeeded => ?_)
  · cases b with
    | error stored =>
      cases failed
      rfl
    | ok u => cases failed
  · cases b with
    | error stored => cases succeeded
    | ok u => exact .done _

theorem persistSubmit_commits (u : Int) (n : String) :
    Commits Transition.submit.Writes (ServiceError.ofStorage Transition.submit.operation) false
      (persistSubmit u n).run := by
  unfold persistSubmit
  dsimp only
  refine commits_quiet_bind (everywhere_viaStore (.op (by rfl)) _) fun p => ?_
  refine commits_quiet_bind (checkStatus_calls _ _ _) fun _ => ?_
  refine commits_quiet_bind (everywhere_viaStore (.op (by rfl)) _) fun repo => ?_
  split
  · exact commits_throw_bind _ _
  · split
    · exact commits_throw_bind _ _
    · exact .finish (persistTransition_finishes _ _)

theorem persistWithdraw_commits (u : Int) (n : String) :
    Commits Transition.withdraw.Writes (ServiceError.ofStorage Transition.withdraw.operation) false
      (persistWithdraw u n).run := by
  unfold persistWithdraw
  dsimp only
  refine commits_quiet_bind (everywhere_viaStore (.op (by rfl)) _) fun p => ?_
  exact commits_quiet_bind (checkStatus_calls _ _ _) fun _ => .finish (persistTransition_finishes _ _)

theorem persistAccept_commits (r : Int) (n : String) :
    Commits Transition.accept.Writes (ServiceError.ofStorage Transition.accept.operation) true
      (persistAccept r n).run := by
  unfold persistAccept
  dsimp only
  refine commits_quiet_bind (quiet_of_observes (findForRepository_observes _ _ _)) fun p => ?_
  refine .provision (fun b refused => ?_) fun b provisioned => ?_
  · cases b with
    | error e => exact ⟨_, rfl⟩
    | ok created => cases refused
  · cases b with
    | error e => cases provisioned
    | ok created =>
      refine finishes_lift_bind (.op (by rfl)) fun now => ?_
      exact finishes_updateIf ⟨_,rfl,Transition.apply_status _ _ _⟩ fun _ => .done _

theorem persistReject_commits (r : Int) (n : String) :
    Commits Transition.reject.Writes (ServiceError.ofStorage Transition.reject.operation) false
      (persistReject r n).run :=
  commits_quiet_bind (quiet_of_observes (findForRepository_observes _ _ _)) fun _ =>
    .finish (persistTransition_finishes _ _)

/-! What a transition does before it notifies: reads, a provisioning and its write. -/

theorem persistTransition_persists (t : Transition) (p : Proposal) :
    Everywhere (·.Persists = true) (persistTransition t p).run :=
  everywhere_bind (everywhere_lift (.op (by rfl))) fun _ =>
    everywhere_bind (everywhere_viaStore (.op (by rfl)) _) fun _ => .done _

theorem persistSubmit_persists (u : Int) (n : String) :
    Everywhere (·.Persists = true) (persistSubmit u n).run := by
  unfold persistSubmit
  dsimp only
  refine everywhere_bind (everywhere_viaStore (.op (by rfl)) _) fun p => ?_
  refine everywhere_bind (checkStatus_calls _ _ _) fun _ => ?_
  refine everywhere_bind (everywhere_viaStore (.op (by rfl)) _) fun repo => ?_
  split
  · exact .done _
  · split
    · exact .done _
    · exact persistTransition_persists _ _

theorem persistWithdraw_persists (u : Int) (n : String) :
    Everywhere (·.Persists = true) (persistWithdraw u n).run := by
  unfold persistWithdraw
  dsimp only
  refine everywhere_bind (everywhere_viaStore (.op (by rfl)) _) fun p => ?_
  exact everywhere_bind (checkStatus_calls _ _ _) fun _ => persistTransition_persists _ _

theorem persistAccept_persists (r : Int) (n : String) :
    Everywhere (·.Persists = true) (persistAccept r n).run := by
  unfold persistAccept
  dsimp only
  refine everywhere_bind (findForRepository_calls (fun _ _ _ => by rfl) _ _ _) fun p => ?_
  refine everywhere_bind (everywhere_mk ((Everywhere.op (by rfl)).bind fun _ => .done _)) fun _ => ?_
  refine everywhere_bind (everywhere_lift (.op (by rfl))) fun _ => ?_
  exact everywhere_bind (everywhere_viaStore (.op (by rfl)) _) fun _ => .done _

theorem persistReject_persists (r : Int) (n : String) :
    Everywhere (·.Persists = true) (persistReject r n).run :=
  everywhere_bind (findForRepository_calls (fun _ _ _ => by rfl) _ _ _) fun _ =>
    persistTransition_persists _ _

/-! A transition's notification follows its persisting part and only settles. -/

theorem submitProposal_commits (u : Int) (n : String) :
    Commits Transition.submit.Writes (ServiceError.ofStorage Transition.submit.operation) false
      (submitProposal u n).run :=
  commits_bind (persistSubmit_commits u n) fun _ =>
    settles_bind (settles_lift (notifyTeam_calls _ _)) fun _ => .done _

theorem withdrawProposal_commits (u : Int) (n : String) :
    Commits Transition.withdraw.Writes (ServiceError.ofStorage Transition.withdraw.operation) false
      (withdrawProposal u n).run :=
  commits_bind (persistWithdraw_commits u n) fun _ =>
    settles_bind (settles_lift (notifyTeam_calls _ _)) fun _ => .done _

theorem acceptProposal_commits (r : Int) (n : String) :
    Commits Transition.accept.Writes (ServiceError.ofStorage Transition.accept.operation) true
      (acceptProposal r n).run :=
  commits_bind (persistAccept_commits r n) fun _ =>
    settles_bind (settles_lift (notifyOwner_calls _ _ _)) fun _ => .done _

theorem rejectProposal_commits (r : Int) (n : String) :
    Commits Transition.reject.Writes (ServiceError.ofStorage Transition.reject.operation) false
      (rejectProposal r n).run :=
  commits_bind (persistReject_commits r n) fun _ =>
    settles_bind (settles_lift (notifyOwner_calls _ _ _)) fun _ => .done _

/-- A call of the publishing service, with its arguments. -/
inductive Call where
  | info
  | repositories
  | questions
  | get (u : Int) (n : String)
  | listUser (u : Int)
  | listWorkspace (org : String) (s : Status)
  | create (u : Int) (input : ProposalDto)
  | update (u : Int) (existing changes : ProposalDto)
  | delete (d : ProposalDto)
  | submit (u : Int) (n : String)
  | withdraw (u : Int) (n : String)
  | accept (r : Int) (n : String)
  | reject (r : Int) (n : String)

namespace Call

def Result : Call → Type
  | .info => List InfoDto
  | .repositories => List RepositoryDto
  | .questions => List QuestionDto
  | .get _ _ => ProposalDto
  | .listUser _ | .listWorkspace _ _ => List ProposalDto
  | .create _ _ | .update _ _ _ => ProposalDto
  | .delete _ => Unit
  | .submit _ _ | .withdraw _ _ | .accept _ _ | .reject _ _ => ProposalDto

def act : (c : Call) → ServiceAct c.Result
  | .info => publishingInfo
  | .repositories => publishingRepositories
  | .questions => proposalQuestions
  | .get u n => getProposal u n
  | .listUser u => Service.proposalsForUser u
  | .listWorkspace org s => Service.proposalsForWorkspace org s
  | .create u input => createProposal u input
  | .update u existing changes => updateProposal u existing changes
  | .delete d => deleteProposal d
  | .submit u n => submitProposal u n
  | .withdraw u n => withdrawProposal u n
  | .accept r n => acceptProposal r n
  | .reject r n => rejectProposal r n

def transition? : Call → Option Transition
  | .submit _ _ => some .submit
  | .withdraw _ _ => some .withdraw
  | .accept _ _ => some .accept
  | .reject _ _ => some .reject
  | _ => none

def readOnly : Call → Bool
  | .info | .repositories | .questions | .get _ _ | .listUser _ | .listWorkspace _ _ => true
  | _ => false

def operation : Call → String
  | .info => "get publishing info"
  | .repositories => "get publishing repositories"
  | .questions => "get proposal questions"
  | .get _ _ => "get dataset proposal"
  | .listUser _ => "get dataset proposals for user"
  | .listWorkspace _ _ => "get dataset proposals for workspace"
  | .create _ _ => "create dataset proposal"
  | .update _ _ _ => "update dataset proposal"
  | .delete _ => "delete dataset proposal"
  | .submit _ _ => Transition.submit.operation
  | .withdraw _ _ => Transition.withdraw.operation
  | .accept _ _ => Transition.accept.operation
  | .reject _ _ => Transition.reject.operation

/-- The store write a call may make: creation writes a DRAFT record on a free key, an update a
DRAFT record over a DRAFT one, a delete removes the record's key, and a transition writes its
target status over its source status. -/
def Allows : Call → Op → Prop
  | .create _ _, o => ∃ p, o = .create p ∧ p.status = .draft
  | .update _ _ _, o => ∃ p, o = .updateIf p .draft ∧ p.status = .draft
  | .delete d, o => o = .delete d.key
  | .submit _ _, o => Transition.submit.Writes o
  | .withdraw _ _, o => Transition.withdraw.Writes o
  | .accept _ _, o => Transition.accept.Writes o
  | .reject _ _, o => Transition.reject.Writes o
  | _, _ => False

def provisions : Call → Bool
  | .accept _ _ => true
  | _ => false

theorem accept_of_provisions {c : Call} (provisions : c.provisions = true) :
    ∃ r n, c = .accept r n := by
  cases c with
  | accept r n => exact ⟨r,n,rfl⟩
  | _ => cases provisions

theorem observes (c : Call) (readsOnly : c.readOnly = true) :
    Everywhere (·.Observes = true) c.act.run := by
  cases c with
  | info => exact publishingInfo_observes
  | repositories => exact publishingRepositories_observes
  | questions => exact proposalQuestions_observes
  | get u n => exact getProposal_observes u n
  | listUser u => exact proposalsForUser_observes u
  | listWorkspace org s => exact proposalsForWorkspace_observes org s
  | _ => cases readsOnly

theorem commits (c : Call) (writes : c.readOnly = false) :
    Commits c.Allows (ServiceError.ofStorage c.operation) c.provisions c.act.run := by
  cases c with
  | create u input => exact createProposal_commits u input
  | update u existing changes => exact updateProposal_commits u existing changes
  | delete d => exact deleteProposal_commits d
  | submit u n => exact submitProposal_commits u n
  | withdraw u n => exact withdrawProposal_commits u n
  | accept r n => exact acceptProposal_commits r n
  | reject r n => exact rejectProposal_commits r n
  | _ => cases writes

end Call

end Service

end DatasetProposals
