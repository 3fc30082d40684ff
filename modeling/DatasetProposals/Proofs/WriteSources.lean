import DatasetProposals.Proofs.Interleaving
/-! Where the record a call writes comes from, as `Script.Guards` over the answers the caller
read, so that the facts hold in a race too. -/
namespace DatasetProposals

namespace Op

/-- The answer `b` to `o` is among the proposals `G`, the repositories `H` and the created
datasets `C`, as far as it is one of these. -/
def Answers (G : Proposal → Prop) (H : RepositoryRecord → Prop) (C : CreatedDataset → Prop)
    (o : Op) (b : o.Answer) : Prop :=
  (∀ p, o.readRecord b = some p → G p) ∧ (∀ r, o.readRepository b = some r → H r) ∧
    ∀ c, o.provided b = some c → C c

end Op

namespace Transition

@[simp] theorem apply_datasetNodeId (t : Transition) (p : Proposal) (now : Int) :
    (t.apply p now).datasetNodeId = p.datasetNodeId := by
  cases t <;> rfl

@[simp] theorem apply_survey (t : Transition) (p : Proposal) (now : Int) :
    (t.apply p now).survey = p.survey := by
  cases t <;> rfl

@[simp] theorem apply_organizationNodeId (t : Transition) (p : Proposal) (now : Int) :
    (t.apply p now).organizationNodeId = p.organizationNodeId := by
  cases t <;> rfl

end Transition

namespace Service

variable {G : Proposal → Prop} {H : RepositoryRecord → Prop} {C : CreatedDataset → Prop}

namespace Call

/-- What the record a call writes is made from. An update: the dataset node id of the caller's
copy. Withdrawal and rejection: the dataset node id of a proposal read. Submission: the dataset
node id and the survey of a proposal read, the survey answering every question a repository read
for the record's workspace requires. Acceptance: the node id of a dataset provisioned. -/
def Source (G : Proposal → Prop) (H : RepositoryRecord → Prop) (C : CreatedDataset → Prop) :
    Call → Proposal → Prop
  | .update _ existing _, q => q.datasetNodeId = existing.datasetNodeId
  | .submit _ _, q => ∃ p, G p ∧ q.datasetNodeId = p.datasetNodeId ∧ q.survey = p.survey ∧
      ∃ repo, H repo ∧ repo.organizationNodeId = q.organizationNodeId ∧
        missingQuestions repo.questions (q.survey.map (·.questionId)) = []
  | .withdraw _ _, q | .reject _ _, q => ∃ p, G p ∧ q.datasetNodeId = p.datasetNodeId
  | .accept _ _, q => ∃ c, C c ∧ q.datasetNodeId = c.dataset.nodeId
  | _, _ => True

/-- Every conditional write `o` makes writes a record from the call's source. -/
def Sourced (G : Proposal → Prop) (H : RepositoryRecord → Prop) (C : CreatedDataset → Prop)
    (c : Call) (o : Op) : Prop :=
  ∀ q e, o = .updateIf q e → c.Source G H C q

theorem sourced_of_keeps {o : Op} (keeps : o.WritesStore = false) (c : Call) : c.Sourced G H C o := by
  intro q e written
  subst written
  cases keeps

end Call

end Service

namespace ServiceAct
open Script
variable {α β : Type} {Ans : (o : Op) → o.Answer → Prop} {P : Op → Prop}

/-- The value a run ends well with satisfies `R`; an error may be anything. -/
def Yields (R : α → Prop) (r : Except ServiceError α) : Prop := ∀ a, r = .ok a → R a

theorem yields_error (R : α → Prop) (e : ServiceError) : Yields R (.error e) := by
  intro _ wrong
  cases wrong

theorem guards_bind {R : α → Prop} {R' : β → Prop} {x : ServiceAct α} {f : α → ServiceAct β}
    (first : Guards Ans P (Yields R) x.run) (rest : ∀ a, R a → Guards Ans P (Yields R') (f a).run) :
    Guards Ans P (Yields R') (x >>= f).run :=
  first.bind fun r yields => by
    cases r with
    | ok a => exact rest a (yields a rfl)
    | error e => exact .done (yields_error _ _)

theorem guards_pure {R : α → Prop} {a : α} (holds : R a) :
    Guards Ans P (Yields R) (pure a : ServiceAct α).run :=
  .done fun _ same => by
    cases same
    exact holds

theorem guards_throw_bind {R : β → Prop} (e : ServiceError) (f : α → ServiceAct β) :
    Guards Ans P (Yields R) (throw e >>= f : ServiceAct β).run :=
  .done (yields_error _ _)

theorem guards_of_everywhere {R : α → Prop} {x : ServiceAct α} (calls : Everywhere P x.run)
    (always : ∀ a, R a) : Guards Ans P (Yields R) x.run :=
  Guards.of_everywhere calls fun _ a _ => always a

theorem guards_lift {R : α → Prop} {s : Script α} (calls : Guards Ans P R s) :
    Guards Ans P (Yields R) (liftM s : ServiceAct α).run :=
  calls.bind fun _ holds => .done fun _ same => by
    cases same
    exact holds

theorem guards_viaStore {R : α → Prop} {call : Script (Except StorageError α)}
    (calls : Guards Ans P (fun r => ∀ a, r = .ok a → R a) call) (op : String) :
    Guards Ans P (Yields R) (Service.viaStore op call).run :=
  calls.bind fun r holds => .done fun a mapped => holds a (by
    cases r with
    | ok a' =>
      cases mapped
      rfl
    | error e => cases mapped)

end ServiceAct

namespace Service
open Script ServiceAct

section Reads
variable (c : Call)

theorem guards_readProposal (op : String) (u : Int) (n : String) :
    Guards (Op.Answers G H C) (c.Sourced G H C) (Yields G)
      (viaStore op (Script.op (.proposal u n))).run := by
  have read : Guards (Op.Answers G H C) (c.Sourced G H C) (Op.Answers G H C (.proposal u n))
      (Script.op (.proposal u n)) := Guards.op (Call.sourced_of_keeps rfl c)
  refine guards_viaStore (read.mono fun b answered p found => ?_) op
  subst found
  exact answered.1 p rfl

theorem guards_readRepository (op : String) (org : String) :
    Guards (Op.Answers G H C) (c.Sourced G H C) (Yields H)
      (viaStore op (Script.op (.repository org))).run := by
  have read : Guards (Op.Answers G H C) (c.Sourced G H C) (Op.Answers G H C (.repository org))
      (Script.op (.repository org)) := Guards.op (Call.sourced_of_keeps rfl c)
  refine guards_viaStore (read.mono fun b answered r found => ?_) op
  subst found
  exact answered.2.1 r rfl

theorem findForRepository.settled_guards (t : Transition) (r : Int) (n op c' k : String)
    (statuses : List Status) :
    Guards (Op.Answers G H C) (c.Sourced G H C) (Yields G)
      (findForRepository.settled t r n op c' k statuses).run := by
  induction statuses with
  | nil => exact .done (yields_error _ _)
  | cons s rest ih =>
    unfold findForRepository.settled
    refine guards_bind (guards_lift (Guards.op (Call.sourced_of_keeps rfl c))) fun answer answered => ?_
    split
    · exact guards_bind (guards_of_everywhere (checkStatus_calls _ _ _) fun _ => trivial) fun _ _ =>
        guards_pure (answered.1 _ rfl)
    · exact ih
    · exact .done (yields_error _ _)

theorem findForRepository_guards (t : Transition) (r : Int) (n : String) :
    Guards (Op.Answers G H C) (c.Sourced G H C) (Yields G) (findForRepository t r n).run := by
  unfold findForRepository
  refine guards_bind (guards_lift (Guards.op (Call.sourced_of_keeps rfl c))) fun answer answered => ?_
  split
  · exact findForRepository.settled_guards c _ _ _ _ _ _ _
  · exact .done (yields_error _ _)
  · exact guards_pure (answered.1 _ rfl)

theorem guards_write (op : String) {q : Proposal} {e : Status} (source : c.Source G H C q) :
    Guards (Op.Answers G H C) (c.Sourced G H C) (Yields fun _ => True)
      (viaStore op (Script.op (.updateIf q e))).run := by
  have write : Guards (Op.Answers G H C) (c.Sourced G H C) (Op.Answers G H C (.updateIf q e))
      (Script.op (.updateIf q e)) := Guards.op fun q' e' written => by
    cases written
    exact source
  exact guards_viaStore (write.mono fun _ _ _ _ => trivial) op

theorem persistTransition_guards (t : Transition) (p : Proposal)
    (source : ∀ now, c.Source G H C (t.apply p (stamp now p.updatedAt))) :
    Guards (Op.Answers G H C) (c.Sourced G H C) (Yields fun _ => True) (persistTransition t p).run := by
  unfold persistTransition
  refine guards_bind (guards_lift (Guards.op (Call.sourced_of_keeps rfl c))) fun now _ => ?_
  exact guards_bind (guards_write c _ (source now)) fun _ _ => guards_pure trivial

theorem guards_notify {β : Type} {mail : Script Unit}
    (quiet : Everywhere (fun o => o.WritesStore = false ∧ o.Provisions = false) mail) (answer : β) :
    Guards (Op.Answers G H C) (c.Sourced G H C) (Yields fun _ => True)
      (liftM mail >>= fun _ => pure answer : ServiceAct β).run :=
  guards_bind (guards_lift (Guards.of_everywhere (quiet.mono fun _ keeps => Call.sourced_of_keeps keeps.1 c)
    fun _ => trivial)) fun _ _ => guards_pure trivial

end Reads

theorem persistSubmit_sourced (u : Int) (n : String) :
    Guards (Op.Answers G H C) ((Call.submit u n).Sourced G H C) (Yields fun _ => True)
      (persistSubmit u n).run := by
  unfold persistSubmit
  dsimp only
  refine guards_bind (guards_readProposal _ _ u n) fun p read => ?_
  refine guards_bind (guards_of_everywhere (checkStatus_calls _ _ _) fun _ => trivial) fun _ _ => ?_
  refine guards_bind (guards_readRepository _ _ _) fun repo repoRead => ?_
  split
  · exact guards_throw_bind _ _
  · split
    · exact guards_throw_bind _ _
    · next sameWorkspace answeredAll =>
      -- the record written is the one read, its repository the one it was checked against
      refine persistTransition_guards _ _ _ fun now => ?_
      refine ⟨p, read, by simp, by simp, repo, repoRead, ?_, ?_⟩
      · simpa using sameWorkspace
      · simpa using answeredAll

theorem persistWithdraw_sourced (u : Int) (n : String) :
    Guards (Op.Answers G H C) ((Call.withdraw u n).Sourced G H C) (Yields fun _ => True)
      (persistWithdraw u n).run := by
  unfold persistWithdraw
  dsimp only
  refine guards_bind (guards_readProposal _ _ u n) fun p read => ?_
  refine guards_bind (guards_of_everywhere (checkStatus_calls _ _ _) fun _ => trivial) fun _ _ => ?_
  exact persistTransition_guards _ _ _ fun now => ⟨p, read, by simp⟩

theorem persistReject_sourced (r : Int) (n : String) :
    Guards (Op.Answers G H C) ((Call.reject r n).Sourced G H C) (Yields fun _ => True)
      (persistReject r n).run :=
  guards_bind (findForRepository_guards _ _ _ _) fun p read =>
    persistTransition_guards _ _ _ fun now => ⟨p, read, by simp⟩

theorem persistAccept_sourced (r : Int) (n : String) :
    Guards (Op.Answers G H C) ((Call.accept r n).Sourced G H C) (Yields fun _ => True)
      (persistAccept r n).run := by
  unfold persistAccept
  dsimp only
  refine guards_bind (findForRepository_guards _ _ _ _) fun p _ => ?_
  -- the provisioning yields a dataset answered, whose node id the write records
  refine guards_bind (R := C) ((Guards.op (Call.sourced_of_keeps rfl _)).bind fun b answered =>
    .done fun created provided => answered.2.2 created ?_) fun created provisioned => ?_
  · cases b with
    | ok c =>
      cases provided
      rfl
    | error e => cases provided
  refine guards_bind (guards_lift (Guards.op (Call.sourced_of_keeps rfl _))) fun now _ => ?_
  exact guards_bind (guards_write _ _ ⟨created, provisioned, by simp⟩) fun _ _ => guards_pure trivial

theorem submitProposal_sourced (u : Int) (n : String) :
    Guards (Op.Answers G H C) ((Call.submit u n).Sourced G H C) (Yields fun _ => True)
      (submitProposal u n).run :=
  guards_bind (persistSubmit_sourced u n) fun _ _ => guards_notify _ (notifyTeam_calls _ _) _

theorem withdrawProposal_sourced (u : Int) (n : String) :
    Guards (Op.Answers G H C) ((Call.withdraw u n).Sourced G H C) (Yields fun _ => True)
      (withdrawProposal u n).run :=
  guards_bind (persistWithdraw_sourced u n) fun _ _ => guards_notify _ (notifyTeam_calls _ _) _

theorem rejectProposal_sourced (r : Int) (n : String) :
    Guards (Op.Answers G H C) ((Call.reject r n).Sourced G H C) (Yields fun _ => True)
      (rejectProposal r n).run :=
  guards_bind (persistReject_sourced r n) fun _ _ => guards_notify _ (notifyOwner_calls _ _ _) _

theorem acceptProposal_sourced (r : Int) (n : String) :
    Guards (Op.Answers G H C) ((Call.accept r n).Sourced G H C) (Yields fun _ => True)
      (acceptProposal r n).run :=
  guards_bind (persistAccept_sourced r n) fun _ _ => guards_notify _ (notifyOwner_calls _ _ _) _

theorem updateProposal_sourced (u : Int) (existing changes : ProposalDto) :
    Guards (Op.Answers G H C) ((Call.update u existing changes).Sourced G H C) (Yields fun _ => True)
      (updateProposal u existing changes).run := by
  unfold updateProposal
  dsimp only
  split
  · exact guards_throw_bind _ _
  · split
    · exact guards_throw_bind _ _
    · refine guards_bind (guards_of_everywhere (everywhere_viaDirectory (.op (Call.sourced_of_keeps rfl _)) _)
        fun _ => trivial) fun _ _ => ?_
      refine guards_bind (guards_lift (Guards.op (Call.sourced_of_keeps rfl _))) fun now _ => ?_
      exact guards_bind (guards_write _ _ rfl) fun _ _ => guards_pure trivial

namespace Call

theorem sourced (c : Call) :
    Guards (Op.Answers G H C) (c.Sourced G H C) (ServiceAct.Yields fun _ => True) c.act.run := by
  cases c with
  | update u existing changes => exact updateProposal_sourced u existing changes
  | submit u n => exact submitProposal_sourced u n
  | withdraw u n => exact withdrawProposal_sourced u n
  | accept r n => exact acceptProposal_sourced r n
  | reject r n => exact rejectProposal_sourced r n
  | _ => exact Guards.of_everywhere (Everywhere.of_forall (fun _ _ _ _ => trivial) _) fun _ _ _ => trivial

end Call

end Service

end DatasetProposals
