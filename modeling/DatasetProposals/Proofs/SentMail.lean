import DatasetProposals.Proofs.WriteSources
import DatasetProposals.Proofs.NotificationOutcome
/-! The mail a run sends with the memory sender, one message per transition whose notification
completed. Main statement: `sent_mail_over_run`. -/
namespace DatasetProposals

/-! ### The mail each step sends -/

theorem Attributes.ofList_append_singleton (ps : List (String × String)) (k v : String) :
    Attributes.ofList (ps ++ [(k, v)]) = (Attributes.ofList ps).insert k v := by
  simp only [Attributes.ofList, List.foldl_append, List.foldl_cons, List.foldl_nil]

namespace World

def onlyRepository (w : World) (org : String) : Option RepositoryRecord :=
  match w.store.repositories.filter (·.organizationNodeId == org) with
  | [R] => some R
  | _ => none

def welcome (w : World) : Option Organization :=
  w.directory.organizations.find? (·.slug == w.directory.welcomeSlug)

def recordedMail (w : World) (e : Event) (recipients : List String) (attrs : Attributes) :
    Option Email :=
  if recipients.isEmpty || w.mailer.failing || !w.finishesInTime then none
  else match w.settings.templates.load e with
    | .ok template => some ⟨w.settings.sender, recipients, e.subject, render template attrs, "html"⟩
    | .error _ => none

def mailAttributes (w : World) (after : ProposalDto) (R : RepositoryRecord) :
    List (String × String) :=
  [("AppURL", w.settings.appUrl), ("AuthorName", after.ownerName),
    ("AuthorEmail", after.emailAddress), ("ProposalTitle", after.name),
    ("WorkspaceName", R.displayName), ("WorkspaceNodeId", R.organizationNodeId)]

def teamMail (w : World) (e : Event) (after : ProposalDto) (R : RepositoryRecord) : Option Email :=
  w.recordedMail e (normalizeRecipients ((w.directory.publishers.filter
    (·.workspaceNodeId == R.organizationNodeId)).map (·.emailAddress)))
    (Attributes.ofList (w.mailAttributes after R))

def ownerMail (w : World) (e : Event) (after : ProposalDto) (R : RepositoryRecord) : Option Email :=
  w.welcome.bind fun W => w.recordedMail e (normalizeRecipients [after.emailAddress])
    (Attributes.ofList (w.mailAttributes after R ++ [("WelcomeWorkspaceNodeId", W.nodeId)]))

end World

namespace Transition

def event : Transition → Event
  | .submit => .submitted
  | .withdraw => .withdrawn
  | .accept => .accepted
  | .reject => .rejected

def act : Transition → Int → String → ServiceAct ProposalDto
  | .submit, who, n => Service.submitProposal who n
  | .withdraw, who, n => Service.withdrawProposal who n
  | .accept, who, n => Service.acceptProposal who n
  | .reject, who, n => Service.rejectProposal who n

def found (t : Transition) (w : World) (who : Int) (n : String) : Option Proposal :=
  match t with
  | .submit | .withdraw => (w.store.proposal who n).toOption
  | .accept | .reject => (w.store.proposalForRepository who .submitted n).toOption

def mail (t : Transition) (w : World) (org : String) (after : ProposalDto) : Option Email :=
  (w.onlyRepository org).bind fun R =>
    match t with
    | .submit | .withdraw => w.teamMail t.event after R
    | .accept | .reject => w.ownerMail t.event after R

def sent (t : Transition) (w : World) (who : Int) (n : String)
    (result : Except ServiceError ProposalDto) : List Email :=
  match result, t.found w who n with
  | .ok after, some before => (t.mail w before.organizationNodeId after).toList
  | _, _ => []

end Transition

namespace Service

def Call.mail : Call → World → List Email
  | .submit u n, w => Transition.submit.sent w u n ((Transition.submit.act u n).run.outcome w).1
  | .withdraw u n, w =>
    Transition.withdraw.sent w u n ((Transition.withdraw.act u n).run.outcome w).1
  | .accept r n, w => Transition.accept.sent w r n ((Transition.accept.act r n).run.outcome w).1
  | .reject r n, w => Transition.reject.sent w r n ((Transition.reject.act r n).run.outcome w).1
  | _, _ => []

def Step.mail : Step → World → List Email
  | .call c, w => c.mail w
  | _, _ => []

def runMail : World → List Step → List Email
  | _, [] => []
  | w, step :: rest => step.mail w ++ runMail (step.perform w) rest

end Service

/-! ### What one call keeps and records -/

namespace MemoryStore

theorem proposalForRepository_status {s : MemoryStore} {r : Int} {st : Status} {n : String}
    {p : Proposal} (found : s.proposalForRepository r st n = .ok p) : p.status = st := by
  unfold proposalForRepository single at found
  split at found
  · next only =>
    cases found
    have kept := (List.mem_filter.mp (only ▸ List.mem_singleton_self p)).2
    simp only [Bool.and_eq_true, beq_iff_eq] at kept
    exact kept.1.2
  · cases found
  · cases found

end MemoryStore

namespace World
variable {w w' : World}

theorem onlyRepository_eq (org : String) :
    w.onlyRepository org = (w.store.repository org).toOption := by
  unfold onlyRepository MemoryStore.repository MemoryStore.single
  cases w.store.repositories.filter (·.organizationNodeId == org) with
  | nil => rfl
  | cons R rest => cases rest <;> rfl

theorem welcome_eq : w.welcome = w.directory.welcomeWorkspace.toOption := by
  unfold welcome MemoryDirectory.welcomeWorkspace
  cases w.directory.organizations.find? (·.slug == w.directory.welcomeSlug) <;> rfl

theorem outcome_deliver_sent (memory : w.mailer.transport = .memory) (m : Email) :
    ((Op.deliver m).outcome w).2.mailer.sent =
      w.mailer.sent ++ if w.finishesInTime && !w.mailer.failing then [m] else [] := by
  show ((do if World.finishesInTime (← get) then let _ ← World.send m : Act Unit).run w).2.mailer.sent = _
  simp only [StateT.run_bind, StateT.run_get, pure_bind]
  by_cases timely : w.finishesInTime = true
  · rw [if_pos timely]
    simp only [send, StateT.run_bind, StateT.run_get, pure_bind, memory]
    cases w.mailer.failing
    · simp only [timely, Bool.not_false, Bool.and_self, if_true]
      rfl
    · simp only [timely, Bool.not_true, Bool.and_false]
      exact (List.append_nil _).symm
  · rw [if_neg timely]
    simp only [Bool.eq_false_iff.mpr timely, Bool.false_and]
    exact (List.append_nil _).symm

theorem outcome_transport (hw : w.InMemory) (o : Op) :
    (o.outcome w).2.mailer.transport = w.mailer.transport := by
  obtain ⟨_, _, _, _, _, _, shape, -⟩ := outcome_shape hw o
  rw [shape]

/-- `w'` holds what a notification reads of `w`: the repositories, the publishers, the
workspaces and the welcome slug, the settings and the mail transport. -/
structure SameMail (w w' : World) : Prop where
  repositories : w'.store.repositories = w.store.repositories
  publishers : w'.directory.publishers = w.directory.publishers
  organizations : w'.directory.organizations = w.directory.organizations
  welcomeSlug : w'.directory.welcomeSlug = w.directory.welcomeSlug
  settings : w'.settings = w.settings
  mailer : w'.mailer = w.mailer

theorem SameMail.refl (w : World) : w.SameMail w := ⟨rfl, rfl, rfl, rfl, rfl, rfl⟩

theorem SameMail.trans {u v w : World} (first : u.SameMail v) (second : v.SameMail w) :
    u.SameMail w :=
  ⟨second.1.trans first.1, second.2.trans first.2, second.3.trans first.3,
    second.4.trans first.4, second.5.trans first.5, second.6.trans first.6⟩

theorem SameMail.mail (same : w.SameMail w') (t : Transition) (org : String) (after : ProposalDto) :
    t.mail w' org after = t.mail w org after := by
  unfold Transition.mail onlyRepository teamMail ownerMail welcome recordedMail mailAttributes
    finishesInTime
  rw [same.repositories, same.publishers, same.organizations, same.welcomeSlug, same.settings,
    same.mailer]

theorem sameMail_of_keeps (hw : w.InMemory) {o : Op} (writes : o.WritesStore = false)
    (provisions : o.Provisions = false) (quiet : o.Delivers = false) :
    w.SameMail (o.outcome w).2 :=
  have store := outcome_store hw writes
  have directory := outcome_directory hw provisions
  ⟨by rw [store], by rw [directory], by rw [directory], by rw [directory],
    (outcome_follows hw o).settings, outcome_mailer hw quiet⟩

theorem outcome_sameMail (hw : w.InMemory) {o : Op} (quiet : o.Delivers = false) :
    w.SameMail (o.outcome w).2 := by
  cases o with
  | create p =>
    rw [outcome_create hw]
    split
    · next s created =>
      have written : s = w.store.put p := (MemoryStore.create_eq_ok.mp created).2
      exact ⟨by rw [written]; rfl, rfl, rfl, rfl, rfl, rfl⟩
    · exact ⟨rfl, rfl, rfl, rfl, rfl, rfl⟩
  | updateIf p e =>
    rw [outcome_updateIf hw]
    split
    · next s updated =>
      obtain ⟨_, _, _, written⟩ := MemoryStore.updateIf_eq_ok.mp updated
      exact ⟨by rw [written]; rfl, rfl, rfl, rfl, rfl, rfl⟩
    · exact ⟨rfl, rfl, rfl, rfl, rfl, rfl⟩
  | delete k =>
    rw [outcome_delete hw]
    exact ⟨rfl, rfl, rfl, rfl, rfl, rfl⟩
  | provision p =>
    rw [outcome_provision hw]
    split
    · next created d provisioned =>
      obtain ⟨-, -, -, -, -, added⟩ := MemoryDirectory.provision_eq_ok provisioned
      exact ⟨rfl, added.publishers, added.organizations, added.welcomeSlug, rfl, rfl⟩
    · exact ⟨rfl, rfl, rfl, rfl, rfl, rfl⟩
  | deliver m => cases quiet
  | _ => exact sameMail_of_keeps hw rfl rfl quiet

end World

namespace Script
open World
variable {w : World} {α : Type}

theorem transport_eq (hw : w.InMemory) (s : Script α) :
    (s.outcome w).2.mailer.transport = w.mailer.transport :=
  (Everywhere.keeps (I := World.InMemory) (R := fun w w' => w'.mailer.transport = w.mailer.transport)
    (fun _ => rfl) (fun first second => second.trans first)
    (fun o _ hw _ => ⟨outcome_transport hw o, (outcome_follows hw o).inMemory⟩)
    (Everywhere.of_forall (P := fun _ => True) (fun _ => trivial) s) hw).1

theorem sameMail (hw : w.InMemory) {s : Script α} (calls : Everywhere (·.Delivers = false) s) :
    w.SameMail (s.outcome w).2 :=
  (Everywhere.keeps (I := World.InMemory) (R := World.SameMail) SameMail.refl
    (fun first second => first.trans second)
    (fun _ _ hw quiet => ⟨outcome_sameMail hw quiet, (outcome_follows hw _).inMemory⟩) calls hw).1

theorem Guards.outcome {P : Op → Prop} {R : α → Prop} {s : Script α}
    (guards : Guards (fun _ _ => True) P R s) (w : World) : R (s.outcome w).1 := by
  induction guards generalizing w with
  | done ends => exact ends
  | call _ _ ih => exact ih _ trivial _

end Script

namespace ServiceAct
open Script
variable {α β : Type} {w : World} {R S : α → Prop} {x : ServiceAct α}

/-- Every value `x` can end well with satisfies `R`, whatever its calls answer. -/
def Returns (R : α → Prop) (x : ServiceAct α) : Prop :=
  Guards (fun _ _ => True) (fun _ => True) (Yields R) x.run

theorem Returns.any (x : ServiceAct α) : x.Returns fun _ => True :=
  guards_of_everywhere (Everywhere.of_forall (fun _ => trivial) _) fun _ => trivial

theorem Returns.pure {a : α} (holds : R a) : (pure a : ServiceAct α).Returns R :=
  guards_pure holds

theorem Returns.bind {S : β → Prop} {f : α → ServiceAct β} (first : x.Returns R)
    (rest : ∀ a, R a → (f a).Returns S) : (x >>= f).Returns S :=
  guards_bind first rest

theorem Returns.mono (returns : x.Returns R) (weaker : ∀ a, R a → S a) : x.Returns S :=
  Guards.mono returns fun _ yields a ok => weaker a (yields a ok)

theorem Returns.holds (returns : x.Returns R) (w : World) : Holds x (fun r _ => Yields R r) w :=
  returns.outcome w

theorem holds_bind_yields {S : β → Prop} {f : α → ServiceAct β}
    (first : Holds x (fun r _ => Yields R r) w) (rest : ∀ a, R a → (f a).Returns S) :
    Holds (x >>= f) (fun r _ => Yields S r) w := by
  rw [holds_bind]
  refine first.mono fun r w' yields => ?_
  cases r with
  | ok a => exact (rest a (yields a rfl)).holds w'
  | error e => exact ServiceAct.yields_error _ _

end ServiceAct

namespace Service
open ServiceAct World
variable {w : World}

/-! The notification step. -/

theorem composeEmail_eq (source : TemplateSource) (sender : String) (e : Event) (attrs : Attributes)
    (recipients : List String) :
    composeEmail source sender e attrs recipients =
      if recipients.isEmpty then .error (.noRecipients e.name)
      else (source.load e).map fun template =>
        ⟨sender, recipients, e.subject, render template attrs, "html"⟩ := by
  unfold composeEmail
  cases recipients.isEmpty with
  | true => rfl
  | false => cases source.load e <;> rfl

theorem dispatch_sent (memory : w.mailer.transport = .memory) (e : Event) (attrs : Attributes)
    (recipients : List String) :
    ((dispatch e attrs recipients).outcome w).2.mailer.sent =
      w.mailer.sent ++ (w.recordedMail e recipients attrs).toList := by
  unfold dispatch
  rw [Script.outcome_bind, Script.outcome_op, outcome_settings]
  dsimp only
  rw [composeEmail_eq]
  unfold recordedMail
  cases empty : recipients.isEmpty with
  | true => exact (List.append_nil _).symm
  | false =>
    cases load : w.settings.templates.load e with
    | error err =>
      simp only [Bool.false_eq_true, ↓reduceIte, Except.map, Bool.false_or, ite_self]
      exact (List.append_nil _).symm
    | ok template =>
      simp only [Bool.false_eq_true, ↓reduceIte, Except.map, Bool.false_or]
      refine (outcome_deliver_sent memory _).trans ?_
      cases w.mailer.failing <;> cases w.finishesInTime <;> rfl

theorem notifyTeam_sent (hw : w.InMemory) (memory : w.mailer.transport = .memory) (e : Event)
    (p : Proposal) :
    ((notifyTeam e p).outcome w).2.mailer.sent =
      w.mailer.sent ++ ((w.onlyRepository p.organizationNodeId).bind (w.teamMail e p.toDto)).toList := by
  unfold notifyTeam
  rw [Script.outcome_bind, Script.outcome_op, outcome_repository hw, onlyRepository_eq]
  dsimp only
  cases found : w.store.repository p.organizationNodeId with
  | error err => exact (List.append_nil _).symm
  | ok R =>
    dsimp only
    rw [Script.outcome_bind, Script.outcome_op, outcome_publishingTeam (hw.countStore _)]
    dsimp only
    unfold teamMail
    split
    · next empty =>
      simp only [MemoryDirectory.publishingTeam, countStore_directory] at empty
      simp only [Except.toOption, Option.bind, recordedMail, empty, Bool.true_or, if_true]
      exact (List.append_nil _).symm
    · rw [Script.outcome_bind, Script.outcome_op, outcome_settings]
      simp only [Except.toOption, Option.bind]
      apply dispatch_sent
      exact memory

theorem notifyOwner_sent (hw : w.InMemory) (memory : w.mailer.transport = .memory) (e : Event)
    (p : Proposal) (org : String) :
    ((notifyOwner e p org).outcome w).2.mailer.sent =
      w.mailer.sent ++ ((w.onlyRepository org).bind (w.ownerMail e p.toDto)).toList := by
  unfold notifyOwner
  rw [Script.outcome_bind, Script.outcome_op, outcome_repository hw, onlyRepository_eq]
  dsimp only
  cases found : w.store.repository org with
  | error err => exact (List.append_nil _).symm
  | ok R =>
    dsimp only
    rw [Script.outcome_bind, Script.outcome_op, outcome_welcomeWorkspace (hw.countStore _)]
    simp only [countStore_directory, Except.toOption, Option.bind]
    unfold ownerMail
    rw [welcome_eq]
    cases welcomed : w.directory.welcomeWorkspace with
    | error err => exact (List.append_nil _).symm
    | ok W =>
      dsimp only
      split
      · next empty =>
        simp only [recordedMail, Proposal.toDto, empty, Bool.true_or, if_true]
        exact (List.append_nil _).symm
      · rw [Script.outcome_bind, Script.outcome_op, outcome_settings]
        -- the welcome workspace's id is inserted last, as the service inserts it
        simp only [Except.toOption, Option.bind, Attributes.ofList_append_singleton]
        apply dispatch_sent
        exact memory

/-! The persisting part: what it answers, from what it found. -/

theorem persistTransition_returns (t : Transition) (p : Proposal) :
    (persistTransition t p).Returns (·.organizationNodeId = p.organizationNodeId) :=
  (Returns.any _).bind fun _ _ => (Returns.any _).bind fun _ _ =>
    Returns.pure (Transition.apply_organizationNodeId _ _ _)

theorem holds_readProposal (hw : w.InMemory) (op : String) (u : Int) (n : String) :
    Holds (viaStore op (Script.op (.proposal u n)))
      (fun r _ => Yields (fun p => w.store.proposal u n = .ok p) r) w := by
  show Yields _ (((Op.proposal u n).outcome w).1.mapError (ServiceError.ofStorage op))
  rw [outcome_proposal hw]
  cases w.store.proposal u n with
  | ok p =>
    intro q same
    cases same
    rfl
  | error e => exact ServiceAct.yields_error _ _

theorem persistSubmit_origin (hw : w.InMemory) (u : Int) (n : String) :
    Holds (persistSubmit u n) (fun r _ => Yields (fun q => ∃ before,
      Transition.submit.found w u n = some before ∧
        q.organizationNodeId = before.organizationNodeId) r) w := by
  unfold persistSubmit
  dsimp only
  refine holds_bind_yields (holds_readProposal hw _ u n) fun p read => ?_
  refine (Returns.any _).bind fun _ _ => (Returns.any _).bind fun repo _ => ?_
  split
  · exact .done (ServiceAct.yields_error _ _)
  · split
    · exact .done (ServiceAct.yields_error _ _)
    · exact (persistTransition_returns _ _).mono fun q same =>
        ⟨p, by rw [Transition.found, read]; rfl, same⟩

theorem persistWithdraw_origin (hw : w.InMemory) (u : Int) (n : String) :
    Holds (persistWithdraw u n) (fun r _ => Yields (fun q => ∃ before,
      Transition.withdraw.found w u n = some before ∧
        q.organizationNodeId = before.organizationNodeId) r) w :=
  holds_bind_yields (holds_readProposal hw _ u n) fun p read =>
    ((Returns.any _).bind fun _ _ => persistTransition_returns _ p).mono fun _ same =>
      ⟨p, by rw [Transition.found, read]; rfl, same⟩

theorem findForRepository.settled_refuses (hw : w.InMemory) (t : Transition) (r : Int)
    (n op c k : String) (statuses : List Status) (others : ∀ s ∈ statuses, s ≠ t.source) :
    Holds (findForRepository.settled t r n op c k statuses)
      (fun res _ => Yields (fun _ => False) res) w := by
  induction statuses generalizing w with
  | nil => exact ServiceAct.yields_error _ _
  | cons s rest ih =>
    unfold findForRepository.settled
    rw [holds_bind, holds_lift, Script.holds_op, outcome_proposalForRepository hw]
    dsimp only
    cases found : w.store.proposalForRepository r s n with
    | ok p =>
      -- the lookup answers a record in the status it asked for, which the check refuses
      have moved : p.status ≠ t.source := by
        rw [MemoryStore.proposalForRepository_status found]
        exact others s List.mem_cons_self
      have refused : checkStatus t p =
          throw (ServiceError.wrongStatus t.operation p.nodeId p.status t.source) := by
        unfold checkStatus
        rw [if_pos (bne_iff_ne.mpr moved)]
      dsimp only
      rw [refused]
      exact ServiceAct.yields_error _ _
    | error e =>
      split
      · next answered => cases answered
      · exact ih (hw.countStore _) fun s' mem => others s' (List.mem_cons_of_mem _ mem)
      · exact (holds_throw _).mpr (ServiceAct.yields_error _ _)

theorem findForRepository_origin (hw : w.InMemory) {t : Transition}
    (source : t.source = .submitted) (r : Int) (n : String) :
    Holds (findForRepository t r n)
      (fun res _ => Yields (fun p => w.store.proposalForRepository r .submitted n = .ok p) res) w := by
  unfold findForRepository
  rw [holds_bind, holds_lift, Script.holds_op, outcome_proposalForRepository hw]
  dsimp only
  cases found : w.store.proposalForRepository r t.source n with
  | ok p =>
    intro q same
    cases same
    rw [← source, found]
  | error e =>
    split
    · exact (findForRepository.settled_refuses (hw.countStore _) t r n _ _ _ _
        (by rw [source]; decide)).mono fun _ _ refused q ok => (refused q ok).elim
    · exact (holds_throw _).mpr (ServiceAct.yields_error _ _)
    · next answered => cases answered

theorem persistReject_origin (hw : w.InMemory) (r : Int) (n : String) :
    Holds (persistReject r n) (fun res _ => Yields (fun q => ∃ before,
      Transition.reject.found w r n = some before ∧
        q.organizationNodeId = before.organizationNodeId) res) w :=
  holds_bind_yields (findForRepository_origin hw rfl r n) fun p found =>
    (persistTransition_returns _ p).mono fun _ same =>
      ⟨p, by rw [Transition.found, found]; rfl, same⟩

theorem persistAccept_origin (hw : w.InMemory) (r : Int) (n : String) :
    Holds (persistAccept r n) (fun res _ => Yields (fun a => ∃ before,
      Transition.accept.found w r n = some before ∧ a.2 = before.organizationNodeId) res) w := by
  unfold persistAccept
  dsimp only
  refine holds_bind_yields (findForRepository_origin hw rfl r n) fun p found => ?_
  exact (Returns.any _).bind fun _ _ => (Returns.any _).bind fun _ _ =>
    (Returns.any _).bind fun _ _ => Returns.pure ⟨p, by rw [Transition.found, found]; rfl, rfl⟩

/-! A whole call. -/

theorem outcome_then {α β : Type} (x : ServiceAct α) (notice : α → Script Unit) (view : α → β)
    (w : World) :
    (x >>= fun a => (liftM (notice a) : ServiceAct Unit) >>= fun _ => pure (view a)).run.outcome w =
      match x.run.outcome w with
      | (.ok a, w₁) => (.ok (view a), ((notice a).outcome w₁).2)
      | (.error e, w₁) => (.error e, w₁) := by
  change (x.run >>= _).outcome w = _
  rw [Script.outcome_bind]
  generalize x.run.outcome w = persisted
  obtain ⟨r, w₁⟩ := persisted
  cases r with
  | error e => rfl
  | ok a =>
    change ((liftM (notice a) : ServiceAct Unit) >>= fun _ => pure (view a)).run.outcome w₁ = _
    rw [run_lift_bind, Script.outcome_bind]
    rfl

theorem sent_notified {α : Type} (t : Transition) (who : Int) (n : String) {x : ServiceAct α}
    {notice : α → Script Unit} {view : α → ProposalDto} (workspace : α → String)
    (hw : w.InMemory) (memory : w.mailer.transport = .memory)
    (persists : Script.Everywhere (·.Persists = true) x.run)
    (origin : Holds x (fun r _ => Yields (fun a => ∃ before, t.found w who n = some before ∧
      workspace a = before.organizationNodeId) r) w)
    (notified : ∀ a {w' : World}, w'.InMemory → w'.mailer.transport = .memory →
      ((notice a).outcome w').2.mailer.sent =
        w'.mailer.sent ++ (t.mail w' (workspace a) (view a)).toList) :
    ((x >>= fun a => (liftM (notice a) : ServiceAct Unit) >>= fun _ => pure (view a)).run.outcome
        w).2.mailer.sent =
      w.mailer.sent ++ t.sent w who n
        ((x >>= fun a => (liftM (notice a) : ServiceAct Unit) >>= fun _ => pure (view a)).run.outcome
          w).1 := by
  rw [outcome_then]
  have same := Script.sameMail hw (persists.mono fun _ => Op.Persists.delivers)
  have after := (Script.follows hw x.run).inMemory
  rw [holds_iff] at origin
  -- split the run where the persisting part ends
  generalize x.run.outcome w = persisted at same after origin
  obtain ⟨r, w₁⟩ := persisted
  cases r with
  | error e =>
    show w₁.mailer.sent = w.mailer.sent ++ []
    rw [same.mailer, List.append_nil]
  | ok a =>
    obtain ⟨before, found, workspace⟩ := origin a rfl
    show ((notice a).outcome w₁).2.mailer.sent = w.mailer.sent ++ t.sent w who n (.ok (view a))
    rw [notified a after (same.mailer ▸ memory), same.mailer, workspace, same.mail]
    unfold Transition.sent
    rw [found]

theorem sent_transition (hw : w.InMemory) (memory : w.mailer.transport = .memory) (t : Transition)
    (who : Int) (n : String) :
    ((t.act who n).run.outcome w).2.mailer.sent =
      w.mailer.sent ++ t.sent w who n ((t.act who n).run.outcome w).1 := by
  cases t with
  | submit =>
    exact sent_notified .submit who n (·.organizationNodeId) hw memory (persistSubmit_persists who n)
      (persistSubmit_origin hw who n) fun p _ hw' memory' => notifyTeam_sent hw' memory' _ p
  | withdraw =>
    exact sent_notified .withdraw who n (·.organizationNodeId) hw memory
      (persistWithdraw_persists who n) (persistWithdraw_origin hw who n)
      fun p _ hw' memory' => notifyTeam_sent hw' memory' _ p
  | accept =>
    exact sent_notified .accept who n (·.2) hw memory (persistAccept_persists who n)
      (persistAccept_origin hw who n) fun a _ hw' memory' => notifyOwner_sent hw' memory' _ a.1 a.2
  | reject =>
    exact sent_notified .reject who n (·.organizationNodeId) hw memory
      (persistReject_persists who n) (persistReject_origin hw who n)
      fun p _ hw' memory' => notifyOwner_sent hw' memory' _ p p.organizationNodeId

theorem createProposal_silent (u : Int) (input : ProposalDto) :
    Script.Everywhere (·.Delivers = false) (createProposal u input).run := by
  unfold createProposal
  dsimp only
  split
  · exact .done _
  · refine everywhere_bind (everywhere_viaDirectory (.op (by rfl)) _) fun _ => ?_
    refine everywhere_bind (everywhere_lift (.op (by rfl))) fun _ => ?_
    refine everywhere_bind (everywhere_lift (.op (by rfl))) fun _ => ?_
    exact everywhere_bind (everywhere_viaStore (.op (by rfl)) _) fun _ => .done _

theorem updateProposal_silent (u : Int) (existing changes : ProposalDto) :
    Script.Everywhere (·.Delivers = false) (updateProposal u existing changes).run := by
  unfold updateProposal
  dsimp only
  split
  · exact .done _
  · split
    · exact .done _
    · refine everywhere_bind (everywhere_viaDirectory (.op (by rfl)) _) fun _ => ?_
      refine everywhere_bind (everywhere_lift (.op (by rfl))) fun _ => ?_
      exact everywhere_bind (everywhere_viaStore (.op (by rfl)) _) fun _ => .done _

theorem Call.sent_act (hw : w.InMemory) (memory : w.mailer.transport = .memory) (c : Call) :
    (c.act.run.outcome w).2.mailer.sent = w.mailer.sent ++ c.mail w := by
  have silent {α : Type} {x : ServiceAct α} (calls : Script.Everywhere (·.Delivers = false) x.run) :
      (x.run.outcome w).2.mailer.sent = w.mailer.sent ++ [] := by
    rw [Script.mailer_eq hw calls, List.append_nil]
  cases c with
  | submit u n => exact sent_transition hw memory .submit u n
  | withdraw u n => exact sent_transition hw memory .withdraw u n
  | accept r n => exact sent_transition hw memory .accept r n
  | reject r n => exact sent_transition hw memory .reject r n
  | create u input => exact silent (createProposal_silent u input)
  | update u existing changes => exact silent (updateProposal_silent u existing changes)
  | delete d => exact silent (everywhere_viaStore (.op (by rfl)) _)
  | _ => exact silent ((Call.observes _ rfl).mono fun _ observes => Op.Quiet.delivers (Op.Observes.quiet observes))

namespace Step

theorem transport_perform (hw : w.InMemory) : (step : Step) →
    (step.perform w).mailer.transport = w.mailer.transport
  | .call c => Script.transport_eq hw c.act.run
  | .setClock _ | .advance _ | .failAt _ | .failSend _ => rfl

theorem sent_perform (hw : w.InMemory) (memory : w.mailer.transport = .memory) (step : Step) :
    (step.perform w).mailer.sent = w.mailer.sent ++ step.mail w := by
  cases step with
  | call c => exact c.sent_act hw memory
  | _ => exact (List.append_nil _).symm

end Step

/-- The mail over a run: from an in-memory world with the memory sender, whatever the steps,
the sender has recorded, after what it held, the emails of the run's steps in order, one for each
transition call that answered a record and whose notification step completed. -/
theorem sent_mail_over_run (w : World) (hw : w.InMemory) (memory : w.mailer.transport = .memory)
    (steps : List Step) :
    (afterSteps w steps).mailer.sent = w.mailer.sent ++ runMail w steps := by
  induction steps generalizing w with
  | nil => exact (List.append_nil _).symm
  | cons step rest ih =>
    calc (afterSteps w (step :: rest)).mailer.sent
        = (afterSteps (step.perform w) rest).mailer.sent := rfl
      _ = (step.perform w).mailer.sent ++ runMail (step.perform w) rest :=
        ih _ (step.perform_inMemory hw) ((step.transport_perform hw).trans memory)
      _ = w.mailer.sent ++ runMail w (step :: rest) := by
        rw [step.sent_perform hw memory, List.append_assoc]
        rfl

/-- Submitting the draft of `draftWorld`, with its memory sender, records the mail of that run. -/
theorem draft_submission_mail_recorded :
    draftWorld.InMemory ∧ draftWorld.mailer.transport = .memory ∧
      (afterSteps draftWorld [.call (.submit 1 "N:proposal:1")]).mailer.sent =
        draftWorld.mailer.sent ++ runMail draftWorld [.call (.submit 1 "N:proposal:1")] :=
  ⟨draftWorld_inMemory, rfl, sent_mail_over_run draftWorld draftWorld_inMemory rfl _⟩

end Service

end DatasetProposals
