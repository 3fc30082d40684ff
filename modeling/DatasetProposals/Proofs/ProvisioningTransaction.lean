import DatasetProposals.Directory.Relational
/-! Provisioning on the relational directory as one transaction, through plans of statements
(`Ran`, `RunsPlan`). Main statement: `provisioning_is_one_transaction`. -/
namespace DatasetProposals
open Sql

/-! Sessions, statement by statement. -/

namespace Session

theorem send_run (fail : String → DirectoryError) (sql : String) (bound : List Param) (srv : Server) :
    (send fail sql bound).run.run srv =
      ((srv.answer sql bound).mapError fail, { srv with log := srv.log ++ [(sql, bound)] }) := rfl

theorem bind_run {α β : Type} (c : Session α) (k : α → Session β) (srv : Server) :
    (c >>= k).run.run srv = match c.run.run srv with
      | (.ok a, srv') => (k a).run.run srv'
      | (.error e, srv') => (.error e, srv') := by
  simp only [ExceptT.run_bind, StateT.run_bind]
  rcases c.run.run srv with ⟨_ | _, _⟩ <;> rfl

theorem fetchOptional_run {α : Type} (fail : String → DirectoryError) (read : Row → Except String α)
    (sql : String) (bound : List Param) (srv : Server) :
    (fetchOptional fail read sql bound).run.run srv =
      (match srv.answer sql bound with
        | .error m => .error (fail m)
        | .ok reply =>
          match reply.rowList.head? with
          | none => .ok none
          | some row => ((read row).mapError fail).map some,
        { srv with log := srv.log ++ [(sql, bound)] }) := by
  simp only [fetchOptional, bind_run, send_run]
  rcases srv.answer sql bound with m | reply
  · rfl
  · dsimp only [Except.mapError]
    rcases reply.rowList.head? with _ | row
    · rfl
    · dsimp only
      rcases read row with m | a <;> rfl

end Session

/-! The transaction as a sequence of stages. -/

abbrev Answers := String → List Param → Except String Reply

/-- What provisioning asks of the reply to one of its statements; a row is checked by reading it. -/
inductive Demand : Type 1 where
  | answer
  | row {α : Type} (read : Row → Except String α) (missing : DirectoryError)
  | rowOrNext {α : Type} (read : Row → Except String α)

/-- A statement of the transaction: its text, the error a failed statement or an unreadable row
is reported as, and what it asks of the reply. -/
structure Stage : Type 1 where
  sql : String
  fail : String → DirectoryError
  demand : Demand

/-- Where a reply leaves the transaction. -/
inductive StageVerdict where
  | next
  | skipNext
  | stop (e : DirectoryError)

def Stage.verdict (st : Stage) : Except String Reply → StageVerdict
  | .error m => .stop (st.fail m)
  | .ok reply =>
    match st.demand, reply.rowList.head? with
    | .answer, _ => .next
    | .row _ missing, none => .stop missing
    | .row read _, some row =>
      match read row with
      | .ok _ => .next
      | .error m => .stop (st.fail m)
    | .rowOrNext _, none => .next
    | .rowOrNext read, some row =>
      match read row with
      | .ok _ => .skipNext
      | .error m => .stop (st.fail m)

/-- A run of the stages `plan` against the answers `ans` that sent `sent` and ended with
`outcome`, the error it stopped with or none. Each statement sent is that of the next stage; every
one but the last lets the run go on, and the last one stops it unless the stages ran out. -/
inductive Ran (ans : Answers) :
    List Stage → List (String × List Param) → Option DirectoryError → Prop
  | finished : Ran ans [] [] none
  | stop {st : Stage} {plan bound e} : st.verdict (ans st.sql bound) = .stop e →
      Ran ans (st :: plan) [(st.sql, bound)] (some e)
  | next {st : Stage} {plan bound sent outcome} : st.verdict (ans st.sql bound) = .next →
      Ran ans plan sent outcome → Ran ans (st :: plan) ((st.sql, bound) :: sent) outcome
  | skip {st skipped : Stage} {plan bound sent outcome} :
      st.verdict (ans st.sql bound) = .skipNext →
      Ran ans plan sent outcome → Ran ans (st :: skipped :: plan) ((st.sql, bound) :: sent) outcome

namespace Ran

variable {ans : Answers}

theorem append_finished {p₁ p₂ : List Stage} {s₁ s₂ : List (String × List Param)}
    {o₁ o : Option DirectoryError} (first : Ran ans p₁ s₁ o₁) (done : o₁ = none)
    (rest : Ran ans p₂ s₂ o) : Ran ans (p₁ ++ p₂) (s₁ ++ s₂) o := by
  induction first with
  | finished => exact rest
  | stop => cases done
  | next verdict _ ih => exact .next verdict (ih done)
  | skip verdict _ ih => exact .skip verdict (ih done)

theorem append_stopped {p₁ p₂ : List Stage} {s₁ : List (String × List Param)}
    {o₁ : Option DirectoryError} {e : DirectoryError} (first : Ran ans p₁ s₁ o₁)
    (stopped : o₁ = some e) : Ran ans (p₁ ++ p₂) s₁ (some e) := by
  induction first with
  | finished => cases stopped
  | stop verdict => cases stopped; exact .stop verdict
  | next verdict _ ih => exact .next verdict (ih stopped)
  | skip verdict _ ih => exact .skip verdict (ih stopped)

end Ran

def failureOf {α : Type} : Except DirectoryError α → Option DirectoryError
  | .ok _ => none
  | .error e => some e

/-- `a` is what `read` makes of the first row of the answer to `sql` with `bound`. -/
def ReadsRow {α : Type} (ans : Answers) (sql : String) (bound : List Param)
    (read : Row → Except String α) (a : α) : Prop :=
  ∃ reply row, ans sql bound = .ok reply ∧ reply.rowList.head? = some row ∧ read row = .ok a

/-- Run on any server, the session sends the statements of a run of `plan` against that server's
answers, only adds them to the log, fails with the error the run stopped with, and returns only
values that `post` allows for those answers. -/
def RunsPlan {α : Type} (c : Session α) (plan : List Stage) (post : Answers → α → Prop) : Prop :=
  ∀ srv : Server, ∃ sent, (c.run.run srv).2 = { srv with log := srv.log ++ sent } ∧
    Ran srv.answer plan sent (failureOf (c.run.run srv).1) ∧
    ∀ a, (c.run.run srv).1 = .ok a → post srv.answer a

namespace RunsPlan

variable {α β : Type}

theorem pure (a : α) : RunsPlan (Pure.pure a : Session α) [] (fun _ b => b = a) :=
  fun srv => ⟨[], by simp only [List.append_nil]; rfl, .finished, fun _ ok => (Except.ok.inj ok).symm⟩

theorem mono {c : Session α} {plan : List Stage} {post post' : Answers → α → Prop}
    (runs : RunsPlan c plan post) (weaken : ∀ ans a, post ans a → post' ans a) :
    RunsPlan c plan post' := by
  intro srv
  obtain ⟨sent, state, ran, returned⟩ := runs srv
  exact ⟨sent, state, ran, fun a ok => weaken _ _ (returned a ok)⟩

theorem bind {c : Session α} {k : α → Session β} {p₁ p₂ : List Stage}
    {first : Answers → α → Prop} {rest : α → Answers → β → Prop}
    (runsFirst : RunsPlan c p₁ first) (runsRest : ∀ a, RunsPlan (k a) p₂ (rest a)) :
    RunsPlan (c >>= k) (p₁ ++ p₂) (fun ans b => ∃ a, first ans a ∧ rest a ans b) := by
  intro srv
  obtain ⟨sent₁, state₁, ran₁, returned₁⟩ := runsFirst srv
  rw [Session.bind_run]
  rcases result : c.run.run srv with ⟨r, srv₁⟩
  rw [result] at state₁ ran₁ returned₁
  dsimp only at state₁ ran₁ returned₁
  subst state₁
  rcases r with e | a
  · exact ⟨sent₁, rfl, ran₁.append_stopped rfl, fun _ failed => nomatch failed⟩
  · obtain ⟨sent₂, state₂, ran₂, returned₂⟩ := runsRest a { srv with log := srv.log ++ sent₁ }
    refine ⟨sent₁ ++ sent₂, ?_, ran₁.append_finished rfl ran₂,
      fun b ok => ⟨a, returned₁ a rfl, returned₂ b ok⟩⟩
    rw [state₂, List.append_assoc]

theorem cons_bind {c : Session α} {k : α → Session β} {st : Stage} {plan : List Stage}
    {first : Answers → α → Prop} {rest : α → Answers → β → Prop}
    (runsFirst : RunsPlan c [st] first) (runsRest : ∀ a, RunsPlan (k a) plan (rest a)) :
    RunsPlan (c >>= k) (st :: plan) (fun ans b => ∃ a, first ans a ∧ rest a ans b) :=
  runsFirst.bind runsRest

end RunsPlan

namespace Session

variable {α : Type}

theorem runsPlan_send (fail : String → DirectoryError) (sql : String) (bound : List Param) :
    RunsPlan (send fail sql bound) [⟨sql, fail, .answer⟩] (fun _ _ => True) := by
  intro srv
  refine ⟨[(sql, bound)], rfl, ?_, fun _ _ => trivial⟩
  rw [send_run]
  rcases answered : srv.answer sql bound with m | reply
  · exact .stop (by simp only [answered]; rfl)
  · exact .next (by simp only [answered]; rfl) .finished

theorem fetchRequired_run (fail : String → DirectoryError) (missing : DirectoryError)
    (read : Row → Except String α) (sql : String) (bound : List Param) (srv : Server) :
    (fetchRequired fail missing read sql bound).run.run srv =
      (match srv.answer sql bound with
        | .error m => .error (fail m)
        | .ok reply =>
          match reply.rowList.head? with
          | none => .error missing
          | some row => (read row).mapError fail,
        { srv with log := srv.log ++ [(sql, bound)] }) := by
  simp only [fetchRequired, bind_run, fetchOptional_run]
  rcases srv.answer sql bound with m | reply
  · rfl
  · dsimp only
    rcases reply.rowList.head? with _ | row
    · rfl
    · dsimp only
      rcases read row with m | a <;> rfl

theorem runsPlan_fetchRequired (fail : String → DirectoryError) (missing : DirectoryError)
    (read : Row → Except String α) (sql : String) (bound : List Param) :
    RunsPlan (fetchRequired fail missing read sql bound) [⟨sql, fail, .row read missing⟩]
      (fun ans a => ReadsRow ans sql bound read a) := by
  intro srv
  refine ⟨[(sql, bound)], ?_⟩
  rw [fetchRequired_run]
  rcases answered : srv.answer sql bound with m | reply
  · exact ⟨rfl, .stop (by simp only [answered]; rfl), fun _ failed => nomatch failed⟩
  · dsimp only
    rcases first : reply.rowList.head? with _ | row
    · exact ⟨rfl, .stop (by simp only [answered, Stage.verdict, first]), fun _ failed => nomatch failed⟩
    · dsimp only
      rcases reading : read row with m | a <;> dsimp only [Except.mapError]
      · exact ⟨rfl, .stop (by simp only [answered, Stage.verdict, first, reading]),
          fun _ failed => nomatch failed⟩
      · refine ⟨rfl, .next (by simp only [answered, Stage.verdict, first, reading]) .finished, ?_⟩
        rintro b ⟨⟩
        exact ⟨reply, row, answered, first, reading⟩

end Session

namespace RelationalDirectory

theorem runsPlan_contributorFor (user : User) :
    RunsPlan (contributorFor user)
      [⟨Statement.contributorOf, .stepFailed .addContributor, .rowOrNext Row.firstInt64⟩,
       ⟨Statement.addContributor, .stepFailed .addContributor,
         .row Row.firstInt64 (.stepFailed .addContributor noRows)⟩]
      (fun ans c => ReadsRow ans Statement.contributorOf [.int user.id] Row.firstInt64 c ∨
        ReadsRow ans Statement.addContributor
          [.text user.firstName, .text user.lastName, .text user.email, .int user.id] Row.firstInt64 c) := by
  intro srv
  rw [contributorFor, Session.bind_run, Session.fetchOptional_run]
  rcases answered : srv.answer Statement.contributorOf [.int user.id] with m | reply
  · exact ⟨_, rfl, .stop (by simp only [answered]; rfl), fun _ failed => nomatch failed⟩
  · dsimp only
    rcases first : reply.rowList.head? with _ | row
    · -- no contributor yet: the insert runs on the server that logged the lookup
      dsimp only
      obtain ⟨sent, state, ran, returned⟩ :=
        Session.runsPlan_fetchRequired (.stepFailed .addContributor)
          (.stepFailed .addContributor noRows) Row.firstInt64 Statement.addContributor
          [.text user.firstName, .text user.lastName, .text user.email, .int user.id]
          { srv with log := srv.log ++ [(Statement.contributorOf, [.int user.id])] }
      have passes : Stage.verdict ⟨Statement.contributorOf, .stepFailed .addContributor,
          .rowOrNext Row.firstInt64⟩ (srv.answer Statement.contributorOf [.int user.id]) = .next := by
        simp only [answered, Stage.verdict, first]
      refine ⟨(Statement.contributorOf, [.int user.id]) :: sent, ?_, .next passes ran,
        fun c ok => .inr (returned c ok)⟩
      rw [Session.fetchOne, state, List.append_assoc]
      rfl
    · dsimp only
      rcases reading : Row.firstInt64 row with m | c <;> dsimp only [Except.map, Except.mapError]
      · exact ⟨_, rfl, .stop (by simp only [answered, Stage.verdict, first, reading]),
          fun _ failed => nomatch failed⟩
      · refine ⟨_, rfl, .skip (by simp only [answered, Stage.verdict, first, reading]) .finished, ?_⟩
        rintro c' ⟨⟩
        exact .inl ⟨reply, row, answered, first, reading⟩

def provisioningStages (organizationId : Int) (p : Proposal) : List Stage :=
  [⟨Statement.searchPath organizationId, backendIn "set search path", .answer⟩,
   ⟨Statement.userById, .stepFailed .resolveUser,
     .row User.ofRow (.stepFailed .resolveUser ("user " ++ toString p.userId ++ " does not exist"))⟩,
   ⟨Statement.organizationById, .stepFailed .resolveOrganization,
     .row Organization.ofRow (.stepFailed .resolveOrganization
       ("organization " ++ toString organizationId ++ " does not exist"))⟩,
   ⟨Statement.addMembership, .stepFailed .addGuestMembership, .answer⟩,
   ⟨Statement.datasetStatus, .stepFailed .resolveDatasetStatus,
     .row Row.firstInt32 (.stepFailed .resolveDatasetStatus "organization has no dataset status")⟩,
   ⟨Statement.dataUseAgreement, .stepFailed .resolveDataUseAgreement,
     .row Row.firstInt32 (.stepFailed .resolveDataUseAgreement
       "organization has no default data use agreement")⟩,
   ⟨Statement.createDataset, .stepFailed .createDataset,
     .row Dataset.ofRow (.stepFailed .createDataset noRows)⟩,
   ⟨Statement.contributorOf, .stepFailed .addContributor, .rowOrNext Row.firstInt64⟩,
   ⟨Statement.addContributor, .stepFailed .addContributor,
     .row Row.firstInt64 (.stepFailed .addContributor noRows)⟩,
   ⟨Statement.attachContributor, .stepFailed .attachContributor, .answer⟩,
   ⟨Statement.addOwner, .stepFailed .addOwner, .answer⟩]

def transactionPlan (organizationId : Int) (p : Proposal) : List Stage :=
  ⟨"BEGIN", backendIn "begin transaction", .answer⟩ :: provisioningStages organizationId p ++
    [⟨"COMMIT", fun m => .stepFailed .addOwner ("commit: " ++ m), .answer⟩]

/-- What a provisioning that succeeds returns, read off the server's answers: the owner and the
organization as their lookups returned them, and the dataset as the insert returned it, for the
first dataset status and the default data use agreement. -/
structure ReadBack (ans : Answers) (organizationId : Int) (p : Proposal) (nodeId : String)
    (created : CreatedDataset) : Prop where
  user : ReadsRow ans Statement.userById [.int p.userId] User.ofRow created.user
  organization :
    ReadsRow ans Statement.organizationById [.int organizationId] Organization.ofRow created.organization
  dataset : ∃ status agreement, ReadsRow ans Statement.datasetStatus [] Row.firstInt32 status ∧
    ReadsRow ans Statement.dataUseAgreement [] Row.firstInt32 agreement ∧
    ReadsRow ans Statement.createDataset [.text p.name, .text nodeId, .int status, .int agreement]
      Dataset.ofRow created.dataset

theorem runsPlan_provisionSteps (organizationId : Int) (p : Proposal) (nodeId : String) :
    RunsPlan (provisionSteps organizationId p nodeId) (provisioningStages organizationId p)
      (fun ans created => ReadBack ans organizationId p nodeId created) := by
  refine .mono (.cons_bind (Session.runsPlan_send _ _ _) fun _ =>
    .cons_bind (Session.runsPlan_fetchRequired _ _ _ _ _) fun user =>
    .cons_bind (Session.runsPlan_fetchRequired _ _ _ _ _) fun org =>
    .cons_bind (Session.runsPlan_send _ _ _) fun _ =>
    .cons_bind (Session.runsPlan_fetchRequired _ _ _ _ _) fun status =>
    .cons_bind (Session.runsPlan_fetchRequired _ _ _ _ _) fun agreement =>
    .cons_bind (Session.runsPlan_fetchRequired _ _ _ _ _) fun dataset =>
    .bind (runsPlan_contributorFor user) fun _ =>
    .cons_bind (Session.runsPlan_send _ _ _) fun _ =>
    .cons_bind (Session.runsPlan_send _ _ _) fun _ =>
    .pure _) ?_
  rintro ans created ⟨-, -, user, readsUser, org, readsOrg, -, -, status, readsStatus,
    agreement, readsAgreement, dataset, readsDataset, -, -, -, -, -, -, rfl⟩
  exact ⟨readsUser, readsOrg, status, agreement, readsStatus, readsAgreement, readsDataset⟩

theorem runsPlan_provision (organizationId : Int) (p : Proposal) (nodeId : String) :
    RunsPlan (provision organizationId p nodeId) (transactionPlan organizationId p)
      (fun ans created => ReadBack ans organizationId p nodeId created) := by
  refine .mono (.cons_bind (Session.runsPlan_send _ _ _) fun _ =>
    .bind (runsPlan_provisionSteps _ _ _) fun created =>
    .cons_bind (Session.runsPlan_send _ _ _) fun _ =>
    .pure created) ?_
  rintro ans created ⟨-, -, created, readBack, -, -, rfl⟩
  exact readBack

theorem run_eq {α : Type} (d : RelationalDirectory) (s : Session α) :
    d.run s = ((s.run.run d.server).1, { d with server := (s.run.run d.server).2 }) := rfl

/-- Provisioning is one transaction on any server: the statements it sends are a run of
BEGIN, the provisioning statements and COMMIT, in that order, against the server's answers,
stopping at the first statement that fails or lacks its row and failing with that statement's
error; only the log of the connection changes; and what it returns on success is what the server's
rows give. -/
theorem provisioning_is_one_transaction (d : RelationalDirectory) (p : Proposal) (nodeId : String) :
    ∃ sent, (d.run (provision d.organizationId p nodeId)).2 =
        { d with server := { d.server with log := d.server.log ++ sent } } ∧
      Ran d.server.answer (transactionPlan d.organizationId p) sent
        (failureOf (d.run (provision d.organizationId p nodeId)).1) ∧
      ∀ created, (d.run (provision d.organizationId p nodeId)).1 = .ok created →
        ReadBack d.server.answer d.organizationId p nodeId created := by
  obtain ⟨sent, state, ran, returned⟩ := runsPlan_provision d.organizationId p nodeId d.server
  rw [run_eq, state]
  exact ⟨sent, rfl, ran, returned⟩

end RelationalDirectory

end DatasetProposals
