import DatasetProposals.Proofs.AcceptanceSteps
/-! The lookup behind acceptance and rejection. Main statement: `publisher_lookup_classified`. -/
namespace DatasetProposals

namespace MemoryStore

def matching (st : MemoryStore) (r : Int) (s : Status) (n : String) : List Proposal :=
  st.proposals.filter fun q => q.repositoryId == r && q.status == s && q.nodeId == n

theorem proposalForRepository_eq (st : MemoryStore) (r : Int) (s : Status) (n : String) :
    st.proposalForRepository r s n =
      single "dataset proposal" (repositoryLookupKey r s n) (st.matching r s n) := rfl

theorem mem_matching {st : MemoryStore} {r : Int} {s : Status} {n : String} {q : Proposal} :
    q ∈ st.matching r s n ↔
      q ∈ st.proposals ∧ q.repositoryId = r ∧ q.status = s ∧ q.nodeId = n := by
  simp [matching, and_assoc]

def nonDrafts (st : MemoryStore) : List Proposal := st.proposals.filter (·.status != .draft)

theorem matching_eq_of_nonDrafts {st st' : MemoryStore} {s : Status} (settled : s ≠ .draft)
    (same : st.nonDrafts = st'.nonDrafts) (r : Int) (n : String) :
    st.matching r s n = st'.matching r s n := by
  have through : ∀ l : List Proposal,
      (l.filter (·.status != .draft)).filter
          (fun q => q.repositoryId == r && q.status == s && q.nodeId == n) =
        l.filter fun q => q.repositoryId == r && q.status == s && q.nodeId == n := by
    intro l
    rw [List.filter_filter]
    refine List.filter_congr fun q _ => ?_
    by_cases status : q.status = s <;> simp [status, settled]
  unfold matching
  rw [← through st.proposals, ← through st'.proposals]
  exact congrArg (List.filter _) same

end MemoryStore

namespace Service
open MemoryStore

def settledVerdict (st : MemoryStore) (op : String) (r : Int) (n : String)
    (missing : ServiceError) : List Status → Except ServiceError Proposal
  | [] => .error missing
  | s :: rest =>
    match st.matching r s n with
    | [] => settledVerdict st op r n missing rest
    | [_] => .error (ServiceError.wrongStatus op n s .submitted)
    | found =>
      .error (.ambiguous op ("dataset proposal " ++ repositoryLookupKey r s n) found.length)

def publisherVerdict (st : MemoryStore) (op : String) (r : Int) (n : String) :
    Except ServiceError Proposal :=
  match st.matching r .submitted n with
  | [] => settledVerdict st op r n
      (.notFound op ("dataset proposal " ++ repositoryLookupKey r .submitted n))
      [.withdrawn, .accepted, .rejected]
  | [p] => .ok p
  | found => .error
      (.ambiguous op ("dataset proposal " ++ repositoryLookupKey r .submitted n) found.length)

theorem settledVerdict_ne_ok (st : MemoryStore) (op : String) (r : Int) (n : String)
    (missing : ServiceError) (statuses : List Status) (p : Proposal) :
    settledVerdict st op r n missing statuses ≠ .ok p := by
  induction statuses with
  | nil => exact fun wrong => nomatch wrong
  | cons s rest ih =>
    unfold settledVerdict
    split
    · exact ih
    · exact fun wrong => nomatch wrong
    · exact fun wrong => nomatch wrong

theorem publisherVerdict_eq_ok {st : MemoryStore} {op : String} {r : Int} {n : String}
    {p : Proposal} : publisherVerdict st op r n = .ok p ↔ st.matching r .submitted n = [p] := by
  unfold publisherVerdict
  split
  · next none =>
    rw [none]
    exact ⟨fun wrong => (settledVerdict_ne_ok _ _ _ _ _ _ _ wrong).elim,
      fun wrong => nomatch wrong⟩
  · next q only =>
    rw [only]
    simp [eq_comm]
  · next found notNone notOne =>
    constructor
    · exact fun wrong => nomatch wrong
    · exact fun one => absurd one (notOne p)

theorem publisherVerdict_eq_of_nonDrafts {st st' : MemoryStore}
    (same : st.nonDrafts = st'.nonDrafts) (op : String) (r : Int) (n : String) :
    publisherVerdict st op r n = publisherVerdict st' op r n := by
  have matched (s : Status) (settled : s ≠ .draft) := matching_eq_of_nonDrafts settled same r n
  simp only [publisherVerdict, settledVerdict, matched .submitted (by decide),
    matched .withdrawn (by decide), matched .accepted (by decide), matched .rejected (by decide)]

/-! The lookup on the in-memory store. -/

open ServiceAct World
variable {w : World}

theorem ofStorage_lookupAmbiguous (op : String) (r : Int) (s : Status) (n : String) (count : Nat) :
    ServiceError.ofStorage op (.ambiguous "dataset proposal" (repositoryLookupKey r s n) count) =
      .ambiguous op ("dataset proposal " ++ repositoryLookupKey r s n) count := by
  simp [ServiceError.ofStorage]

theorem settled_verdict (hw : w.InMemory) {t : Transition} (source : t.source = .submitted)
    (r : Int) (n c k : String) (statuses : List Status)
    (settled : ∀ s ∈ statuses, s ≠ .submitted) :
    Holds (findForRepository.settled t r n t.operation c k statuses)
      (fun res _ => res = settledVerdict w.store t.operation r n
        (ServiceError.ofStorage t.operation (.notFound c k)) statuses) w := by
  induction statuses generalizing w with
  | nil => rfl
  | cons s rest ih =>
    unfold findForRepository.settled
    rw [holds_bind, holds_lift, Script.holds_op, outcome_proposalForRepository hw]
    dsimp only
    rw [MemoryStore.proposalForRepository_eq]
    -- the repository holds the proposal in status `s` not at all, once, or several times
    rcases found : w.store.matching r s n with _ | ⟨q, _ | ⟨q', more⟩⟩
    · have rest := ih (hw.countStore .proposalForRepository) fun s' mem =>
        settled s' (List.mem_cons_of_mem _ mem)
      simp only [countStore_store] at rest
      simp only [settledVerdict, found]
      exact rest
    · have status : q.status = s := (mem_matching.mp (found ▸ List.mem_singleton_self q)).2.2.1
      have node : q.nodeId = n := (mem_matching.mp (found ▸ List.mem_singleton_self q)).2.2.2
      have moved : q.status ≠ t.source := by
        rw [status, source]
        exact settled s List.mem_cons_self
      show Holds (checkStatus t q >>= fun _ => pure q) _ _
      unfold checkStatus
      rw [if_pos (bne_iff_ne.mpr moved)]
      simp only [settledVerdict, found, status, node, source]
      rfl
    · simp only [MemoryStore.single, settledVerdict, found, holds_throw]
      exact congrArg Except.error (ofStorage_lookupAmbiguous _ _ _ _ _)

theorem findForRepository_verdict (hw : w.InMemory) {t : Transition}
    (source : t.source = .submitted) (r : Int) (n : String) :
    Holds (findForRepository t r n)
      (fun res _ => res = publisherVerdict w.store t.operation r n) w := by
  unfold findForRepository
  rw [holds_bind, holds_lift, Script.holds_op, outcome_proposalForRepository hw]
  dsimp only
  rw [MemoryStore.proposalForRepository_eq, source]
  rcases found : w.store.matching r .submitted n with _ | ⟨p, _ | ⟨p', more⟩⟩
  · have settled := settled_verdict (hw.countStore .proposalForRepository) source r n
      "dataset proposal" (repositoryLookupKey r .submitted n) [.withdrawn, .accepted, .rejected]
      (by decide)
    simp only [countStore_store] at settled
    simp only [publisherVerdict, found]
    refine settled.mono fun res _ same => same.trans ?_
    simp [ServiceError.ofStorage]
  · simp only [publisherVerdict, found]
    rfl
  · simp only [MemoryStore.single, publisherVerdict, found, holds_throw]
    exact congrArg Except.error (ofStorage_lookupAmbiguous _ _ _ _ _)

/-! Failures of the lookup. -/

theorem act_failed_lookup {t : Transition} (publisher : t = .accept ∨ t = .reject) {r : Int}
    {n : String} {e : ServiceError}
    (failed : ((findForRepository t r n).run.outcome w).1 = .error e) :
    (t.act r n).run.outcome w = (.error e, ((findForRepository t r n).run.outcome w).2) ∧
      (t.act r n).run.calls w = (findForRepository t r n).run.calls w := by
  have lookup : (findForRepository t r n).run.outcome w =
      (.error e, ((findForRepository t r n).run.outcome w).2) := Prod.ext failed rfl
  rcases publisher with rfl | rfl
  · obtain ⟨persisted, persistedCalls⟩ := persistAccept_failed_lookup lookup
    obtain ⟨answered, calls⟩ := ServiceAct.stops_at_error
      (f := fun a => (liftM (notifyOwner .accepted a.1 a.2) : ServiceAct Unit) >>= fun _ =>
        pure a.1.toDto) persisted
    exact ⟨answered, calls.trans persistedCalls⟩
  · obtain ⟨persisted, persistedCalls⟩ := ServiceAct.stops_at_error
      (f := persistTransition .reject) lookup
    obtain ⟨answered, calls⟩ := ServiceAct.stops_at_error
      (f := fun p => (liftM (notifyOwner .rejected p p.organizationNodeId) : ServiceAct Unit) >>=
        fun _ => pure p.toDto) persisted
    exact ⟨answered, calls.trans persistedCalls⟩

theorem act_failed_lookup_unchanged (hw : w.InMemory) {t : Transition}
    (publisher : t = .accept ∨ t = .reject) {r : Int} {n : String} {e : ServiceError}
    (failed : ((findForRepository t r n).run.outcome w).1 = .error e) :
    ((t.act r n).run.outcome w).1 = .error e ∧ Unchanged w ((t.act r n).run.outcome w).2 ∧
      ((t.act r n).run.calls w).filter (·.Provisions) = [] ∧
      ((t.act r n).run.calls w).filter (·.WritesStore) = [] := by
  obtain ⟨answered, calls⟩ := act_failed_lookup publisher failed
  obtain ⟨storeFaults, directoryFaults, looked⟩ :=
    Script.observes_world hw (findForRepository_observes t r n)
  rw [answered, calls]
  refine ⟨rfl, by rw [looked]; exact ⟨rfl, rfl, rfl⟩, ?_, ?_⟩
  · exact Script.Everywhere.filter_calls ((findForRepository_observes t r n).mono
      fun _ observes => Op.Quiet.provisions (Op.Observes.quiet observes)) w
  · exact Script.Everywhere.filter_calls ((findForRepository_observes t r n).mono
      fun _ observes => Op.Quiet.writesStore (Op.Observes.quiet observes)) w

end Service

namespace Script

/-- Whenever a call of `s` answers what `stop` flags, `s` ends at once with the error `stop`
names; the calls that follow other answers obey the same rule. -/
inductive StopsOn {ε α : Type} (stop : (o : Op) → o.Answer → Option ε) :
    Script (Except ε α) → Prop
  | done (r : Except ε α) : StopsOn stop (.done r)
  | call {o : Op} {next : o.Answer → Script (Except ε α)}
      (stops : ∀ b e, stop o b = some e → next b = .done (.error e))
      (rest : ∀ b, StopsOn stop (next b)) : StopsOn stop (.call o next)

end Script

def Op.lookupFailure (op : String) : (o : Op) → o.Answer → Option ServiceError
  | .proposalForRepository _ _ _, .error (.backend m) => some (.store op m)
  | _, _ => none

namespace Service
open Script ServiceAct World

theorem settled_stops (t : Transition) (r : Int) (n c k : String) (statuses : List Status) :
    StopsOn (Op.lookupFailure t.operation)
      (findForRepository.settled t r n t.operation c k statuses).run := by
  induction statuses with
  | nil => exact .done _
  | cons s rest ih =>
    unfold findForRepository.settled
    rw [ServiceAct.run_lift_bind]
    refine .call (fun b e flagged => ?_) fun b => ?_
    · rcases b with (_ | _ | _ | _ | m) | p <;> cases flagged
      rfl
    · rcases b with (_ | _ | _ | _ | _) | p
      case error.notFound => exact ih
      case ok =>
        -- a record found in a settled status is refused by the status check, or answered
        show StopsOn _ (checkStatus t p >>= fun _ => pure p).run
        unfold checkStatus
        split <;> exact .done _
      -- every other failure ends the lookup
      all_goals exact .done _

theorem findForRepository_stops (t : Transition) (r : Int) (n : String) :
    StopsOn (Op.lookupFailure t.operation) (findForRepository t r n).run := by
  unfold findForRepository
  rw [ServiceAct.run_lift_bind]
  refine .call (fun b e flagged => ?_) fun b => ?_
  · rcases b with (_ | _ | _ | _ | m) | p <;> cases flagged
    rfl
  · rcases b with (_ | _ | _ | _ | _) | p
    case error.notFound => exact settled_stops t r n _ _ _
    all_goals exact .done _

/-- The lookup behind acceptance and rejection. In memory it answers the verdict of the matching
records, whoever owns them: the only SUBMITTED one is found; several are ambiguous; with none,
the first of WITHDRAWN, ACCEPTED and REJECTED holding the proposal puts it in the wrong status,
or makes it ambiguous when it holds several, and with none of those it is not found under
`repository/SUBMITTED/node`. DRAFT records never change the answer. A failed lookup is what
acceptance and rejection answer, calling nothing more, so in memory they change nothing and
provision nothing. On every backend a failure of any of its lookups ends the lookup at once as
a store error, and the call answers that error. -/
theorem publisher_lookup_classified (t : Transition) (publisher : t = .accept ∨ t = .reject)
    (r : Int) (n : String) :
    (∀ w : World, w.InMemory →
      ((findForRepository t r n).run.outcome w).1 = publisherVerdict w.store t.operation r n ∧
      (∀ p, ((findForRepository t r n).run.outcome w).1 = .ok p ↔
        w.store.matching r .submitted n = [p]) ∧
      (∀ w' : World, w'.InMemory → w'.store.nonDrafts = w.store.nonDrafts →
        ((findForRepository t r n).run.outcome w').1 =
          ((findForRepository t r n).run.outcome w).1) ∧
      ∀ e, ((findForRepository t r n).run.outcome w).1 = .error e →
        ((t.act r n).run.outcome w).1 = .error e ∧ Unchanged w ((t.act r n).run.outcome w).2 ∧
        ((t.act r n).run.calls w).filter (·.Provisions) = [] ∧
        ((t.act r n).run.calls w).filter (·.WritesStore) = []) ∧
    Script.StopsOn (Op.lookupFailure t.operation) (findForRepository t r n).run ∧
    ∀ (w : World) e, ((findForRepository t r n).run.outcome w).1 = .error e →
      (t.act r n).run.outcome w = (.error e, ((findForRepository t r n).run.outcome w).2) ∧
      (t.act r n).run.calls w = (findForRepository t r n).run.calls w := by
  have source : t.source = .submitted := by rcases publisher with rfl | rfl <;> rfl
  refine ⟨fun w hw => ?_, findForRepository_stops t r n,
    fun w e failed => act_failed_lookup publisher failed⟩
  have verdict :
      ((findForRepository t r n).run.outcome w).1 = publisherVerdict w.store t.operation r n :=
    findForRepository_verdict hw source r n
  refine ⟨verdict, fun p => by rw [verdict, publisherVerdict_eq_ok], fun w' hw' same => ?_,
    fun e failed => act_failed_lookup_unchanged hw publisher failed⟩
  rw [findForRepository_verdict hw' source r n, verdict, publisherVerdict_eq_of_nonDrafts same]

theorem acceptance_lookup_classified :
    (Transition.accept = .accept ∨ Transition.accept = .reject) ∧
    (∀ w : World, w.InMemory →
      ((findForRepository .accept 20 "N:proposal:1").run.outcome w).1 =
          publisherVerdict w.store Transition.accept.operation 20 "N:proposal:1" ∧
      (∀ p, ((findForRepository .accept 20 "N:proposal:1").run.outcome w).1 = .ok p ↔
        w.store.matching 20 .submitted "N:proposal:1" = [p]) ∧
      (∀ w' : World, w'.InMemory → w'.store.nonDrafts = w.store.nonDrafts →
        ((findForRepository .accept 20 "N:proposal:1").run.outcome w').1 =
          ((findForRepository .accept 20 "N:proposal:1").run.outcome w).1) ∧
      ∀ e, ((findForRepository .accept 20 "N:proposal:1").run.outcome w).1 = .error e →
        ((Transition.accept.act 20 "N:proposal:1").run.outcome w).1 = .error e ∧
        Unchanged w ((Transition.accept.act 20 "N:proposal:1").run.outcome w).2 ∧
        ((Transition.accept.act 20 "N:proposal:1").run.calls w).filter (·.Provisions) = [] ∧
        ((Transition.accept.act 20 "N:proposal:1").run.calls w).filter (·.WritesStore) = []) ∧
    Script.StopsOn (Op.lookupFailure Transition.accept.operation)
      (findForRepository .accept 20 "N:proposal:1").run ∧
    ∀ (w : World) e,
      ((findForRepository .accept 20 "N:proposal:1").run.outcome w).1 = .error e →
      (Transition.accept.act 20 "N:proposal:1").run.outcome w =
          (.error e, ((findForRepository .accept 20 "N:proposal:1").run.outcome w).2) ∧
      (Transition.accept.act 20 "N:proposal:1").run.calls w =
        (findForRepository .accept 20 "N:proposal:1").run.calls w :=
  ⟨.inl rfl, publisher_lookup_classified .accept (.inl rfl) 20 "N:proposal:1"⟩

end Service

end DatasetProposals
