import DatasetProposals.Proofs.WriteSources
/-! Calls racing over one store: at most one conditional write per key and status wins, and the
losers change nothing. Main statement: `racing_calls_serialize`. -/
namespace DatasetProposals

namespace ProposalMap

theorem mem_put {m : ProposalMap} {p r : Proposal} (mem : r ∈ m.put p) : r = p ∨ r ∈ m := by
  induction m with
  | nil =>
    simp only [put, List.mem_singleton] at mem
    exact .inl mem
  | cons q rest ih =>
    unfold put at mem
    split at mem
    · simpa using mem
    · split at mem
      · rcases List.mem_cons.mp mem with rfl | later
        · exact .inl rfl
        · exact .inr (List.mem_cons_of_mem _ later)
      · rcases List.mem_cons.mp mem with rfl | later
        · exact .inr List.mem_cons_self
        · rcases ih later with rfl | old
          · exact .inl rfl
          · exact .inr (List.mem_cons_of_mem _ old)

theorem mem_erase {m : ProposalMap} {k : ProposalKey} {r : Proposal} (mem : r ∈ m.erase k) : r ∈ m :=
  (List.mem_filter.mp mem).1

end ProposalMap

namespace MemoryStore

theorem mem_of_wrote {o : Op} {s s' : MemoryStore} (wrote : o.Wrote s s') {r : Proposal}
    (mem : r ∈ s'.proposals) : r ∈ s.proposals ∨ o = .create r ∨ ∃ e, o = .updateIf r e := by
  cases o with
  | create p =>
    obtain ⟨-, rfl⟩ := create_eq_ok.mp wrote
    rcases ProposalMap.mem_put mem with rfl | old
    · exact .inr (.inl rfl)
    · exact .inl old
  | updateIf p e =>
    obtain ⟨_, _, _, rfl⟩ := updateIf_eq_ok.mp wrote
    rcases ProposalMap.mem_put mem with rfl | old
    · exact .inr (.inr ⟨e, rfl⟩)
    · exact .inl old
  | delete k =>
    change s' = s.delete k at wrote
    subst wrote
    exact .inl (ProposalMap.mem_erase mem)
  | _ => exact wrote.elim

end MemoryStore

namespace Status

def stage : Status → Nat
  | .draft => 0
  | .submitted => 1
  | .withdrawn | .accepted | .rejected => 2

end Status

theorem Transition.stage_lt (t : Transition) : t.source.stage < t.target.stage := by
  cases t <;> decide

namespace MemoryStore

/-- `s'` follows `s` along the lifecycle: no record appears under a key that had none, and none
goes back to an earlier stage. -/
def Advances (s s' : MemoryStore) : Prop :=
  ∀ k q', s'.lookup k = some q' → ∃ q, s.lookup k = some q ∧ q.status.stage ≤ q'.status.stage

theorem Advances.refl (s : MemoryStore) : s.Advances s :=
  fun _ q' found => ⟨q', found, Nat.le_refl _⟩

theorem Writes.advances {s s' : MemoryStore} {k : ProposalKey} {v : Option Proposal} (writes : s.Writes s' k v)
    (later : ∀ q', v = some q' → ∃ q, s.lookup k = some q ∧ q.status.stage ≤ q'.status.stage) :
    s.Advances s' := by
  intro k' q' found
  by_cases here : k = k'
  · subst here
    rw [writes.lookup_self] at found
    exact later q' found
  · rw [writes.lookup_other here] at found
    exact ⟨q', found, Nat.le_refl _⟩

end MemoryStore

namespace World
variable {w : World}

/-- The world may still draw `X` as the node id of a dataset. -/
def DrawsDataset (w : World) (X : String) : Prop :=
  ∃ n, w.issued < n ∧ X = "N:dataset:" ++ candidateUuid n

theorem provided_drawn (hw : w.InMemory) {o : Op} {created : CreatedDataset}
    (provided : o.provided (o.outcome w).1 = some created) :
    created.dataset.nodeId = "N:dataset:" ++ candidateUuid w.nextIssue ∧
      (o.outcome w).2.issued = w.nextIssue ∧
      ∃ user, w.directory.Provisioned (o.outcome w).2.directory user created.dataset := by
  cases o with
  | provision p =>
    have outcome := outcome_provision hw p
    cases result : w.directory.provision p ("N:dataset:" ++ candidateUuid w.nextIssue) with
    | ok made =>
      obtain ⟨created', d⟩ := made
      rw [result] at outcome
      rw [outcome] at provided ⊢
      cases provided
      obtain ⟨-, -, -, -, dataset, provisioned⟩ := MemoryDirectory.provision_eq_ok result
      exact ⟨by rw [dataset], rfl, _, provisioned⟩
    | error e =>
      rw [result] at outcome
      rw [outcome] at provided
      cases provided
  | _ => cases provided

theorem readRecord_mem (hw : w.InMemory) {o : Op} {p : Proposal}
    (read : o.readRecord (o.outcome w).1 = some p) : p ∈ w.store.proposals := by
  cases o with
  | proposal u n =>
    rw [outcome_proposal hw, MemoryStore.proposal_eq] at read
    cases found : w.store.lookup ⟨u, n⟩ with
    | some q =>
      rw [found] at read
      cases read
      exact List.mem_of_find?_eq_some found
    | none =>
      rw [found] at read
      cases read
  | proposalForRepository r s n =>
    rw [outcome_proposalForRepository hw] at read
    unfold MemoryStore.proposalForRepository MemoryStore.single at read
    split at read
    · next only =>
      cases read
      exact (List.mem_filter.mp (only ▸ List.mem_singleton_self p)).1
    · cases read
    · cases read
  | _ => cases read

end World

namespace Made
variable {m : Made} {p : Proposal} {e : Status}

theorem updated (hw : m.before.InMemory) (write : m.op = .updateIf p e)
    (succeeded : m.op.writeError m.answer = none) :
    ∃ q, m.before.store.lookup p.key = some q ∧ q.status = e ∧ m.after.store = m.before.store.put p := by
  obtain ⟨o, w⟩ := m
  dsimp only at write
  subst write
  have outcome := World.outcome_updateIf hw p e
  cases stored : w.store.updateIf p e with
  | ok s' =>
    obtain ⟨q, found, status, rfl⟩ := MemoryStore.updateIf_eq_ok.mp stored
    refine ⟨q, found, status, ?_⟩
    simp only [Made.after, outcome, stored]
  | error err =>
    simp only [Made.answer, outcome, stored, Op.writeError] at succeeded
    cases succeeded

theorem refused (hw : m.before.InMemory) (write : m.op = .updateIf p e) {err : StorageError}
    (failed : m.op.writeError m.answer = some err) :
    m.after.store = m.before.store ∧ m.before.store.updateIf p e = .error err := by
  obtain ⟨o, w⟩ := m
  dsimp only at write
  subst write
  have outcome := World.outcome_updateIf hw p e
  cases stored : w.store.updateIf p e with
  | ok s' =>
    simp only [Made.answer, outcome, stored, Op.writeError] at failed
    cases failed
  | error err' =>
    simp only [Made.answer, outcome, stored, Op.writeError] at failed
    cases failed
    refine ⟨?_, rfl⟩
    simp only [Made.after, outcome, stored]
    rfl

end Made

namespace Service
namespace Call

def races : Call → Bool
  | .update _ _ _ | .delete _ | .submit _ _ | .withdraw _ _ | .accept _ _ | .reject _ _ => true
  | _ => false

theorem readOnly_of_races {c : Call} (races : c.races = true) : c.readOnly = false := by
  cases c <;> simp_all [Call.races, Call.readOnly]

theorem StoreLaw.advances {c : Call} (races : c.races = true) {s s' : MemoryStore}
    (law : c.StoreLaw s s') : s.Advances s' := by
  -- each law keeps the proposals or writes one key, leaving it no earlier along the lifecycle
  cases c with
  | update u existing changes =>
    rcases law with rfl | ⟨p, q, stored, wasDraft, draft, writes⟩
    · exact .refl _
    · refine writes.advances fun _ same => ?_
      cases same
      exact ⟨q, stored, Nat.le_of_eq (congrArg Status.stage (wasDraft.trans draft.symm))⟩
  | delete d =>
    rcases law with rfl | writes
    · exact .refl _
    · exact writes.advances fun _ gone => nomatch gone
  | submit _ _ | withdraw _ _ | accept _ _ | reject _ _ =>
    rcases law with rfl | ⟨t, p, q, -, stored, source, target, writes⟩
    · exact .refl _
    · refine writes.advances fun _ same => ?_
      cases same
      exact ⟨q, stored, by rw [source, target]; exact Nat.le_of_lt t.stage_lt⟩
  | _ => cases races

theorem Allows.stage_lt {c : Call} {p : Proposal} {S : Status} (allowed : c.Allows (.updateIf p S))
    (moved : p.status ≠ S) : S.stage < p.status.stage := by
  cases c with
  | update u existing changes =>
    obtain ⟨q, same, draft⟩ := allowed
    cases same
    exact (moved draft).elim
  | submit _ _ | withdraw _ _ | accept _ _ | reject _ _ =>
    obtain ⟨q, same, target⟩ := allowed
    cases same
    rw [target]
    exact Transition.stage_lt _
  | create _ _ =>
    obtain ⟨q, same, -⟩ := allowed
    cases same
  | delete d => cases allowed
  | _ => exact allowed.elim

theorem Allows.submitted {c : Call} {r : Proposal} {e : Status} (allowed : c.Allows (.updateIf r e))
    (submitted : r.status = .submitted) : (∃ u n, c = .submit u n) ∧ e = .draft := by
  cases c with
  | submit u n =>
    obtain ⟨q, same, -⟩ := allowed
    cases same
    exact ⟨⟨u, n, rfl⟩, rfl⟩
  | update _ _ _ =>
    obtain ⟨q, same, draft⟩ := allowed
    cases same
    rw [draft] at submitted
    cases submitted
  | withdraw _ _ | accept _ _ | reject _ _ =>
    obtain ⟨q, same, target⟩ := allowed
    cases same
    rw [target] at submitted
    cases submitted
  | create _ _ =>
    obtain ⟨q, same, -⟩ := allowed
    cases same
  | delete d => cases allowed
  | _ => exact allowed.elim

theorem Allows.not_create {c : Call} {r : Proposal} (races : c.races = true) (allowed : c.Allows (.create r)) :
    False := by
  cases c with
  | update _ _ _ | submit _ _ | withdraw _ _ | accept _ _ | reject _ _ =>
    obtain ⟨q, same, -⟩ := allowed
    cases same
  | delete d => cases allowed
  | _ => cases races

end Call
end Service

namespace Made

/-- A conditional write, made in a race, that moved the record under `k` out of status `S`: it
expected `S`, wrote another status, and succeeded. -/
def Wins (S : Status) (k : ProposalKey) (m : Made) : Prop :=
  ∃ p, m.op = .updateIf p S ∧ p.key = k ∧ p.status ≠ S ∧ m.op.writeError m.answer = none

/-- Such a write that failed, the store answering `e`. -/
def Loses (S : Status) (k : ProposalKey) (e : StorageError) (m : Made) : Prop :=
  ∃ p, m.op = .updateIf p S ∧ p.key = k ∧ p.status ≠ S ∧ m.op.writeError m.answer = some e

end Made

namespace Service

namespace Flight

/-- The flight is a submission that wrote `r`, the survey of `r` being that of a proposal it
read, and answering every question of a repository it read for `r`'s workspace. -/
def Submitted (f : Flight) (r : Proposal) : Prop :=
  (∃ u n, f.call = .submit u n) ∧
    (∃ m ∈ f.made, m.op = .updateIf r .draft ∧ m.op.writeError m.answer = none) ∧
    (∃ p, f.Read p ∧ p.survey = r.survey) ∧
    ∃ repo, f.ReadRepository repo ∧ repo.organizationNodeId = r.organizationNodeId ∧
      missingQuestions repo.questions (r.survey.map (·.questionId)) = []

end Flight

namespace Race
variable {ι : Type} {w : World} {calls : ι → Call} {race race' : Race ι} {i : ι} {o : Op}

theorem Traced.commits (traced : race.Traced w calls) (racing : ∀ i, (calls i).races = true) (i : ι) :
    Script.Commits (race.flights i).call.Allows (ServiceError.ofStorage (race.flights i).call.operation)
      (race.flights i).call.provisions (race.flights i).call.act.run :=
  (race.flights i).call.commits (by rw [traced.call i]; exact Call.readOnly_of_races (racing i))

theorem Traced.allows (traced : race.Traced w calls) (racing : ∀ i, (calls i).races = true)
    (moves : race.Moves race' i o) (writes : o.WritesStore = true) : (calls i).Allows o := by
  obtain ⟨next, waiting, -⟩ := moves.flight
  have after := ((traced.commits racing i).allows.path (traced.path i)).2
  rw [waiting] at after
  cases after with
  | call here _ =>
    rw [← traced.call i]
    exact here writes

theorem Traced.sourced (traced : race.Traced w calls) (moves : race.Moves race' i o) {q : Proposal}
    {e : Status} (write : o = .updateIf q e) :
    (calls i).Source (race.flights i).Read (race.flights i).ReadRepository (race.flights i).Provided q := by
  obtain ⟨next, waiting, -⟩ := moves.flight
  have guards := ((race.flights i).call.sourced (G := (race.flights i).Read)
    (H := (race.flights i).ReadRepository) (C := (race.flights i).Provided)).path (traced.path i)
    fun m mem => ⟨fun p read => ⟨m, mem, read⟩, fun r read => ⟨m, mem, read⟩,
      fun c provided => ⟨m, mem, provided⟩⟩
  have after := guards.2
  rw [waiting] at after
  cases after with
  | call here _ =>
    rw [← traced.call i]
    exact here q e write

theorem Traced.store (traced : race.Traced w calls) (racing : ∀ i, (calls i).races = true)
    (moves : race.Moves race' i o) :
    race'.world.store = race.world.store ∨
      o.WritesStore = true ∧ o.writeError (o.outcome race.world).1 = none ∧ (calls i).Allows o ∧
        o.Wrote race.world.store race'.world.store := by
  rw [moves.world]
  cases writes : o.WritesStore with
  | false => exact .inl (World.outcome_store traced.inMemory writes)
  | true =>
    rcases World.outcome_write traced.inMemory writes with ⟨e, -, kept⟩ | ⟨wrote, law⟩
    · exact .inl kept
    · exact .inr ⟨rfl, wrote, traced.allows racing moves writes, law⟩

theorem Traced.advances (traced : race.Traced w calls) (racing : ∀ i, (calls i).races = true)
    (moves : race.Moves race' i o) : race.world.store.Advances race'.world.store := by
  rcases traced.store racing moves with same | ⟨-, -, allowed, wrote⟩
  · rw [same]
    exact .refl _
  · exact Call.StoreLaw.advances (racing i) (Call.storeLaw_of_wrote allowed wrote)

theorem Traced.stored (traced : race.Traced w calls) (racing : ∀ i, (calls i).races = true)
    (moves : race.Moves race' i o) {r : Proposal} (mem : r ∈ race'.world.store.proposals) :
    r ∈ race.world.store.proposals ∨
      ∃ e, o = .updateIf r e ∧ o.writeError (o.outcome race.world).1 = none ∧ (calls i).Allows o := by
  rcases traced.store racing moves with same | ⟨-, succeeded, allowed, wrote⟩
  · rw [same] at mem
    exact .inl mem
  · rcases MemoryStore.mem_of_wrote wrote mem with old | created | ⟨e, write⟩
    · exact .inl old
    · subst created
      exact (Call.Allows.not_create (racing i) allowed).elim
    · exact .inr ⟨e, write, succeeded, allowed⟩

/-! At most one winner. -/

/-- After a write moved the record under `k` out of `S`, that record is gone or past `S`, and no
other write moving it out of `S` succeeded. -/
structure Serial (race : Race ι) : Prop where
  past : ∀ S k i, ∀ m ∈ (race.flights i).made, m.Wins S k →
    ∀ q, race.world.store.lookup k = some q → S.stage < q.status.stage
  unique : ∀ S k i j, ∀ m ∈ (race.flights i).made, ∀ m' ∈ (race.flights j).made,
    m.Wins S k → m'.Wins S k → i = j ∧ m = m'

theorem serial_start (w : World) (calls : ι → Call) : (start w calls).Serial :=
  ⟨fun _ _ _ _ none => (nomatch none), fun _ _ _ _ _ none => (nomatch none)⟩

theorem Serial.step [DecidableEq ι] (traced : race.Traced w calls) (racing : ∀ i, (calls i).races = true)
    (serial : race.Serial) (i : ι) : (race.step i).Serial := by
  rcases step_moves race i with same | ⟨o, moves⟩
  · rw [same]
    exact serial
  · -- a write of this move that wins found the record in `S`: so no earlier write had won
    have first : ∀ S k, (⟨o, race.world⟩ : Made).Wins S k → ∀ j, ∀ m ∈ (race.flights j).made,
        ¬ m.Wins S k := by
      intro S k wins j m mem earlier
      obtain ⟨p, write, key, -, succeeded⟩ := wins
      obtain ⟨q, found, status, -⟩ := Made.updated traced.inMemory write succeeded
      have past := serial.past S k j m mem earlier q (key ▸ found)
      rw [status] at past
      exact Nat.lt_irrefl _ past
    refine ⟨fun S k j m mem wins q found => ?_, fun S k j j' m mem m' mem' wins wins' => ?_⟩
    · rcases moves.mem_made.mp mem with old | ⟨-, rfl⟩
      · obtain ⟨q₀, found₀, le⟩ := traced.advances racing moves k q found
        exact Nat.lt_of_lt_of_le (serial.past S k j m old wins q₀ found₀) le
      · -- the record under `k` is now the one written, a later stage than `S`
        obtain ⟨p, write, key, moved, succeeded⟩ := wins
        obtain ⟨-, -, -, after⟩ := Made.updated traced.inMemory write succeeded
        change (o.outcome race.world).2.store = race.world.store.put p at after
        change o = .updateIf p S at write
        subst write
        rw [moves.world, after, MemoryStore.lookup_put, if_pos key] at found
        cases found
        exact Call.Allows.stage_lt (traced.allows racing moves rfl) moved
    · rcases moves.mem_made.mp mem with old | ⟨rfl, rfl⟩ <;>
        rcases moves.mem_made.mp mem' with old' | ⟨rfl, rfl⟩
      · exact serial.unique S k j j' m old m' old' wins wins'
      · exact (first S k wins' j m old wins).elim
      · exact (first S k wins j' m' old' wins').elim
      · exact ⟨rfl, rfl⟩

/-! No stored proposal carries the dataset of a losing acceptance. -/

theorem Traced.issued_le (traced : race.Traced w calls) (moves : race.Moves race' i o) :
    race.world.issued ≤ race'.world.issued := by
  rw [moves.world]
  exact (World.outcome_follows traced.inMemory o).issued

/-- A dataset node id a stored proposal may carry in the race: not one the world may still draw,
and not that of a dataset a flight provisioned while it has recorded nothing. -/
def Claimable (race : Race ι) (X : String) : Prop :=
  ¬ race.world.DrawsDataset X ∧
    ∀ i created, (race.flights i).Provided created → ¬ (race.flights i).Recorded →
      X ≠ created.dataset.nodeId

/-- What keeps the stored proposals on claimable dataset node ids: the proposals stored and
those read are claimable, every dataset provisioned was drawn during the race, and no two
flights provisioned one node id. -/
structure ClaimsKept (w : World) (race : Race ι) : Prop where
  stored : ∀ r ∈ race.world.store.proposals, race.Claimable r.datasetNodeId
  read : ∀ i p, (race.flights i).Read p → race.Claimable p.datasetNodeId
  drawn : ∀ i created, (race.flights i).Provided created →
    ∃ n, w.issued < n ∧ n ≤ race.world.issued ∧ created.dataset.nodeId = "N:dataset:" ++ World.candidateUuid n
  apart : ∀ i j created created', (race.flights i).Provided created →
    (race.flights j).Provided created' → created.dataset.nodeId = created'.dataset.nodeId → i = j

theorem claimsKept_start (w : World) (calls : ι → Call)
    (stored : ∀ r ∈ w.store.proposals, ¬ w.DrawsDataset r.datasetNodeId) : (start w calls).ClaimsKept w where
  stored r mem := ⟨stored r mem, fun _ _ ⟨_, absent, _⟩ => (nomatch absent)⟩
  read _ _ := fun ⟨_, absent, _⟩ => (nomatch absent)
  drawn _ _ := fun ⟨_, absent, _⟩ => (nomatch absent)
  apart _ _ _ _ := fun ⟨_, absent, _⟩ => (nomatch absent)

theorem Claimable.of_moves (traced : race.Traced w calls) (moves : race.Moves race' i o) {X : String}
    (claimable : race.Claimable X) : race'.Claimable X := by
  obtain ⟨undrawn, unowned⟩ := claimable
  refine ⟨fun ⟨n, later, same⟩ => undrawn ⟨n, Nat.lt_of_le_of_lt (traced.issued_le moves) later, same⟩,
    fun j created provided unrecorded => ?_⟩
  rcases moves.provided.mp provided with old | ⟨-, answered⟩
  · exact unowned j created old fun recorded => unrecorded (moves.recorded recorded)
  · obtain ⟨nodeId, -, -⟩ := World.provided_drawn traced.inMemory answered
    intro same
    exact undrawn ⟨race.world.nextIssue, World.issued_lt_nextIssue _, same.trans nodeId⟩

theorem ClaimsKept.drawn_moves (kept : race.ClaimsKept w) (traced : race.Traced w calls)
    (moves : race.Moves race' i o) (j : ι) (created : CreatedDataset)
    (provided : (race'.flights j).Provided created) :
    ∃ n, w.issued < n ∧ n ≤ race'.world.issued ∧ created.dataset.nodeId = "N:dataset:" ++ World.candidateUuid n := by
  rcases moves.provided.mp provided with old | ⟨-, answered⟩
  · obtain ⟨n, early, late, nodeId⟩ := kept.drawn j created old
    exact ⟨n, early, Nat.le_trans late (traced.issued_le moves), nodeId⟩
  · obtain ⟨nodeId, issued, -⟩ := World.provided_drawn traced.inMemory answered
    refine ⟨race.world.nextIssue, Nat.lt_of_le_of_lt traced.issued (World.issued_lt_nextIssue _), ?_, nodeId⟩
    exact Nat.le_of_eq (by rw [moves.world, issued])

theorem ClaimsKept.apart_moves (kept : race.ClaimsKept w) (traced : race.Traced w calls)
    (moves : race.Moves race' i o) (j j' : ι) (created created' : CreatedDataset)
    (provided : (race'.flights j).Provided created) (provided' : (race'.flights j').Provided created')
    (same : created.dataset.nodeId = created'.dataset.nodeId) : j = j' := by
  -- a dataset this move provisioned is drawn past every one provisioned before
  have newer : ∀ {j c c'}, (race.flights j).Provided c → o.provided (o.outcome race.world).1 = some c' →
      c.dataset.nodeId ≠ c'.dataset.nodeId := by
    intro j c c' old answered same
    obtain ⟨n, -, late, nodeId⟩ := kept.drawn j c old
    obtain ⟨nodeId', -, -⟩ := World.provided_drawn traced.inMemory answered
    have equal := (World.prefixed_candidate_inj _).mp (nodeId.symm.trans (same.trans nodeId'))
    have fresh := World.issued_lt_nextIssue race.world
    omega
  rcases moves.provided.mp provided with old | ⟨here, answered⟩ <;>
    rcases moves.provided.mp provided' with old' | ⟨here', answered'⟩
  · exact kept.apart j j' created created' old old' same
  · exact (newer old answered' same).elim
  · exact (newer old' answered same.symm).elim
  · exact here.trans here'.symm

theorem ClaimsKept.written (kept : race.ClaimsKept w) (traced : race.Traced w calls)
    (racing : ∀ i, (calls i).races = true)
    (copies : ∀ i u existing changes, calls i = .update u existing changes →
      ¬ w.DrawsDataset existing.datasetNodeId)
    (moves : race.Moves race' i o) {r : Proposal} {e : Status} (write : o = .updateIf r e)
    (succeeded : o.writeError (o.outcome race.world).1 = none) : race'.Claimable r.datasetNodeId := by
  have source := traced.sourced moves write
  -- a record copied from a proposal the flight read carries that proposal's claimable id
  have ofRead : ∀ p, (race.flights i).Read p → r.datasetNodeId = p.datasetNodeId →
      race'.Claimable r.datasetNodeId := fun p read copied =>
    copied ▸ (kept.read i p read).of_moves traced moves
  cases calling : calls i with
  | update u existing changes =>
    rw [calling] at source
    have copied : r.datasetNodeId = existing.datasetNodeId := source
    have fresh := copies i u existing changes calling
    rw [copied]
    refine ⟨fun ⟨n, later, same⟩ => fresh ⟨n, ?_, same⟩, fun j c provided _ same => ?_⟩
    · exact Nat.lt_of_le_of_lt (Nat.le_trans traced.issued (traced.issued_le moves)) later
    · obtain ⟨n, early, -, nodeId⟩ := kept.drawn_moves traced moves j c provided
      exact fresh ⟨n, early, same.trans nodeId⟩
  | submit u n =>
    rw [calling] at source
    obtain ⟨p, read, copied, -⟩ := source
    exact ofRead p read copied
  | withdraw u n | reject u n =>
    rw [calling] at source
    obtain ⟨p, read, copied⟩ := source
    exact ofRead p read copied
  | accept rid n =>
    rw [calling] at source
    obtain ⟨c, provided, copied⟩ := source
    rw [copied]
    obtain ⟨n₀, -, before, nodeId⟩ := kept.drawn i c provided
    refine ⟨fun ⟨n', later, same⟩ => ?_, fun j c' provided' unrecorded same => ?_⟩
    · -- drawn before, so not among the ids the world may still draw
      have equal := (World.prefixed_candidate_inj _).mp (nodeId.symm.trans same)
      have grows := traced.issued_le moves
      omega
    · by_cases here : j = i
      · subst here
        exact unrecorded ⟨⟨o, race.world⟩, moves.made_self, by rw [write]; rfl, succeeded⟩
      · rcases moves.provided.mp provided' with old | ⟨wrong, -⟩
        · exact here (kept.apart i j c c' provided old same).symm
        · exact here wrong
  | delete d =>
    have allowed := traced.allows racing moves (by rw [write]; rfl)
    rw [calling, write] at allowed
    cases allowed
  | _ =>
    have races := racing i
    rw [calling] at races
    cases races

theorem ClaimsKept.step [DecidableEq ι] (kept : race.ClaimsKept w) (traced : race.Traced w calls)
    (racing : ∀ i, (calls i).races = true)
    (copies : ∀ i u existing changes, calls i = .update u existing changes →
      ¬ w.DrawsDataset existing.datasetNodeId) (i : ι) : (race.step i).ClaimsKept w := by
  rcases step_moves race i with same | ⟨o, moves⟩
  · rw [same]
    exact kept
  · refine ⟨fun r mem => ?_, fun j p read => ?_, kept.drawn_moves traced moves,
      kept.apart_moves traced moves⟩
    · rcases traced.stored racing moves mem with old | ⟨e, write, succeeded, -⟩
      · exact (kept.stored r old).of_moves traced moves
      · exact kept.written traced racing copies moves write succeeded
    · rcases moves.read.mp read with old | ⟨-, answered⟩
      · exact (kept.read j p old).of_moves traced moves
      · exact (kept.stored p (World.readRecord_mem traced.inMemory answered)).of_moves traced moves

/-! Stored SUBMITTED records. -/

/-- Every SUBMITTED record stored was stored at the start, or a flight submitted it. -/
def SubmissionsKept (w : World) (race : Race ι) : Prop :=
  ∀ r ∈ race.world.store.proposals, r.status = .submitted →
    r ∈ w.store.proposals ∨ ∃ i, (race.flights i).Submitted r

theorem submissionsKept_start (w : World) (calls : ι → Call) : (start w calls).SubmissionsKept w :=
  fun _ mem _ => .inl mem

theorem Moves.submitted (moves : race.Moves race' i o) {j : ι} {r : Proposal}
    (submitted : (race.flights j).Submitted r) : (race'.flights j).Submitted r := by
  obtain ⟨⟨u, n, call⟩, ⟨m, mem, write, succeeded⟩, ⟨p, read, survey⟩, ⟨repo, read', workspace, answered⟩⟩ :=
    submitted
  exact ⟨⟨u, n, (moves.call j).trans call⟩, ⟨m, moves.made_of mem, write, succeeded⟩,
    ⟨p, moves.read.mpr (.inl read), survey⟩, ⟨repo, moves.readRepository read', workspace, answered⟩⟩

theorem SubmissionsKept.step [DecidableEq ι] (kept : race.SubmissionsKept w) (traced : race.Traced w calls)
    (racing : ∀ i, (calls i).races = true) (i : ι) : (race.step i).SubmissionsKept w := by
  rcases step_moves race i with same | ⟨o, moves⟩
  · rw [same]
    exact kept
  · intro r mem submitted
    rcases traced.stored racing moves mem with old | ⟨e, write, succeeded, allowed⟩
    · rcases kept r old submitted with initial | ⟨j, flight⟩
      · exact .inl initial
      · exact .inr ⟨j, moves.submitted flight⟩
    · -- a SUBMITTED record is written only by a submission, and from what it read
      rw [write] at allowed
      obtain ⟨⟨u, n, calling⟩, rfl⟩ := Call.Allows.submitted allowed submitted
      have source := traced.sourced moves write
      rw [calling] at source
      obtain ⟨p, read, -, survey, repo, read', workspace, answered⟩ := source
      refine .inr ⟨i, ⟨u, n, (moves.call i).trans ((traced.call i).trans calling)⟩,
        ⟨⟨o, race.world⟩, moves.made_self, write, succeeded⟩, ⟨p, moves.read.mpr (.inl read), survey.symm⟩,
        ⟨repo, moves.readRepository read', workspace, answered⟩⟩

/-! The losers, and updates. -/

theorem Traced.lost (traced : race.Traced w calls) (racing : ∀ i, (calls i).races = true)
    {S : Status} {k : ProposalKey} {e : StorageError} {m : Made} (mem : m ∈ (race.flights i).made)
    (loses : m.Loses S k e) :
    m.after.store = m.before.store ∧
      ((∃ q, m.before.store.lookup k = some q ∧ q.status ≠ S ∧ e = .conflict k.userId k.nodeId S) ∨
        (m.before.store.lookup k = none ∧ e = StorageError.proposalNotFound k.userId k.nodeId)) ∧
      (race.flights i).rest = .done (.error (ServiceError.ofStorage (race.flights i).call.operation e)) ∧
      (∀ m' ∈ (race.flights i).made, m'.op.Delivers = false) ∧ ¬ (race.flights i).Recorded := by
  obtain ⟨p, write, key, -, failed⟩ := loses
  obtain ⟨kept, refusal⟩ := Made.refused (traced.made i m mem).1 write failed
  obtain ⟨ended, quiet⟩ := (traced.commits racing i).path_refused (traced.path i) mem (by rw [write]; rfl) failed
  refine ⟨kept, ?_, ended, fun m' mem' => (quiet m' mem').1,
    fun ⟨m', mem', writes, wrote⟩ => (quiet m' mem').2 writes wrote⟩
  subst key
  rcases MemoryStore.updateIf_eq_error.mp refusal with ⟨missing, rfl⟩ | ⟨q, found, other, rfl⟩
  · exact .inr ⟨missing, rfl⟩
  · exact .inl ⟨q, found, other, rfl⟩

theorem Flight.provisionedOnce {f : Flight} (path : Script.Path f.call.act.run f.made f.rest)
    (accepting : f.call.provisions = true) {m : Made} (mem : m ∈ f.made) (writes : m.op.WritesStore = true) :
    ∃ provisioning created, f.made.filter (·.op.Provisions) = [provisioning] ∧
      provisioning.op.provided provisioning.answer = some created := by
  obtain ⟨c, rest, made⟩ := f
  obtain ⟨r, n, rfl⟩ := Call.accept_of_provisions accepting
  exact (acceptProposal_provisionThen r n).path_provisioned path mem writes

theorem Traced.lostAcceptance (traced : race.Traced w calls) (racing : ∀ i, (calls i).races = true)
    (kept : race.ClaimsKept w) {S : Status} {k : ProposalKey} {e : StorageError} {m : Made}
    (mem : m ∈ (race.flights i).made) (loses : m.Loses S k e)
    (accepting : (race.flights i).call.provisions = true) :
    ∃ provisioning created, (race.flights i).made.filter (·.op.Provisions) = [provisioning] ∧
      provisioning.op.provided provisioning.answer = some created ∧
      (∃ user, provisioning.before.directory.Provisioned provisioning.after.directory user created.dataset) ∧
      ∀ r ∈ race.world.store.proposals, r.datasetNodeId ≠ created.dataset.nodeId := by
  obtain ⟨-, -, -, -, unrecorded⟩ := traced.lost racing mem loses
  obtain ⟨p, write, -, -, -⟩ := loses
  obtain ⟨provisioning, created, only, provided⟩ :=
    Flight.provisionedOnce (traced.path i) accepting mem (by rw [write]; rfl)
  have listed : provisioning ∈ (race.flights i).made :=
    (List.mem_filter.mp (only ▸ List.mem_singleton_self provisioning)).1
  obtain ⟨-, -, provisioned⟩ :=
    World.provided_drawn (o := provisioning.op) (traced.made i _ listed).1 provided
  exact ⟨provisioning, created, only, provided, provisioned,
    fun r stored same => (kept.stored r stored).2 i created ⟨provisioning, listed, provided⟩ unrecorded same⟩

theorem Traced.updates (traced : race.Traced w calls) {u : Int} {existing changes : ProposalDto}
    (calling : (race.flights i).call = .update u existing changes) :
    (∀ m ∈ (race.flights i).made, m.op.WritesStore = true → m.op.writeError m.answer = none →
      ∃ p q, m.op = .updateIf p .draft ∧ m.before.store.lookup p.key = some q ∧ q.status = .draft) ∧
    ∀ v, (race.flights i).rest = .done (.ok v) →
      ∃ m ∈ (race.flights i).made, m.op.WritesStore = true ∧ m.op.writeError m.answer = none := by
  have commits := (race.flights i).call.commits (by rw [calling]; rfl)
  refine ⟨fun m mem writes succeeded => ?_, fun v ended => ?_⟩
  · have allowed := (commits.allows.path (traced.path i)).1 m mem writes
    rw [calling] at allowed
    obtain ⟨p, write, -⟩ := allowed
    obtain ⟨q, found, draft, -⟩ := Made.updated (traced.made i m mem).1 write succeeded
    exact ⟨p, q, write, found, draft⟩
  · have path := traced.path i
    rw [ended] at path
    exact commits.path_ok path

/-- What calls racing over one in-memory store guarantee, read off a race from `w`. -/
structure Serialized (w : World) (race : Race ι) : Prop where
  oneWinner : ∀ S k i j, ∀ m ∈ (race.flights i).made, ∀ m' ∈ (race.flights j).made,
    m.Wins S k → m'.Wins S k → i = j ∧ m = m'
  losers : ∀ S k e i, ∀ m ∈ (race.flights i).made, m.Loses S k e →
    m.after.store = m.before.store ∧
      ((∃ q, m.before.store.lookup k = some q ∧ q.status ≠ S ∧ e = .conflict k.userId k.nodeId S) ∨
        (m.before.store.lookup k = none ∧ e = StorageError.proposalNotFound k.userId k.nodeId)) ∧
      (race.flights i).rest = .done (.error (ServiceError.ofStorage (race.flights i).call.operation e)) ∧
      ∀ m' ∈ (race.flights i).made, m'.op.Delivers = false
  lostAcceptances : ∀ S k e i, ∀ m ∈ (race.flights i).made, m.Loses S k e →
    (race.flights i).call.provisions = true →
    ∃ provisioning created, (race.flights i).made.filter (·.op.Provisions) = [provisioning] ∧
      provisioning.op.provided provisioning.answer = some created ∧
      (∃ user, provisioning.before.directory.Provisioned provisioning.after.directory user created.dataset) ∧
      ∀ r ∈ race.world.store.proposals, r.datasetNodeId ≠ created.dataset.nodeId
  updates : ∀ i u existing changes, (race.flights i).call = .update u existing changes →
    (∀ m ∈ (race.flights i).made, m.op.WritesStore = true → m.op.writeError m.answer = none →
      ∃ p q, m.op = .updateIf p .draft ∧ m.before.store.lookup p.key = some q ∧ q.status = .draft) ∧
    ∀ v, (race.flights i).rest = .done (.ok v) →
      ∃ m ∈ (race.flights i).made, m.op.WritesStore = true ∧ m.op.writeError m.answer = none
  submissions : race.SubmissionsKept w

/-- Calls racing over one proposal serialize. Start from any in-memory world and let any updates,
deletions and transitions interleave their atomic calls in any order: at most one write moves a
record out of a status, every other such write fails with a conflict or not-found and ends its
call without mail, a losing acceptance leaves one dataset no proposal carries, updates write only
over DRAFT records, and stored SUBMITTED records carry the survey their submission checked. The
dataset node ids stored at the start and in the callers' copies are not ones the world may still
draw, as fresh uuids cannot be known in advance. -/
theorem racing_calls_serialize [DecidableEq ι] (w : World) (hw : w.InMemory) (calls : ι → Call)
    (racing : ∀ i, (calls i).races = true)
    (stored : ∀ r ∈ w.store.proposals, ¬ w.DrawsDataset r.datasetNodeId)
    (copies : ∀ i u existing changes, calls i = .update u existing changes →
      ¬ w.DrawsDataset existing.datasetNodeId)
    (schedule : List ι) : ((start w calls).run schedule).Serialized w := by
  -- the four invariants are kept together, step by step
  obtain ⟨traced, serial, kept, submissions⟩ := run_induction
    (P := fun race : Race ι => race.Traced w calls ∧ race.Serial ∧ race.ClaimsKept w ∧ race.SubmissionsKept w)
    ⟨traced_start hw calls, serial_start w calls, claimsKept_start w calls stored, submissionsKept_start w calls⟩
    (fun _ i ⟨traced, serial, kept, submissions⟩ => ⟨traced.step i, serial.step traced racing i,
      kept.step traced racing copies i, submissions.step traced racing i⟩) schedule
  refine ⟨serial.unique, fun S k e i m mem loses => ?_,
    fun S k e i m mem loses accepting => traced.lostAcceptance racing kept mem loses accepting,
    fun i u existing changes calling => traced.updates calling, submissions⟩
  obtain ⟨kept, refusal, ended, quiet, -⟩ := traced.lost racing mem loses
  exact ⟨kept, refusal, ended, quiet⟩

end Race

def submittedSeed : Proposal := { (default : Proposal) with userId := 1, nodeId := "N:proposal:1", status := .submitted }

def seededWorld : World :=
  { (default : World) with store := { (default : World).store with proposals := [submittedSeed] } }

def twoWithdrawals : Fin 2 → Call := fun _ => .withdraw 1 "N:proposal:1"

theorem racing_withdrawals_serialize :
    seededWorld.InMemory ∧ (∀ i, (twoWithdrawals i).races = true) ∧
      (∀ r ∈ seededWorld.store.proposals, ¬ seededWorld.DrawsDataset r.datasetNodeId) ∧
      (∀ i u existing changes, twoWithdrawals i = .update u existing changes →
        ¬ seededWorld.DrawsDataset existing.datasetNodeId) ∧
      ((Race.start seededWorld twoWithdrawals).run [0, 1, 0, 1, 0, 1]).Serialized seededWorld := by
  have inMemory : seededWorld.InMemory := ⟨rfl, rfl, rfl, rfl⟩
  have stored : ∀ r ∈ seededWorld.store.proposals, ¬ seededWorld.DrawsDataset r.datasetNodeId := by
    rintro r mem ⟨n, -, same⟩
    rw [List.mem_singleton.mp mem] at same
    have blank : submittedSeed.datasetNodeId = "" := rfl
    have lengths := congrArg String.length (blank ▸ same)
    have prefixLength : "N:dataset:".length = 10 := by decide
    simp only [String.length_append, String.length_empty, prefixLength] at lengths
    omega
  have copies : ∀ i u existing changes, twoWithdrawals i = .update u existing changes →
      ¬ seededWorld.DrawsDataset existing.datasetNodeId := fun _ _ _ _ wrong => nomatch wrong
  exact ⟨inMemory, fun _ => rfl, stored, copies,
    Race.racing_calls_serialize seededWorld inMemory twoWithdrawals (fun _ => rfl) stored copies _⟩

end Service

end DatasetProposals
