import DatasetProposals.Proofs.AcceptedDatasets
/-! Racing callers: the calls of several scripts interleaved over one world, and the shapes of
`CallShape` carried along each script's path. -/
namespace DatasetProposals

namespace Op

def readRecord : (o : Op) → o.Answer → Option Proposal
  | .proposal _ _, .ok p | .proposalForRepository _ _ _, .ok p => some p
  | _, _ => none

def readRepository : (o : Op) → o.Answer → Option RepositoryRecord
  | .repository _, .ok r => some r
  | _, _ => none

theorem Quiet.no_write {o : Op} (quiet : o.Quiet = true) (writes : o.WritesStore = true) : False := by
  rw [Quiet.writesStore quiet] at writes
  cases writes

def provided : (o : Op) → o.Answer → Option CreatedDataset
  | .provision _, .ok c => some c
  | _, _ => none

end Op

/-- An atomic call as a racing caller made it: the call and the world it was made in. -/
structure Made where
  op : Op
  before : World

namespace Made

def answer (m : Made) : m.op.Answer := (m.op.outcome m.before).1

def after (m : Made) : World := (m.op.outcome m.before).2

end Made

namespace Script
variable {α : Type}

/-- `Path s made rest`: making the calls `made`, each answered as the world it was made in
answers it, the script `s` comes to `rest`. -/
inductive Path : Script α → List Made → Script α → Prop
  | here (s : Script α) : Path s [] s
  | call {o : Op} {next : o.Answer → Script α} {w : World} {made : List Made} {rest : Script α}
      (later : Path (next (o.outcome w).1) made rest) : Path (.call o next) (⟨o, w⟩ :: made) rest

theorem Path.snoc {s rest : Script α} {made : List Made} (path : Path s made rest) {o : Op}
    {next : o.Answer → Script α} (w : World) (waiting : rest = .call o next) :
    Path s (made ++ [⟨o, w⟩]) (next (o.outcome w).1) := by
  induction path with
  | here s =>
    subst waiting
    exact .call (.here _)
  | call _ ih => exact .call (ih waiting)

theorem Path.of_done {a : α} {made : List Made} {rest : Script α} (path : Path (.done a) made rest) :
    made = [] ∧ rest = .done a := by
  cases path with
  | here => exact ⟨rfl, rfl⟩

theorem Everywhere.path {P : Op → Prop} {s rest : Script α} {made : List Made}
    (calls : Everywhere P s) (path : Path s made rest) : (∀ m ∈ made, P m.op) ∧ Everywhere P rest := by
  induction path with
  | here s => exact ⟨(fun _ none => nomatch none), calls⟩
  | call _ ih =>
    cases calls with
    | call here rest =>
      obtain ⟨made, after⟩ := ih (rest _)
      refine ⟨fun m mem => ?_, after⟩
      rcases List.mem_cons.mp mem with rfl | later
      · exact here
      · exact made m later

/-- `Guards Ans P R s`: on every run of `s` in which each answer satisfies `Ans`, every call
satisfies `P` and the value the run ends with satisfies `R`. -/
inductive Guards (Ans : (o : Op) → o.Answer → Prop) (P : Op → Prop) (R : α → Prop) : Script α → Prop
  | done {a : α} (ends : R a) : Guards Ans P R (.done a)
  | call {o : Op} {next : o.Answer → Script α} (here : P o)
      (rest : ∀ b, Ans o b → Guards Ans P R (next b)) : Guards Ans P R (.call o next)

section Guards
variable {β : Type} {Ans : (o : Op) → o.Answer → Prop} {P : Op → Prop} {R : α → Prop}

theorem Guards.bind {R' : β → Prop} {s : Script α} {f : α → Script β} (first : Guards Ans P R s)
    (rest : ∀ a, R a → Guards Ans P R' (f a)) : Guards Ans P R' (s >>= f) := by
  induction first with
  | done ends => exact rest _ ends
  | call here _ ih => exact .call here ih

theorem Guards.op {o : Op} (here : P o) : Guards Ans P (Ans o) (Script.op o) :=
  .call here fun _ answered => .done answered

theorem Guards.mono {R' : α → Prop} {s : Script α} (guards : Guards Ans P R s)
    (weaker : ∀ a, R a → R' a) : Guards Ans P R' s := by
  induction guards with
  | done ends => exact .done (weaker _ ends)
  | call here _ ih => exact .call here ih

theorem Guards.of_everywhere {s : Script α} (calls : Everywhere P s) (ends : ∀ a, R a) :
    Guards Ans P R s := by
  induction calls with
  | done a => exact .done (ends a)
  | call here _ ih => exact .call here fun b _ => ih b

theorem Guards.path {s rest : Script α} {made : List Made} (guards : Guards Ans P R s)
    (path : Path s made rest) (answered : ∀ m ∈ made, Ans m.op m.answer) :
    (∀ m ∈ made, P m.op) ∧ Guards Ans P R rest := by
  induction path with
  | here s => exact ⟨(fun _ none => nomatch none), guards⟩
  | call _ ih =>
    cases guards with
    | call here rest =>
      have first := answered _ List.mem_cons_self
      obtain ⟨made, after⟩ := ih (rest _ first) fun m mem => answered m (List.mem_cons_of_mem _ mem)
      refine ⟨fun m mem => ?_, after⟩
      rcases List.mem_cons.mp mem with rfl | later
      · exact here
      · exact made m later

end Guards

section Shapes
variable {ε : Type} {A : Op → Prop} {fail : StorageError → ε}

theorem Settles.path {s rest : Script (Except ε α)} {made : List Made} (settles : Settles s)
    (path : Path s made rest) : ∀ m ∈ made, m.op.WritesStore = false ∧ m.op.Provisions = false :=
  (settles.calls.path path).1

theorem Finishes.path_refused {s rest : Script (Except ε α)} {made : List Made}
    (shape : Finishes A fail s) (path : Path s made rest) {m : Made} (mem : m ∈ made)
    (writes : m.op.WritesStore = true) {e : StorageError} (refused : m.op.writeError m.answer = some e) :
    rest = .done (.error (fail e)) ∧
      ∀ m' ∈ made, m'.op.Delivers = false ∧ (m'.op.WritesStore = true → m'.op.writeError m'.answer ≠ none) := by
  induction path with
  | here s => nomatch mem
  | @call o next w made rest later ih =>
    cases shape with
    | quiet quiet shape =>
      rcases List.mem_cons.mp mem with rfl | mem
      · exact (Op.Quiet.no_write quiet writes).elim
      · obtain ⟨ended, made⟩ := ih (shape _) mem
        refine ⟨ended, fun m' mem' => ?_⟩
        rcases List.mem_cons.mp mem' with rfl | mem'
        · exact ⟨Op.Quiet.delivers quiet, fun writes => (Op.Quiet.no_write quiet writes).elim⟩
        · exact made m' mem'
    | write writes' _ failed succeeded =>
      cases answered : o.writeError (o.outcome w).1 with
      | some e' =>
        -- the write failed: the run ended there, so it was the last call made
        rw [failed _ e' answered] at later
        obtain ⟨rfl, rfl⟩ := later.of_done
        rcases List.mem_cons.mp mem with rfl | none
        · have same : e' = e := Option.some.inj (answered.symm.trans refused)
          subst same
          refine ⟨rfl, fun m' mem' => ?_⟩
          rcases List.mem_cons.mp mem' with rfl | none
          · exact ⟨Op.WritesStore.delivers writes', fun _ => by
              change o.writeError (o.outcome w).1 ≠ none
              rw [answered]
              exact Option.some_ne_none _⟩
          · nomatch none
        · nomatch none
      | none =>
        -- the write succeeded: what follows makes no write
        rcases List.mem_cons.mp mem with rfl | mem
        · change o.writeError (o.outcome w).1 = some e at refused
          rw [answered] at refused
          cases refused
        · rw [((succeeded _ answered).path later m mem).1] at writes
          cases writes

theorem Commits.path_refused {s rest : Script (Except ε α)} {made : List Made} {once : Bool}
    (shape : Commits A fail once s) (path : Path s made rest) {m : Made} (mem : m ∈ made)
    (writes : m.op.WritesStore = true) {e : StorageError} (refused : m.op.writeError m.answer = some e) :
    rest = .done (.error (fail e)) ∧
      ∀ m' ∈ made, m'.op.Delivers = false ∧ (m'.op.WritesStore = true → m'.op.writeError m'.answer ≠ none) := by
  induction path generalizing once with
  | here s => nomatch mem
  | @call o next w made rest later ih =>
    cases shape with
    | quiet quiet shape =>
      rcases List.mem_cons.mp mem with rfl | mem
      · exact (Op.Quiet.no_write quiet writes).elim
      · obtain ⟨ended, made⟩ := ih (shape _) mem
        refine ⟨ended, fun m' mem' => ?_⟩
        rcases List.mem_cons.mp mem' with rfl | mem'
        · exact ⟨Op.Quiet.delivers quiet, fun writes => (Op.Quiet.no_write quiet writes).elim⟩
        · exact made m' mem'
    | @provision p _ failed succeeded =>
      rcases List.mem_cons.mp mem with rfl | mem
      · cases writes
      · cases refusal : (Op.provision p).provisionFailed ((Op.provision p).outcome w).1 with
        | true =>
          obtain ⟨e', ended⟩ := failed _ refusal
          rw [ended] at later
          obtain ⟨rfl, -⟩ := later.of_done
          nomatch mem
        | false =>
          obtain ⟨ended, made⟩ := (succeeded _ refusal).path_refused later mem writes refused
          refine ⟨ended, fun m' mem' => ?_⟩
          rcases List.mem_cons.mp mem' with rfl | mem'
          · exact ⟨rfl, fun writes => nomatch writes⟩
          · exact made m' mem'
    | finish finishes => exact finishes.path_refused (.call later) mem writes refused

theorem Finishes.path_ok {s : Script (Except ε α)} {made : List Made} {a : α}
    (shape : Finishes A fail s) (path : Path s made (.done (.ok a))) :
    ∃ m ∈ made, m.op.WritesStore = true ∧ m.op.writeError m.answer = none := by
  generalize ended : (Script.done (Except.ok a) : Script (Except ε α)) = rest at path
  induction path with
  | here s =>
    subst ended
    nomatch shape
  | @call o next w made rest later ih =>
    cases shape with
    | quiet _ shape =>
      obtain ⟨m, mem, wrote⟩ := ih (shape _) ended
      exact ⟨m, List.mem_cons_of_mem _ mem, wrote⟩
    | write writes _ failed _ =>
      cases answered : o.writeError (o.outcome w).1 with
      | none => exact ⟨⟨o, w⟩, List.mem_cons_self, writes, answered⟩
      | some e =>
        rw [failed _ e answered] at later
        obtain ⟨-, stopped⟩ := later.of_done
        rw [← ended] at stopped
        cases stopped

theorem Commits.path_ok {s : Script (Except ε α)} {made : List Made} {once : Bool} {a : α}
    (shape : Commits A fail once s) (path : Path s made (.done (.ok a))) :
    ∃ m ∈ made, m.op.WritesStore = true ∧ m.op.writeError m.answer = none := by
  generalize ended : (Script.done (Except.ok a) : Script (Except ε α)) = rest at path
  induction path generalizing once with
  | here s =>
    subst ended
    cases shape with
    | finish finishes => nomatch finishes
  | @call o next w made rest later ih =>
    cases shape with
    | quiet _ shape =>
      obtain ⟨m, mem, wrote⟩ := ih (shape _) ended
      exact ⟨m, List.mem_cons_of_mem _ mem, wrote⟩
    | @provision p _ failed succeeded =>
      cases refusal : (Op.provision p).provisionFailed ((Op.provision p).outcome w).1 with
      | true =>
        obtain ⟨e, stopped⟩ := failed _ refusal
        rw [stopped] at later
        obtain ⟨-, stopped⟩ := later.of_done
        rw [← ended] at stopped
        cases stopped
      | false =>
        subst ended
        obtain ⟨m, mem, wrote⟩ := (succeeded _ refusal).path_ok later
        exact ⟨m, List.mem_cons_of_mem _ mem, wrote⟩
    | finish finishes =>
      subst ended
      exact finishes.path_ok (.call later)

theorem Commits.allows {s : Script (Except ε α)} {once : Bool} (shape : Commits A fail once s) :
    Everywhere (fun o => o.WritesStore = true → A o) s := by
  have finishing : ∀ {s : Script (Except ε α)}, Finishes A fail s →
      Everywhere (fun o => o.WritesStore = true → A o) s := by
    intro s finishes
    induction finishes with
    | quiet quiet _ ih => exact .call (fun writes => (Op.Quiet.no_write quiet writes).elim) ih
    | @write o next _ allowed failed succeeded =>
      refine .call (fun _ => allowed) fun b => ?_
      cases answered : o.writeError b with
      | some e =>
        rw [failed b e answered]
        exact .done _
      | none => exact (succeeded b answered).calls.mono fun _ keeps writes => by rw [keeps.1] at writes; cases writes
  induction shape with
  | refuse e => exact .done _
  | quiet quiet _ ih => exact .call (fun writes => (Op.Quiet.no_write quiet writes).elim) ih
  | @provision p next failed succeeded =>
    refine .call (fun writes => nomatch writes) fun b => ?_
    cases refusal : (Op.provision p).provisionFailed b with
    | true =>
      obtain ⟨e, ended⟩ := failed b refusal
      rw [ended]
      exact .done _
    | false => exact finishing (succeeded b refusal)
  | finish finishes => exact finishing finishes

theorem ProvisionThen.path_provisioned {W : Proposal → CreatedDataset → Op → Prop}
    {s rest : Script (Except ε α)} {made : List Made} (shape : ProvisionThen W fail s)
    (path : Path s made rest) {m : Made} (mem : m ∈ made) (writes : m.op.WritesStore = true) :
    ∃ provisioning created, made.filter (·.op.Provisions) = [provisioning] ∧
      provisioning.op.provided provisioning.answer = some created := by
  induction path with
  | here s => nomatch mem
  | @call o next w made rest later ih =>
    cases shape with
    | quiet quiet shape =>
      rcases List.mem_cons.mp mem with rfl | mem
      · exact (Op.Quiet.no_write quiet writes).elim
      · obtain ⟨provisioning, created, only, answered⟩ := ih (shape _) mem
        refine ⟨provisioning, created, ?_, answered⟩
        rw [List.filter_cons_of_neg (by simp [Op.Quiet.provisions quiet]), only]
    | @provision p _ failed succeeded =>
      rcases List.mem_cons.mp mem with rfl | mem
      · cases writes
      · cases answered : (Op.provision p).outcome w |>.1 with
        | error e =>
          obtain ⟨e', ended⟩ := failed e
          rw [answered, ended] at later
          obtain ⟨rfl, -⟩ := later.of_done
          nomatch mem
        | ok created =>
          -- after a successful provisioning the run only finishes, and finishing never provisions
          rw [answered] at later
          have none := ((succeeded created).calls.path later).1
          refine ⟨⟨.provision p, w⟩, created, ?_, by simp [Made.answer, Op.provided, answered]⟩
          rw [List.filter_cons_of_pos rfl, List.filter_eq_nil_iff.mpr fun m mem => by simp [none m mem]]

end Shapes

end Script

namespace Service

/-- A call in flight: the call, what remains of its operation, and the atomic calls it made,
earliest first. -/
structure Flight where
  call : Call
  rest : Script (Except ServiceError call.Result)
  made : List Made

namespace Flight

def start (c : Call) : Flight := ⟨c, c.act.run, []⟩

def advance (w : World) : Flight → World × Flight
  | ⟨c, .done r, made⟩ => (w, ⟨c, .done r, made⟩)
  | ⟨c, .call o next, made⟩ => ((o.outcome w).2, ⟨c, next (o.outcome w).1, made ++ [⟨o, w⟩]⟩)

/-- The flight has provisioned `created`. -/
def Provided (f : Flight) (created : CreatedDataset) : Prop :=
  ∃ m ∈ f.made, m.op.provided m.answer = some created

/-- A write of the flight succeeded. -/
def Recorded (f : Flight) : Prop :=
  ∃ m ∈ f.made, m.op.WritesStore = true ∧ m.op.writeError m.answer = none

/-- The flight read the proposal `p`. -/
def Read (f : Flight) (p : Proposal) : Prop :=
  ∃ m ∈ f.made, m.op.readRecord m.answer = some p

/-- The flight read the repository `r`. -/
def ReadRepository (f : Flight) (r : RepositoryRecord) : Prop :=
  ∃ m ∈ f.made, m.op.readRepository m.answer = some r

end Flight

/-- Calls racing over one world, each under a name of type `ι`. -/
structure Race (ι : Type) where
  world : World
  flights : ι → Flight

namespace Race
variable {ι : Type}

def start (w : World) (calls : ι → Call) : Race ι := ⟨w, fun i => .start (calls i)⟩

def step [DecidableEq ι] (race : Race ι) (i : ι) : Race ι :=
  ⟨((race.flights i).advance race.world).1,
    fun j => if j = i then ((race.flights i).advance race.world).2 else race.flights j⟩

def run [DecidableEq ι] (race : Race ι) (schedule : List ι) : Race ι := schedule.foldl step race

theorem step_cases [DecidableEq ι] (race : Race ι) (i : ι) :
    race.step i = race ∨
      ∃ o next, (race.flights i).rest = .call o next ∧
        race.step i = ⟨(o.outcome race.world).2, fun j => if j = i then
          ⟨(race.flights i).call, next (o.outcome race.world).1,
            (race.flights i).made ++ [⟨o, race.world⟩]⟩ else race.flights j⟩ := by
  obtain ⟨world, flights⟩ := race
  unfold step
  dsimp only
  cases moving : flights i with
  | mk c rest made =>
    cases rest with
    | done r =>
      refine .inl ?_
      congr
      funext j
      by_cases here : j = i
      · subst here
        rw [if_pos rfl, moving]
        rfl
      · rw [if_neg here]
    | call o next => exact .inr ⟨o, next, rfl, rfl⟩

theorem run_induction [DecidableEq ι] {P : Race ι → Prop} {race : Race ι} (start : P race)
    (step : ∀ race i, P race → P (race.step i)) (schedule : List ι) : P (race.run schedule) := by
  induction schedule generalizing race with
  | nil => exact start
  | cons i rest ih => exact ih (step race i start)

/-- `race'` is `race` after flight `i` made the call `o` its operation was waiting to make: the
world is the one `o` left, the flight goes on with `o`'s answer and has `o` among its calls
made, and every other flight is as it was. -/
structure Moves (race race' : Race ι) (i : ι) (o : Op) : Prop where
  world : race'.world = (o.outcome race.world).2
  flight : ∃ next, (race.flights i).rest = .call o next ∧
    race'.flights i = ⟨(race.flights i).call, next (o.outcome race.world).1,
      (race.flights i).made ++ [⟨o, race.world⟩]⟩
  others : ∀ j, j ≠ i → race'.flights j = race.flights j

theorem step_moves [DecidableEq ι] (race : Race ι) (i : ι) : race.step i = race ∨ ∃ o, race.Moves (race.step i) i o := by
  rcases step_cases race i with same | ⟨o, next, waiting, moved⟩
  · exact .inl same
  · refine .inr ⟨o, by rw [moved], ⟨next, waiting, by rw [moved]; simp⟩, fun j apart => ?_⟩
    rw [moved]
    simp [apart]

section Moves
variable {race race' : Race ι} {i : ι} {o : Op}

theorem Moves.call (moves : race.Moves race' i o) (j : ι) : (race'.flights j).call = (race.flights j).call := by
  by_cases here : j = i
  · subst here
    obtain ⟨next, -, flight⟩ := moves.flight
    rw [flight]
  · rw [moves.others j here]

theorem Moves.mem_made (moves : race.Moves race' i o) {j : ι} {m : Made} :
    m ∈ (race'.flights j).made ↔ m ∈ (race.flights j).made ∨ j = i ∧ m = ⟨o, race.world⟩ := by
  by_cases here : j = i
  · subst here
    obtain ⟨next, -, flight⟩ := moves.flight
    rw [flight]
    simp
  · rw [moves.others j here]
    simp [here]

theorem Moves.made_of (moves : race.Moves race' i o) {j : ι} {m : Made} (mem : m ∈ (race.flights j).made) :
    m ∈ (race'.flights j).made :=
  moves.mem_made.mpr (.inl mem)

theorem Moves.made_self (moves : race.Moves race' i o) : (⟨o, race.world⟩ : Made) ∈ (race'.flights i).made :=
  moves.mem_made.mpr (.inr ⟨rfl, rfl⟩)

theorem Moves.exists_made (moves : race.Moves race' i o) {j : ι} {Q : Made → Prop} :
    (∃ m ∈ (race'.flights j).made, Q m) ↔ (∃ m ∈ (race.flights j).made, Q m) ∨ j = i ∧ Q ⟨o, race.world⟩ := by
  constructor
  · rintro ⟨m, mem, holds⟩
    rcases moves.mem_made.mp mem with old | ⟨here, rfl⟩
    · exact .inl ⟨m, old, holds⟩
    · exact .inr ⟨here, holds⟩
  · rintro (⟨m, mem, holds⟩ | ⟨rfl, holds⟩)
    · exact ⟨m, moves.made_of mem, holds⟩
    · exact ⟨_, moves.made_self, holds⟩

theorem Moves.provided (moves : race.Moves race' i o) {j : ι} {created : CreatedDataset} :
    (race'.flights j).Provided created ↔
      (race.flights j).Provided created ∨ j = i ∧ o.provided (o.outcome race.world).1 = some created :=
  moves.exists_made

theorem Moves.read (moves : race.Moves race' i o) {j : ι} {p : Proposal} :
    (race'.flights j).Read p ↔
      (race.flights j).Read p ∨ j = i ∧ o.readRecord (o.outcome race.world).1 = some p :=
  moves.exists_made

theorem Moves.readRepository (moves : race.Moves race' i o) {j : ι} {r : RepositoryRecord}
    (read : (race.flights j).ReadRepository r) : (race'.flights j).ReadRepository r :=
  moves.exists_made.mpr (.inl read)

theorem Moves.recorded (moves : race.Moves race' i o) {j : ι} (recorded : (race.flights j).Recorded) :
    (race'.flights j).Recorded :=
  moves.exists_made.mpr (.inl recorded)

end Moves

/-- What every race from `w` over the calls `calls` keeps: its world is in memory and has drawn at
least the identifiers `w` had; each flight still serves its call, has come along a path through
its operation, and made each of its calls in a world in memory that had drawn as much. -/
structure Traced (w : World) (calls : ι → Call) (race : Race ι) : Prop where
  inMemory : race.world.InMemory
  issued : w.issued ≤ race.world.issued
  call : ∀ i, (race.flights i).call = calls i
  path : ∀ i, Script.Path (race.flights i).call.act.run (race.flights i).made (race.flights i).rest
  made : ∀ i, ∀ m ∈ (race.flights i).made, m.before.InMemory ∧ w.issued ≤ m.before.issued

theorem traced_start {w : World} (hw : w.InMemory) (calls : ι → Call) : (start w calls).Traced w calls :=
  ⟨hw, Nat.le_refl _, fun _ => rfl, fun _ => .here _, fun _ _ none => nomatch none⟩

theorem Traced.step [DecidableEq ι] {w : World} {calls : ι → Call} {race : Race ι} (traced : race.Traced w calls)
    (i : ι) : (race.step i).Traced w calls := by
  rcases step_moves race i with same | ⟨o, moves⟩
  · rw [same]
    exact traced
  · have follows := World.outcome_follows traced.inMemory o
    obtain ⟨next, waiting, flight⟩ := moves.flight
    refine ⟨by rw [moves.world]; exact follows.inMemory,
      by rw [moves.world]; exact Nat.le_trans traced.issued follows.issued,
      fun j => (moves.call j).trans (traced.call j), fun j => ?_, fun j m mem => ?_⟩
    · by_cases here : j = i
      · subst here
        rw [flight]
        exact (traced.path j).snoc race.world waiting
      · rw [moves.others j here]
        exact traced.path j
    · rcases moves.mem_made.mp mem with old | ⟨-, rfl⟩
      · exact traced.made j m old
      · exact ⟨traced.inMemory, traced.issued⟩

theorem traced_run [DecidableEq ι] {w : World} (hw : w.InMemory) (calls : ι → Call) (schedule : List ι) :
    ((start w calls).run schedule).Traced w calls :=
  run_induction (traced_start hw calls) (fun _ i traced => traced.step i) schedule

end Race

end Service

end DatasetProposals
