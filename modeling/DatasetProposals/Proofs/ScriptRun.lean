import DatasetProposals.Service.Script
/-! Running scripts: `Holds s Q w` for what a script finishes with from `w`, with one rule per way
of building a script, and `Everywhere P s` for every call it can make. -/
namespace DatasetProposals

def Op.outcome (o : Op) (w : World) : o.Answer × World := o.run.run w

namespace Script

@[simp] theorem pure_eq (a : α) : (pure a : Script α) = .done a := rfl

@[simp] theorem done_bind (a : α) (f : α → Script β) : (Script.done a >>= f) = f a := rfl

@[simp] theorem call_bind (o : Op) (next : o.Answer → Script α) (f : α → Script β) :
    (Script.call o next >>= f) = .call o fun b => next b >>= f := rfl

theorem bind_assoc (s : Script α) (f : α → Script β) (g : β → Script γ) :
    s >>= f >>= g = s >>= fun a => f a >>= g := by
  induction s with
  | done a => rfl
  | call o next ih => simp only [call_bind,ih]

theorem bind_done (s : Script α) : s >>= Script.done = s := by
  induction s with
  | done a => rfl
  | call o next ih => simp only [call_bind,ih]

instance : LawfulMonad Script :=
  LawfulMonad.mk' Script (fun s => bind_done s) (fun _ _ => rfl) bind_assoc

def outcome (s : Script α) (w : World) : α × World := s.run.run w

@[simp] theorem outcome_done (a : α) (w : World) : (Script.done a).outcome w = (a, w) := rfl

theorem outcome_call (o : Op) (next : o.Answer → Script α) (w : World) :
    (Script.call o next).outcome w = (next (o.outcome w).1).outcome (o.outcome w).2 := rfl

theorem outcome_op (o : Op) (w : World) : (Script.op o).outcome w = o.outcome w := rfl

theorem outcome_bind (s : Script α) (f : α → Script β) (w : World) :
    (s >>= f).outcome w = (f (s.outcome w).1).outcome (s.outcome w).2 := by
  induction s generalizing w with
  | done a => rfl
  | call o next ih => simp only [call_bind,outcome_call,ih]

/-- `Q` holds of the value and the world a run of `s` from `w` ends with. -/
def Holds (s : Script α) (Q : α → World → Prop) (w : World) : Prop :=
  Q (s.outcome w).1 (s.outcome w).2

@[simp] theorem holds_done : Holds (.done a) Q w ↔ Q a w := Iff.rfl

theorem holds_call : Holds (.call o next) Q w ↔ Holds (next (o.outcome w).1) Q (o.outcome w).2 :=
  Iff.rfl

theorem holds_op : Holds (Script.op o) Q w ↔ Q (o.outcome w).1 (o.outcome w).2 :=
  Iff.rfl

theorem holds_bind (s : Script α) (f : α → Script β) :
    Holds (s >>= f) Q w ↔ Holds s (fun a w' => Holds (f a) Q w') w := by
  simp only [Holds,outcome_bind]

theorem Holds.mono {s : Script α} {Q Q' : α → World → Prop} (holds : Holds s Q w)
    (weaker : ∀ a w', Q a w' → Q' a w') : Holds s Q' w :=
  weaker _ _ holds

/-- Every call `s` can make satisfies `P`, whatever the earlier calls answer. -/
inductive Everywhere (P : Op → Prop) : Script α → Prop
  | done (a : α) : Everywhere P (.done a)
  | call {o : Op} {next : o.Answer → Script α} : P o → (∀ b, Everywhere P (next b)) →
      Everywhere P (.call o next)

theorem Everywhere.bind {P : Op → Prop} {s : Script α} {f : α → Script β}
    (first : Everywhere P s) (rest : ∀ a, Everywhere P (f a)) : Everywhere P (s >>= f) := by
  induction first with
  | done a => exact rest a
  | call here _ ih => exact .call here ih

theorem Everywhere.op {P : Op → Prop} {o : Op} (here : P o) : Everywhere P (Script.op o) :=
  .call here fun b => .done b

theorem Everywhere.mono {P Q : Op → Prop} {s : Script α} (calls : Everywhere P s)
    (weaker : ∀ o, P o → Q o) : Everywhere Q s := by
  induction calls with
  | done a => exact .done a
  | call here _ ih => exact .call (weaker _ here) ih

theorem Everywhere.of_forall {P : Op → Prop} (all : ∀ o, P o) : (s : Script α) → Everywhere P s
  | .done a => .done a
  | .call _ next => .call (all _) fun b => of_forall all (next b)

theorem Everywhere.keeps {P : Op → Prop} {I : World → Prop} {R : World → World → Prop}
    (refl : ∀ w, R w w) (trans : ∀ {u v w}, R u v → R v w → R u w)
    (step : ∀ o w, I w → P o → R w (o.outcome w).2 ∧ I (o.outcome w).2)
    {s : Script α} (calls : Everywhere P s) {w : World} (start : I w) :
    R w (s.outcome w).2 ∧ I (s.outcome w).2 := by
  induction calls generalizing w with
  | done a => exact ⟨refl w,start⟩
  | @call o next here _ ih =>
    obtain ⟨first,kept⟩ := step o w start here
    obtain ⟨rest,final⟩ := ih (o.outcome w).1 kept
    rw [outcome_call]
    exact ⟨trans first rest,final⟩

end Script

namespace ServiceAct

theorem exec_eq (x : ServiceAct α) : x.exec = x.run.run := rfl

/-- `Q` holds of the result and the world a run of the operation `x` from `w` ends with. -/
def Holds (x : ServiceAct α) (Q : Except ServiceError α → World → Prop) (w : World) : Prop :=
  Script.Holds x.run Q w

theorem holds_iff (x : ServiceAct α) : Holds x Q w ↔ Q (x.run.outcome w).1 (x.run.outcome w).2 :=
  Iff.rfl

@[simp] theorem holds_pure (a : α) : Holds (pure a : ServiceAct α) Q w ↔ Q (.ok a) w := Iff.rfl

@[simp] theorem holds_throw (e : ServiceError) : Holds (throw e : ServiceAct α) Q w ↔ Q (.error e) w :=
  Iff.rfl

theorem holds_bind (x : ServiceAct α) (f : α → ServiceAct β) :
    Holds (x >>= f) Q w ↔ Holds x (fun r w' => match r with
      | .ok a => Holds (f a) Q w'
      | .error e => Q (.error e) w') w := by
  change Script.Holds (x.run >>= _) Q w ↔ _
  rw [Script.holds_bind]
  apply Iff.of_eq
  congr
  funext r w'
  cases r <;> rfl

theorem holds_lift (s : Script α) :
    Holds (liftM s : ServiceAct α) Q w ↔ Script.Holds s (fun a w' => Q (.ok a) w') w := by
  change Script.Holds (s >>= fun a => Script.done (Except.ok a)) Q w ↔ _
  rw [Script.holds_bind]
  rfl

theorem holds_mk (s : Script (Except ServiceError α)) :
    Holds (ExceptT.mk s) Q w ↔ Script.Holds s Q w := Iff.rfl

theorem Holds.mono {x : ServiceAct α} {Q Q' : Except ServiceError α → World → Prop}
    (holds : Holds x Q w) (weaker : ∀ r w', Q r w' → Q' r w') : Holds x Q' w :=
  Script.Holds.mono holds weaker

end ServiceAct

end DatasetProposals
