import AllowanceProxy.Chain.Basic

/-!
What a computation that asks the chain comes to: its outcome and the chain after it. A success is
taken apart along the steps of the computation.
-/
namespace AllowanceProxy

variable {σ α β : Type}

theorem except_bind_eq_ok {x : Except Error α} {f : α → Except Error β} {b : β} :
    x >>= f = .ok b ↔ ∃ a, x = .ok a ∧ f a = .ok b := by
  cases x with
  | error e => simp [bind, Except.bind]
  | ok a => simp [bind, Except.bind]

theorem except_bind_eq_error {x : Except Error α} {f : α → Except Error β} {err : Error} :
    x >>= f = .error err ↔ x = .error err ∨ ∃ a, x = .ok a ∧ f a = .error err := by
  cases x with
  | error e => simp [bind, Except.bind]
  | ok a => simp [bind, Except.bind]

theorem except_ok_bind (a : α) (f : α → Except Error β) : Except.ok a >>= f = f a := rfl

theorem except_pure (a : α) : (pure a : Except Error α) = .ok a := rfl

namespace Asking

/-- The outcome against a chain, and the chain after it. -/
def ask (x : Asking σ α) (s : σ) : Except Error α × σ := (x.run.run s).run

/-- Against the chain `s` the computation succeeds with `a`, and it leaves the chain `t`. -/
def Yields (x : Asking σ α) (s : σ) (a : α) (t : σ) : Prop := x.ask s = (.ok a, t)

@[simp] theorem ask_pure (a : α) (s : σ) : ask (pure a) s = (.ok a, s) := rfl

@[simp] theorem ask_throw (e : Error) (s : σ) :
    ask (throw e : Asking σ α) s = (.error e, s) := rfl

@[simp] theorem ask_mk (f : σ → Except Error α × σ) (s : σ) : ask (mk f) s = f s := rfl

@[simp] theorem ask_lift (x : Except Error α) (s : σ) : ask (lift x) s = (x, s) := rfl

theorem ask_bind (x : Asking σ α) (f : α → Asking σ β) (s : σ) :
    ask (x >>= f) s = match x.ask s with
      | (.ok a, t) => (f a).ask t
      | (.error e, t) => (.error e, t) := by
  unfold ask
  rw [ExceptT.run_bind, StateT.run_bind, Id.run_bind]
  rcases (x.run.run s).run with ⟨_ | _, _⟩ <;> rfl

theorem ask_exceptT_lift_bind (x : StateM σ α) (f : α → Asking σ β) (s : σ) :
    ask (ExceptT.lift x >>= f) s = (f (x.run s).run.1).ask (x.run s).run.2 := by
  rw [ask_bind]
  rfl

theorem run_bind_ask (x : Asking σ α) (f : Except Error α → StateM σ β) (s : σ) :
    ((x.run >>= f).run s).run = ((f (x.ask s).1).run (x.ask s).2).run := rfl

theorem ext_ask {x y : Asking σ α} (h : ∀ s, x.ask s = y.ask s) : x = y := funext h

theorem ask_map (f : α → β) (x : Asking σ α) (s : σ) :
    ask (f <$> x) s = ((x.ask s).1.map f, (x.ask s).2) := by
  rw [← bind_pure_comp, ask_bind]
  rcases x.ask s with ⟨_ | a, t⟩ <;> rfl

theorem lift_ok_bind (a : α) (f : α → Asking σ β) : lift (.ok a) >>= f = f a := rfl

theorem yields_bind {x : Asking σ α} {f : α → Asking σ β} {s u : σ} {b : β} :
    Yields (x >>= f) s b u ↔ ∃ a t, Yields x s a t ∧ Yields (f a) t b u := by
  unfold Yields
  rw [ask_bind]
  rcases x.ask s with ⟨_ | a, t⟩
  · simp
  · simp [and_assoc]

theorem yields_map {x : Asking σ α} {f : α → β} {s t : σ} {b : β} :
    Yields (f <$> x) s b t ↔ ∃ a, Yields x s a t ∧ f a = b := by
  rw [← bind_pure_comp, yields_bind]
  constructor
  · rintro ⟨a, u, hx, h⟩
    cases h
    exact ⟨a, hx, rfl⟩
  · rintro ⟨a, hx, rfl⟩
    exact ⟨a, t, hx, rfl⟩

@[simp] theorem yields_pure {a b : α} {s t : σ} :
    Yields (pure a) s b t ↔ a = b ∧ s = t := by simp [Yields]

@[simp] theorem not_yields_throw {e : Error} {b : α} {s t : σ} :
    ¬ Yields (throw e) s b t := by simp [Yields]

@[simp] theorem yields_lift {x : Except Error α} {b : α} {s t : σ} :
    Yields (lift x) s b t ↔ x = .ok b ∧ s = t := by simp [Yields]

/-- A step that moves the chain and cannot fail by itself. -/
@[simp] theorem yields_exceptT_lift {x : StateM σ α} {b : α} {s t : σ} :
    Yields (ExceptT.lift x) s b t ↔ (x.run s).run = (b, t) := by
  have h : ask (ExceptT.lift x) s = (.ok (x.run s).run.1, (x.run s).run.2) := rfl
  rw [Yields, h]
  simp [Prod.ext_iff]

end Asking

end AllowanceProxy
