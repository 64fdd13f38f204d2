import DubCheck.Failure
/-!
# Actions

An action works on a state and either gives a result or fails.  The state it has reached is kept in
both cases, so that a failing action still leaves its traces.
-/

namespace DubCheck

/-- An action on states of type `σ`. -/
abbrev Act (σ α : Type) := ExceptT Failure (StateM σ) α

namespace Act

variable {σ τ α β : Type}

/-- Run an action. -/
def apply (a : Act σ α) (s : σ) : Except Failure α × σ :=
  a s

/-- The action that a function on states is. -/
def ofFunction (f : σ → Except Failure α × σ) : Act σ α :=
  f

/-- The outcome of an action, when it does not matter whether it failed.  An interruption is no
outcome and is passed on. -/
def outcome (a : Act σ α) : Act σ (Except Failure α) :=
  ofFunction fun s =>
    match a.apply s with
    | (.error .interrupted, s) => (.error .interrupted, s)
    | (r, s) => (.ok r, s)

/-- An action on a part of the state. -/
def onPart (part : σ → τ) (update : τ → σ → σ) (a : Act τ α) : Act σ α :=
  ofFunction fun s =>
    let (r, t) := a.apply (part s)
    (r, update t s)

/-- The action that does nothing but give a result or fail. -/
def ofExcept (r : Except Failure α) : Act σ α :=
  ofFunction fun s => (r, s)

/-! ## What actions do -/

@[simp] theorem apply_pure (x : α) (s : σ) : (pure x : Act σ α).apply s = (.ok x, s) := rfl

@[simp] theorem apply_throw (e : Failure) (s : σ) :
    (throw e : Act σ α).apply s = (.error e, s) := rfl

@[simp] theorem apply_get (s : σ) : (get : Act σ σ).apply s = (.ok s, s) := rfl

@[simp] theorem apply_modify (f : σ → σ) (s : σ) :
    (modify f : Act σ Unit).apply s = (.ok (), f s) := rfl

@[simp] theorem apply_ofFunction (f : σ → Except Failure α × σ) (s : σ) :
    (ofFunction f).apply s = f s := rfl

@[simp] theorem apply_ofExcept (r : Except Failure α) (s : σ) : (ofExcept r).apply s = (r, s) := rfl

@[simp] theorem apply_onPart (part : σ → τ) (update : τ → σ → σ) (a : Act τ α) (s : σ) :
    (onPart part update a).apply s = ((a.apply (part s)).1, update (a.apply (part s)).2 s) := rfl

@[simp] theorem apply_outcome (a : Act σ α) (s : σ) :
    a.outcome.apply s =
      match a.apply s with
      | (.error .interrupted, t) => (.error .interrupted, t)
      | (r, t) => (.ok r, t) := rfl

/-- A second action takes place where a first one has succeeded, in the state it has reached. -/
theorem apply_bind (a : Act σ α) (f : α → Act σ β) (s : σ) :
    (a >>= f).apply s =
      match a.apply s with
      | (.ok x, t) => (f x).apply t
      | (.error e, t) => (.error e, t) := by
  have step : (a >>= f).apply s = ExceptT.bindCont f (a.apply s).1 (a.apply s).2 := rfl
  rcases h : a.apply s with ⟨r, t⟩
  cases r <;> simp only [step, h] <;> rfl

end Act

end DubCheck
