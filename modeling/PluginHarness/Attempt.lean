import PluginHarness.Failure

/-!
# Attempts

An attempt changes a state and then gives a value or fails. The state survives a failure: what
was changed before it stays changed. Handlers see the state that the failure left behind.

## Main definitions

* `Attempt`: a change of state that may fail.
* `Attempt.rescue`: goes on after an ordinary failure; interruptions pass through.
* `Attempt.explained`: puts an ordinary failure into a context.
* `Attempt.always`: does something afterwards, whatever happened.
* `Attempt.on`: an attempt on a part of the state.
-/

namespace PluginHarness

/-- A change of a state `σ` that gives an `α` or fails, and leaves a state in both cases. -/
def Attempt (σ α : Type) : Type := σ → Except Failure α × σ

namespace Attempt

variable {σ τ α β : Type}

/-- Gives a value and changes nothing. -/
protected def pure (a : α) : Attempt σ α := fun s => (.ok a, s)

/-- Goes on with the value, if there is one, in the state left behind. -/
protected def bind (x : Attempt σ α) (f : α → Attempt σ β) : Attempt σ β := fun s =>
  match x s with
  | (.ok a, s') => f a s'
  | (.error e, s') => (.error e, s')

instance : Monad (Attempt σ) where
  pure := Attempt.pure
  bind := Attempt.bind

/-- Fails and changes nothing. -/
def fail (e : Failure) : Attempt σ α := fun s => (.error e, s)

/-- The state. -/
def state : Attempt σ σ := fun s => (.ok s, s)

/-- Changes the state. -/
def change (f : σ → σ) : Attempt σ Unit := fun s => (.ok (), f s)

/-- A value or a failure that is there already. -/
def ofExcept (x : Except Failure α) : Attempt σ α := fun s => (x, s)

/-- Goes on after a failure with what the handler gives for it; without a handler it passes. -/
def handle (x : Attempt σ α) (handler : Failure → Option (Attempt σ α)) : Attempt σ α := fun s =>
  match x s with
  | (.ok a, s') => (.ok a, s')
  | (.error e, s') =>
    match handler e with
    | some y => y s'
    | none => (.error e, s')

/-- Goes on after an ordinary failure; an interruption passes. -/
def rescue (x : Attempt σ α) (handler : Failure → Attempt σ α) : Attempt σ α :=
  x.handle fun e => if e.isInterrupt then none else some (handler e)

/-- Puts an ordinary failure into a context; an interruption passes. -/
def explained (x : Attempt σ α) (c : Context) : Attempt σ α :=
  x.rescue fun e => fail (.within c e)

/-- Does something afterwards, whatever happened. A failure of the last part wins. -/
def always (x : Attempt σ α) (last : Attempt σ Unit) : Attempt σ α := fun s =>
  match x s with
  | (r, s') =>
    match last s' with
    | (.ok (), s'') => (r, s'')
    | (.error e, s'') => (.error e, s'')

/-- An attempt on a part of the state. -/
def on (view : σ → τ) (update : τ → σ → σ) (x : Attempt τ α) : Attempt σ α := fun s =>
  match x (view s) with
  | (r, t) => (r, update t s)

/-- The outcome of an attempt as a value; it never fails. -/
def outcome (x : Attempt σ α) : Attempt σ (Except Failure α) := fun s =>
  match x s with
  | (r, s') => (.ok r, s')

/-! ### How attempts run -/

@[simp] theorem pure_apply (a : α) (s : σ) : (pure a : Attempt σ α) s = (.ok a, s) := rfl

@[simp] theorem fail_apply (e : Failure) (s : σ) : (fail e : Attempt σ α) s = (.error e, s) := rfl

@[simp] theorem state_apply (s : σ) : (state : Attempt σ σ) s = (.ok s, s) := rfl

@[simp] theorem change_apply (f : σ → σ) (s : σ) : change f s = (.ok (), f s) := rfl

@[simp] theorem ofExcept_apply (x : Except Failure α) (s : σ) : ofExcept x s = (x, s) := rfl

theorem bind_apply (x : Attempt σ α) (f : α → Attempt σ β) (s : σ) :
    (x >>= f) s = match x s with
      | (.ok a, s') => f a s'
      | (.error e, s') => (.error e, s') := rfl

/-- After a value, an attempt goes on in the state left behind. -/
theorem bind_of_ok {x : Attempt σ α} {f : α → Attempt σ β} {s s' : σ} {a : α}
    (h : x s = (.ok a, s')) : (x >>= f) s = f a s' := by
  rw [bind_apply, h]

/-- After a failure, an attempt ends in the state left behind. -/
theorem bind_of_error {x : Attempt σ α} {f : α → Attempt σ β} {s s' : σ} {e : Failure}
    (h : x s = (.error e, s')) : (x >>= f) s = (.error e, s') := by
  rw [bind_apply, h]

end Attempt

end PluginHarness
