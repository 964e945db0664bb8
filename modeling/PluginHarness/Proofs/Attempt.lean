import Mathlib.Order.Defs.Unbundled
import PluginHarness.Attempt

/-!
# What an attempt does to its state

An attempt leaves a state whether it gives a value or fails, so what it does to its state is a
relation between two states that does not mention the outcome. `Respects R` says that every run is
an `R`-step. For a preorder `R` it passes through every way of combining attempts, and that is all
the frame reasoning there is: a claim about what a large attempt leaves alone is settled by the
attempts it is made of.

How an attempt can fail is of the same kind. `FailsOnly P` says of what sort every failure is,
whatever the states; a context settles it, because all ordinary failures get the context.

What depends on the outcome otherwise is stated for each operation by an equation or by cases, and
`bind_cases` takes a sequence apart at its first failure.

## Main definitions

* `Attempt.Respects`: every run of the attempt relates the states before and after it.
* `Attempt.Kept`: what is seen of the state stays the same.
* `Attempt.Maintains`: what holds of the state goes on holding.
* `Attempt.FailsOnly`: every failure of the attempt is of one sort.

## Main results

* `Attempt.Respects.bind`, `handle`, `rescue`, `explained`, `always`, `on`: the combinators.
* `Attempt.FailsOnly.bind`, `rescue`, `always`, `on`, `failsOnly_explained`: the same for failures.
* `Attempt.bind_cases`: a sequence ends in its first part, or goes on after it.
-/

namespace PluginHarness

/-- The failure in a context; an interruption stays bare. -/
def Failure.inContext (c : Context) (e : Failure) : Failure :=
  if e.isInterrupt then e else .within c e

theorem Failure.inContext_of_isInterrupt (c : Context) {e : Failure} (h : e.isInterrupt = true) :
    e.inContext c = e := if_pos h

/-- What is in a context came into it as an ordinary failure. -/
theorem Failure.inContext_eq_within {c c' : Context} {e cause : Failure}
    (h : e.inContext c = .within c' cause) : c = c' ∧ e = cause ∧ e.isInterrupt = false := by
  cases he : e.isInterrupt
  · simp only [inContext, he, Bool.false_eq_true, if_false, within.injEq] at h
    exact ⟨h.1, h.2, rfl⟩
  · simp only [inContext, he, if_true] at h
    rw [h] at he
    cases he

namespace Attempt

variable {σ τ α β : Type}

/-! ### Taking attempts apart -/

/-- A sequence fails with its first part, or goes on with the value of the first part. -/
theorem bind_cases (x : Attempt σ α) (f : α → Attempt σ β) (s : σ) :
    (∃ e s', x s = (.error e, s') ∧ (x >>= f) s = (.error e, s')) ∨
      ∃ a s', x s = (.ok a, s') ∧ (x >>= f) s = f a s' := by
  rcases h : x s with ⟨e | a, s'⟩
  · exact .inl ⟨e, s', rfl, bind_of_error h⟩
  · exact .inr ⟨a, s', rfl, bind_of_ok h⟩

/-- Sequences may be regrouped. -/
theorem bind_bind {γ : Type} (x : Attempt σ α) (f : α → Attempt σ β) (g : β → Attempt σ γ) :
    (x >>= f) >>= g = x >>= fun a => f a >>= g := by
  funext s
  rcases bind_cases x f s with ⟨e, s₁, hx, hb⟩ | ⟨a, s₁, hx, hb⟩
  · rw [bind_of_error hb, bind_of_error hx]
  · rw [bind_apply, hb, bind_of_ok hx]
    rfl

/-- A sequence that fails does so in one of its parts. -/
theorem error_of_bind {x : Attempt σ α} {f : α → Attempt σ β} {s s' : σ} {e : Failure}
    (h : (x >>= f) s = (.error e, s')) :
    x s = (.error e, s') ∨ ∃ a s₁, x s = (.ok a, s₁) ∧ f a s₁ = (.error e, s') := by
  rcases bind_cases x f s with ⟨e', s₁, hx, hb⟩ | ⟨a, s₁, hx, hb⟩
  · cases hb.symm.trans h
    exact .inl hx
  · exact .inr ⟨a, s₁, hx, hb.symm.trans h⟩

/-- A sequence that gives a value gives one in both of its parts. -/
theorem ok_of_bind {x : Attempt σ α} {f : α → Attempt σ β} {s s' : σ} {b : β}
    (h : (x >>= f) s = (.ok b, s')) : ∃ a s₁, x s = (.ok a, s₁) ∧ f a s₁ = (.ok b, s') := by
  rcases bind_cases x f s with ⟨e, s₁, -, hb⟩ | ⟨a, s₁, hx, hb⟩
  · cases hb.symm.trans h
  · exact ⟨a, s₁, hx, hb.symm.trans h⟩

/-- A value that is seen was given. -/
theorem ok_of_toOption {x : Attempt σ α} {f : α → β} {b : β} {s : σ}
    (h : (x s).1.toOption.map f = some b) : ∃ a s', x s = (.ok a, s') ∧ f a = b := by
  rcases hx : x s with ⟨e | a, s'⟩ <;> rw [hx] at h
  · cases h
  · exact ⟨a, s', rfl, Option.some.inj h⟩

/-- What ends in a failure of its own fails in the state that its first part leaves. -/
theorem bind_fail (x : Attempt σ α) (e : Failure) (s : σ) :
    ∃ e', (x >>= fun _ => (fail e : Attempt σ β)) s = (.error e', (x s).2) := by
  rcases bind_cases x (fun _ => (fail e : Attempt σ β)) s with ⟨e', s', h, hb⟩ | ⟨a, s', h, hb⟩
  · exact ⟨e', by rw [hb, h]⟩
  · exact ⟨e, by rw [hb, h, fail_apply]⟩

theorem map_of_ok {x : Attempt σ α} {s s' : σ} {a : α} (f : α → β) (h : x s = (.ok a, s')) :
    (f <$> x) s = (.ok (f a), s') := bind_of_ok h

theorem map_of_error {x : Attempt σ α} {s s' : σ} {e : Failure} (f : α → β)
    (h : x s = (.error e, s')) : (f <$> x) s = (.error e, s') := bind_of_error h

theorem on_apply (view : σ → τ) (update : τ → σ → σ) (x : Attempt τ α) (s : σ) :
    x.on view update s = ((x (view s)).1, update (x (view s)).2 s) := rfl

/-- A handler does not see a value. -/
theorem handle_of_ok {x : Attempt σ α} {s s' : σ} {a : α}
    (handler : Failure → Option (Attempt σ α)) (h : x s = (.ok a, s')) :
    x.handle handler s = (.ok a, s') := by
  simp [handle, h]

theorem handle_of_error {x : Attempt σ α} {s s' : σ} {e : Failure}
    (handler : Failure → Option (Attempt σ α)) (h : x s = (.error e, s')) :
    x.handle handler s = match handler e with
      | some y => y s'
      | none => (.error e, s') := by
  rcases hh : handler e with _ | y <;> simp [handle, h, hh]

theorem rescue_of_ok {x : Attempt σ α} {s s' : σ} {a : α} (handler : Failure → Attempt σ α)
    (h : x s = (.ok a, s')) : x.rescue handler s = (.ok a, s') := handle_of_ok _ h

theorem rescue_of_error {x : Attempt σ α} {s s' : σ} {e : Failure}
    (handler : Failure → Attempt σ α) (h : x s = (.error e, s')) :
    x.rescue handler s = if e.isInterrupt then (.error e, s') else handler e s' := by
  rw [rescue, handle_of_error _ h]
  cases he : e.isInterrupt <;> simp

/-- Putting failures into a context changes neither a value nor the state left behind. -/
theorem explained_apply (x : Attempt σ α) (c : Context) (s : σ) :
    x.explained c s = ((x s).1.mapError (Failure.inContext c), (x s).2) := by
  rcases h : x s with ⟨e | a, s'⟩
  · show _ = ((Except.error (e.inContext c) : Except Failure α), s')
    rw [explained, rescue_of_error _ h, Failure.inContext]
    split <;> rfl
  · rw [explained, rescue_of_ok _ h]
    rfl

theorem explained_of_ok {x : Attempt σ α} {s s' : σ} {a : α} (h : x s = (.ok a, s'))
    (c : Context) : x.explained c s = (.ok a, s') :=
  rescue_of_ok _ h

/-- A value in a context is one that was given without it. -/
theorem ok_of_explained {x : Attempt σ α} {c : Context} {s s' : σ} {a : α}
    (h : x.explained c s = (.ok a, s')) : x s = (.ok a, s') := by
  rcases hx : x s with ⟨e | a', s''⟩
  · rw [explained_apply, hx] at h
    cases h
  · rw [explained, rescue_of_ok _ hx] at h
    exact h

/-- A failure of an explained attempt is one that it ended in without the explanation, in its
context. -/
theorem error_of_explained {x : Attempt σ α} {c : Context} {s s' : σ} {e : Failure}
    (h : x.explained c s = (.error e, s')) :
    ∃ e', x s = (.error e', s') ∧ e = e'.inContext c := by
  rcases hx : x s with ⟨e' | a, s''⟩
  · rw [explained_apply, hx] at h
    cases h
    exact ⟨e', rfl, rfl⟩
  · rw [explained, rescue_of_ok _ hx] at h
    cases h

/-- What is done always acts on the state that was left, and leaves the last one. -/
theorem always_state (x : Attempt σ α) (last : Attempt σ Unit) (s : σ) :
    (x.always last s).2 = (last (x s).2).2 := by
  rcases h : last (x s).2 with ⟨e | _, s'⟩ <;> simp [Attempt.always, h]

/-- What is always done afterwards happens before a value is given, and ends well. -/
theorem ok_of_always {x : Attempt σ α} {last : Attempt σ Unit} {s s' : σ} {a : α}
    (h : x.always last s = (.ok a, s')) : ∃ s₁, x s = (.ok a, s₁) ∧ last s₁ = (.ok (), s') := by
  rcases hx : x s with ⟨r, s₁⟩
  rcases hl : last s₁ with ⟨e | _, s₂⟩ <;>
    simp only [Attempt.always, hx, hl, Prod.mk.injEq, reduceCtorEq, false_and] at h
  obtain ⟨rfl, rfl⟩ := h
  exact ⟨s₁, rfl, hl⟩

theorem always_of_ok {x : Attempt σ α} {last : Attempt σ Unit} {s s₁ s' : σ}
    {r : Except Failure α} (hx : x s = (r, s₁)) (hl : last s₁ = (.ok (), s')) :
    x.always last s = (r, s') := by
  simp [Attempt.always, hx, hl]

/-! ### Relating the states before and after -/

/-- Every run of the attempt relates the states before and after it, whatever its outcome. -/
def Respects (R : σ → σ → Prop) (x : Attempt σ α) : Prop := ∀ s, R s (x s).2

variable {R : σ → σ → Prop}

theorem Respects.mono {R' : σ → σ → Prop} {x : Attempt σ α} (h : x.Respects R)
    (hR : ∀ s s', R s s' → R' s s') : x.Respects R' :=
  fun s => hR _ _ (h s)

theorem respects_change {f : σ → σ} (h : ∀ s, R s (f s)) : (change f).Respects R := h

/-- An attempt on a part of the state is a step of the whole when every step of the part is. -/
theorem Respects.on {Q : τ → τ → Prop} {x : Attempt τ α} (h : x.Respects Q) {view : σ → τ}
    {update : τ → σ → σ} (hu : ∀ s t, Q (view s) t → R s (update t s)) :
    (x.on view update).Respects R :=
  fun s => hu _ _ (h (view s))

section Refl

variable [Std.Refl R]

theorem respects_pure (a : α) : (pure a : Attempt σ α).Respects R := fun s => refl_of R s

theorem respects_fail (e : Failure) : (fail e : Attempt σ α).Respects R := fun s => refl_of R s

theorem respects_state : (state : Attempt σ σ).Respects R := fun s => refl_of R s

theorem respects_ofExcept (x : Except Failure α) : (ofExcept x : Attempt σ α).Respects R :=
  fun s => refl_of R s

end Refl

section Trans

variable [IsTrans σ R]

/-- A sequence is a step when its first part is one and its second part is one for every value that
the first one can give. -/
theorem Respects.bind_of {x : Attempt σ α} {f : α → Attempt σ β} {P : α → Prop}
    (hx : x.Respects R) (hP : ∀ s a s', x s = (.ok a, s') → P a)
    (hf : ∀ a, P a → (f a).Respects R) : (x >>= f).Respects R := by
  intro s
  have hs := hx s
  rcases bind_cases x f s with ⟨e, s', h, hb⟩ | ⟨a, s', h, hb⟩
  · rw [h] at hs
    rw [hb]
    exact hs
  · rw [h] at hs
    rw [hb]
    exact trans_of R hs (hf a (hP s a s' h) s')

theorem Respects.bind {x : Attempt σ α} {f : α → Attempt σ β} (hx : x.Respects R)
    (hf : ∀ a, (f a).Respects R) : (x >>= f).Respects R :=
  hx.bind_of (fun _ _ _ _ => trivial) fun a _ => hf a

theorem Respects.handle {x : Attempt σ α} {handler : Failure → Option (Attempt σ α)}
    (hx : x.Respects R) (hh : ∀ e y, handler e = some y → y.Respects R) :
    (x.handle handler).Respects R := by
  intro s
  have hs := hx s
  rcases h : x s with ⟨e | a, s'⟩
  · rw [h] at hs
    rcases hy : handler e with _ | y
    · simpa [Attempt.handle, h, hy] using hs
    · simpa [Attempt.handle, h, hy] using trans_of R hs (hh e y hy s')
  · simpa [Attempt.handle, h] using (h ▸ hs : R s (Except.ok a, s').2)

theorem Respects.rescue {x : Attempt σ α} {handler : Failure → Attempt σ α}
    (hx : x.Respects R) (hh : ∀ e, (handler e).Respects R) : (x.rescue handler).Respects R := by
  refine hx.handle fun e y hy => ?_
  cases he : e.isInterrupt <;> simp only [he, reduceCtorEq, if_true, if_false, Bool.false_eq_true,
    Option.some.injEq] at hy
  subst hy
  exact hh e

theorem Respects.always {x : Attempt σ α} {last : Attempt σ Unit} (hx : x.Respects R)
    (hl : last.Respects R) : (x.always last).Respects R := by
  intro s
  rw [always_state]
  exact trans_of R (hx s) (hl (x s).2)

end Trans

variable [IsPreorder σ R]

theorem Respects.explained {x : Attempt σ α} (hx : x.Respects R) (c : Context) :
    (x.explained c).Respects R :=
  hx.rescue fun e => respects_fail (.within c e)

theorem Respects.map {x : Attempt σ α} (hx : x.Respects R) (f : α → β) :
    (f <$> x).Respects R :=
  hx.bind fun a => respects_pure (f a)

theorem respects_forM {f : α → Attempt σ Unit} (hf : ∀ a, (f a).Respects R) :
    ∀ list : List α, (list.forM f).Respects R
  | [] => respects_pure ()
  | a :: rest => (hf a).bind fun _ => respects_forM hf rest

/-- What ends well for every element of a list ends well for the list. -/
theorem forM_run {f : α → Attempt σ Unit} (hf : ∀ a s, ∃ s', f a s = (.ok (), s')) :
    ∀ (list : List α) (s : σ), ∃ s', list.forM f s = (.ok (), s')
  | [], s => ⟨s, rfl⟩
  | a :: rest, s => by
    obtain ⟨s₁, h₁⟩ := hf a s
    obtain ⟨s₂, h₂⟩ := forM_run hf rest s₁
    exact ⟨s₂, (bind_of_ok h₁).trans h₂⟩

/-! ### What stays the same -/

/-- What is seen of the state stays the same. -/
def Kept (view : σ → τ) (s s' : σ) : Prop := view s' = view s

instance (view : σ → τ) : IsPreorder σ (Kept view) where
  refl _ := rfl
  trans _ _ _ h h' := Eq.trans h' h

/-- What holds of the state goes on holding. -/
def Maintains (P : σ → Prop) (s s' : σ) : Prop := P s → P s'

instance (P : σ → Prop) : IsPreorder σ (Maintains P) where
  refl _ h := h
  trans _ _ _ h h' hs := h' (h hs)

/-! ### How attempts fail -/

/-- Every failure of the attempt is of the sort, whatever the states. -/
def FailsOnly (P : Failure → Prop) (x : Attempt σ α) : Prop :=
  ∀ s e s', x s = (.error e, s') → P e

variable {P : Failure → Prop}

theorem failsOnly_pure (a : α) : (pure a : Attempt σ α).FailsOnly P := fun _ _ _ h => nomatch h

theorem failsOnly_state : (state : Attempt σ σ).FailsOnly P := fun _ _ _ h => nomatch h

theorem failsOnly_change (f : σ → σ) : (change f).FailsOnly P := fun _ _ _ h => nomatch h

theorem failsOnly_fail {e : Failure} (h : P e) : (fail e : Attempt σ α).FailsOnly P := by
  rintro s e' s' ⟨⟩
  exact h

theorem failsOnly_ofExcept {x : Except Failure α} (h : ∀ e, x = .error e → P e) :
    (ofExcept x : Attempt σ α).FailsOnly P :=
  fun _ e _ hx => h e (congrArg Prod.fst hx)

theorem FailsOnly.bind {x : Attempt σ α} {f : α → Attempt σ β} (hx : x.FailsOnly P)
    (hf : ∀ a, (f a).FailsOnly P) : (x >>= f).FailsOnly P := by
  intro s e s' h
  rcases bind_cases x f s with ⟨e', s₁, hrun, hb⟩ | ⟨a, s₁, hrun, hb⟩
  · cases hb.symm.trans h
    exact hx s e s' hrun
  · exact hf a s₁ e s' (hb.symm.trans h)

/-- After a rescue there are interruptions and the failures of the handler. -/
theorem FailsOnly.rescue {handler : Failure → Attempt σ α} (hh : ∀ e, (handler e).FailsOnly P)
    (hi : ∀ e : Failure, e.isInterrupt = true → P e) (x : Attempt σ α) :
    (x.rescue handler).FailsOnly P := by
  intro s e s' h
  rcases hx : x s with ⟨e' | a, s₁⟩
  · rw [rescue_of_error _ hx] at h
    split at h
    · next he =>
      cases h
      exact hi e he
    · exact hh e' s₁ e s' h
  · rw [rescue_of_ok _ hx] at h
    cases h

/-- An explained attempt fails in its context or by an interruption. -/
theorem failsOnly_explained {c : Context} (hc : ∀ e, P (.within c e))
    (hi : ∀ e : Failure, e.isInterrupt = true → P e) (x : Attempt σ α) :
    (x.explained c).FailsOnly P :=
  FailsOnly.rescue (fun e => failsOnly_fail (hc e)) hi x

theorem FailsOnly.always {x : Attempt σ α} {last : Attempt σ Unit} (hx : x.FailsOnly P)
    (hl : last.FailsOnly P) : (x.always last).FailsOnly P := by
  intro s e s' h
  rcases hr : x s with ⟨r, s₁⟩
  rcases hlast : last s₁ with ⟨e' | _, s₂⟩
  · simp only [Attempt.always, hr, hlast, Prod.mk.injEq, Except.error.injEq] at h
    exact h.1 ▸ hl s₁ e' s₂ hlast
  · simp only [Attempt.always, hr, hlast, Prod.mk.injEq] at h
    exact hx s e s₁ (by rw [hr, h.1])

theorem FailsOnly.on {x : Attempt τ α} (hx : x.FailsOnly P) (view : σ → τ) (update : τ → σ → σ) :
    (x.on view update).FailsOnly P := by
  intro s e s' h
  rw [on_apply, Prod.mk.injEq] at h
  exact hx (view s) e _ (Prod.ext h.1 rfl)

end Attempt

end PluginHarness
