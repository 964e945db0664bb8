import PluginHarness.Proofs.Frame

/-!
# Runs that differ in their reports only

Two functions that do the same are rarely equal, because each reports in its own words. Worlds are
alike when they differ in what was reported and in nothing else, and attempts run alike when from
related states they come to the same outcome and to related states again. Like the relation of the
states before and after a run, this passes through every way of combining attempts. So that two
runs are alike is settled by the attempts that they are made of.

How the outside answers may depend on how often it was asked before, and how often it was asked is
read from the history. Reports are not counted there, and so alike worlds get the same answers.

## Main definitions

* `Attempt.RunsAlike`: the same outcome, and related states afterwards.
* `Event.deed?`: the event, if it does something to the outside; a report does not.
* `World.deeds`, `World.Alike`: what was done, and worlds that differ in their reports only.

## Main results

* `Attempt.RunsAlike.bind`, `map`, `rescue`, `runsAlike_state`: the combinators.
* `Dialer.dial_alike`, `Connection.closeQuietly_alike`: connections in alike worlds.
* `World.Alike.newly_eq`: what is done in alike stretches of two runs.
-/

namespace PluginHarness

namespace Attempt

variable {σ τ α β : Type} {R : σ → τ → Prop}

/-- From related states the attempts come to the same outcome and to related states. -/
def RunsAlike (R : σ → τ → Prop) (x : Attempt σ α) (y : Attempt τ α) : Prop :=
  ∀ s t, R s t → (x s).1 = (y t).1 ∧ R (x s).2 (y t).2

theorem runsAlike_pure (a : α) : RunsAlike R (pure a) (pure a) := fun _ _ h => ⟨rfl, h⟩

theorem runsAlike_fail (e : Failure) : RunsAlike R (fail (α := α) e) (fail e) :=
  fun _ _ h => ⟨rfl, h⟩

theorem runsAlike_change {f : σ → σ} {g : τ → τ} (h : ∀ s t, R s t → R (f s) (g t)) :
    RunsAlike R (change f) (change g) :=
  fun s t hst => ⟨rfl, h s t hst⟩

/-- What is done in the light of the state. -/
theorem runsAlike_state {f : σ → Attempt σ α} {g : τ → Attempt τ α}
    (h : ∀ s t, R s t → RunsAlike R (f s) (g t)) : RunsAlike R (state >>= f) (state >>= g) :=
  fun s t hst => h s t hst s t hst

theorem RunsAlike.bind {x : Attempt σ α} {y : Attempt τ α} {f : α → Attempt σ β}
    {g : α → Attempt τ β} (hxy : RunsAlike R x y) (hfg : ∀ a, RunsAlike R (f a) (g a)) :
    RunsAlike R (x >>= f) (y >>= g) := by
  intro s t hst
  obtain ⟨hout, hstate⟩ := hxy s t hst
  rcases hx : x s with ⟨e | a, s'⟩ <;> rcases hy : y t with ⟨e' | b, t'⟩ <;>
    rw [hx, hy] at hout hstate <;> cases hout
  · rw [bind_of_error hx, bind_of_error hy]
    exact ⟨rfl, hstate⟩
  · rw [bind_of_ok hx, bind_of_ok hy]
    exact hfg a s' t' hstate

theorem RunsAlike.map {x : Attempt σ α} {y : Attempt τ α} (hxy : RunsAlike R x y) (f : α → β) :
    RunsAlike R (f <$> x) (f <$> y) :=
  hxy.bind fun a => runsAlike_pure (f a)

theorem RunsAlike.rescue {x : Attempt σ α} {y : Attempt τ α} {f : Failure → Attempt σ α}
    {g : Failure → Attempt τ α} (hxy : RunsAlike R x y) (hfg : ∀ e, RunsAlike R (f e) (g e)) :
    RunsAlike R (x.rescue f) (y.rescue g) := by
  intro s t hst
  obtain ⟨hout, hstate⟩ := hxy s t hst
  rcases hx : x s with ⟨e | a, s'⟩ <;> rcases hy : y t with ⟨e' | b, t'⟩ <;>
    rw [hx, hy] at hout hstate <;> cases hout
  · rw [rescue_of_error f hx, rescue_of_error g hy]
    split
    · exact ⟨rfl, hstate⟩
    · exact hfg e s' t' hstate
  · rw [rescue_of_ok f hx, rescue_of_ok g hy]
    exact ⟨rfl, hstate⟩

end Attempt

open Attempt

/-- The event, if it does something to the outside. -/
def Event.deed? (e : Event) : Option Event := if e.topic?.isSome then some e else none

theorem Event.deed?_eq_none {e : Event} (h : e.topic? = none) : e.deed? = none :=
  if_neg (h ▸ Bool.false_ne_true)

namespace World

variable {w w' v v' : World}

/-- What was done, the newest first. -/
def deeds (w : World) : List Event := w.history.filterMap Event.deed?

theorem deeds_record (e : Event) (w : World) :
    World.deeds { w with history := e :: w.history } = e.deed?.toList ++ w.deeds := by
  rw [deeds, List.filterMap_cons]
  cases e.deed? <;> rfl

/-- What was done between two worlds comes on top. -/
theorem deeds_of_suffix (h : w.history <:+ w'.history) :
    w'.deeds = (newly Event.deed? w w').reverse ++ w.deeds := by
  obtain ⟨new, hist⟩ := h
  rw [newly_of_history hist.symm, deeds, ← hist, List.filterMap_append, List.filterMap_reverse,
    List.reverse_reverse, deeds]

/-- Dials are deeds, so they are counted there. -/
theorem dials_eq (w : World) : w.dials = w.deeds.countP fun e => match e with
    | .dialed _ | .channelOpened _ => true
    | _ => false := by
  rw [deeds, List.countP_filterMap, dials]
  refine List.countP_congr fun e _ => ?_
  cases e <;> simp [Event.deed?, Event.topic?]

/-- The worlds differ in what was reported and in nothing else. -/
structure Alike (w w' : World) : Prop where
  environment_eq : w.environment = w'.environment
  files_eq : w.files = w'.files
  opened_eq : w.opened = w'.opened
  deeds_eq : w.deeds = w'.deeds

instance : IsPreorder World Alike where
  refl _ := ⟨rfl, rfl, rfl, rfl⟩
  trans _ _ _ h h' := ⟨h.environment_eq.trans h'.environment_eq, h.files_eq.trans h'.files_eq,
    h.opened_eq.trans h'.opened_eq, h.deeds_eq.trans h'.deeds_eq⟩

theorem Alike.dials_eq (h : Alike w w') : w.dials = w'.dials := by
  rw [World.dials_eq, World.dials_eq, h.deeds_eq]

/-- What only reports leaves the world alike. -/
theorem Confined.alike (h : Confined [] w w') : Alike w w' := by
  refine ⟨h.environment_eq.symm, (h.files_eq List.not_mem_nil).symm,
    (h.opened_eq List.not_mem_nil).symm, ?_⟩
  obtain ⟨new, hist, about⟩ := h.history
  have hnone : new.filterMap Event.deed? = [] := by
    rw [List.filterMap_eq_nil_iff]
    intro e he
    cases ht : e.topic? with
    | none => exact Event.deed?_eq_none ht
    | some t => exact absurd (about e he t ht) List.not_mem_nil
  rw [deeds, deeds, hist, List.filterMap_append, hnone, List.nil_append]

/-- **What is done in alike stretches of two runs.** -/
theorem Alike.newly_eq (h : Alike w w') (hv : Alike v v') (hs : w.history <:+ v.history)
    (hs' : w'.history <:+ v'.history) : newly Event.deed? w v = newly Event.deed? w' v' := by
  have heq := hv.deeds_eq
  rw [deeds_of_suffix hs, deeds_of_suffix hs', h.deeds_eq] at heq
  exact List.reverse_injective (List.append_cancel_right heq)

/-! ### What runs alike in alike worlds -/

theorem record_alike (e : Event) : RunsAlike Alike (record e) (record e) :=
  runsAlike_change fun _ _ h => ⟨h.environment_eq, h.files_eq, h.opened_eq, by
    rw [deeds_record, deeds_record, h.deeds_eq]⟩

/-- Reports are alike, whatever they say. -/
theorem report_alike (source source' : String) (level level' : Level) (text text' : String) :
    RunsAlike Alike (report source level text) (report source' level' text') :=
  fun _ _ h => ⟨rfl, ⟨h.environment_eq, h.files_eq, h.opened_eq, h.deeds_eq⟩⟩

theorem openConnection_alike : RunsAlike Alike openConnection openConnection := fun _ _ h =>
  ⟨by simp only [openConnection, h.opened_eq],
    ⟨h.environment_eq, h.files_eq, congrArg (· + 1) h.opened_eq, h.deeds_eq⟩⟩

end World

open World

namespace Connection

theorem close_alike (c : Connection) : RunsAlike Alike (close c) (close c) := by
  refine (record_alike _).bind fun _ => runsAlike_state fun w w' h => ?_
  rw [h.environment_eq]
  cases w'.environment.closeFailure c with
  | none => exact runsAlike_pure ()
  | some e => exact runsAlike_fail e

/-- How a connection is described matters to the reports only. -/
theorem closeQuietly_alike (c : Connection) (description description' : String) :
    RunsAlike Alike (closeQuietly c description) (closeQuietly c description') :=
  (close_alike c).rescue fun _ => report_alike _ _ _ _ _ _

theorem connect_alike (address : String) (deadline : Deadline) :
    RunsAlike Alike (connect address deadline) (connect address deadline) := by
  unfold connect
  split
  · exact runsAlike_fail _
  · refine (report_alike _ _ _ _ _ _).bind fun _ => runsAlike_state fun w w' h => ?_
    rw [h.environment_eq, h.dials_eq]
    refine (record_alike _).bind fun _ => openConnection_alike.bind fun c =>
      (record_alike _).bind fun _ => ?_
    split
    · exact runsAlike_pure c
    · exact (close_alike c).bind fun _ => runsAlike_fail _

end Connection

theorem Dialer.dial_alike (d : Dialer) (address : String) :
    RunsAlike Alike (d.dial address) (d.dial address) := by
  refine (record_alike _).bind fun _ => ?_
  cases d with
  | channel => exact (Connection.connect_alike address _).map some
  | plain =>
    refine runsAlike_state fun w w' h => (record_alike _).bind fun _ => ?_
    rw [h.environment_eq, h.dials_eq]
    cases w'.environment.dial w'.dials address with
    | connected => exact openConnection_alike.map some
    | absent => exact runsAlike_pure none
    | failed e => exact runsAlike_fail e

end PluginHarness
