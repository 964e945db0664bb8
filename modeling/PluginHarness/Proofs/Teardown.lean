import PluginHarness.Proofs.Session

/-!
# Tidying up

Tidying up removes what is stored, and it has to get through whatever happens. So the stored paths
are forgotten before anything is removed, the second removal does not depend on the first, and what
failed is gathered and told at the end. Only an interruption stops it on the way.

One attempt is a `Session.Removal`: a path that is not empty is attempted once, what fails is kept,
and apart from a report nothing else is done. A whole tidying up is two of these, one after the
other, and its outcome is read off their failures. That an attempt is made is an event of the
history, with the strategy that it is made by; the configuration that counts is the one that the
session had when the tidying up began.

## Main definitions

* `Strategy.RemovesOrdinarily`, `Session.TidiesOrdinarily`: removing raises no interruption.
* `Session.Removal`: one attempt, with what failed in it.

## Main results

* `Session.teardown_course`: a tidying up is two attempts.
* `Session.tidies_up`: what is attempted, what is told, and what stays the same.
-/

namespace PluginHarness

open Attempt World

/-- The removal that was begun, with its strategy. -/
def Event.removal? : Event → Option (Strategy × Document)
  | .removing s path => some (s, path)
  | _ => none

theorem Event.isAbout_removal : IsAbout removal? .removal := by
  intro e h
  cases e <;> first | rfl | cases h

/-- Removing the path raises no interruption in the environment, whatever was done before. -/
def Strategy.RemovesOrdinarily (s : Strategy) (env : Environment) (path : Document) : Prop :=
  ∀ w, w.environment = env → ∀ e w', Location.remove s path w = (.error e, w') →
    e.isInterrupt = false

/-- That a removal is begun at a path that is not empty is seen, and nothing else about removals. -/
theorem Location.newly_remove {β : Type} {f : Event → Option β} (hf : Event.IsAbout f .removal)
    (strategy : Strategy) {path : Document} (h : path.truthy = true) (w : World) :
    newly f w (remove strategy path w).2 = (f (.removing strategy path)).toList := by
  let begun : World := { w with history := .removing strategy path :: w.history }
  have hrun : remove strategy path w = removeBy strategy path begun := remove_apply h strategy w
  have hby := removeBy_respects (T := [.location]) (by simp) strategy path begun
  rw [hrun, newly_append (List.suffix_cons _ _) hby.suffix, hby.newly_eq_nil hf (by simp),
    newly_of_history (show begun.history = [.removing strategy path] ++ w.history from rfl),
    List.append_nil]
  cases hseen : f (.removing strategy path) <;> simp [hseen]

/-- What a callback never ends in, a removal by it does not end in. -/
theorem Strategy.removesOrdinarily_callback {c : Callback} {env : Environment} {path : Document}
    (h : ∀ t e t', env.call c path t = (.error e, t') → e.isInterrupt = false) :
    (Strategy.callback c).RemovesOrdinarily env path := by
  rintro w rfl e w' hr
  by_cases ht : path.truthy = true
  · rcases hc : w.environment.call c path w.files with ⟨e' | d, t⟩ <;>
      simp [Location.remove, ht, Location.removeBy, Location.call, bind_apply, record_apply,
        World.onFiles, on_apply, hc] at hr
    exact hr.1 ▸ h _ _ _ hc
  · simp [Location.remove, ht] at hr

namespace Session

/-! ### One attempt -/

/-- Removing what is at a path, with what fails in it. Besides the attempt there are only
reports. -/
inductive Removal (strategy : Strategy) (path : Document) (w : World) : List Failure → World → Prop
  /-- An empty path is not attempted. -/
  | skipped (h : path.truthy = false) : Removal strategy path w [] w
  | removed {w₁ w' : World} (h : path.truthy = true)
      (hr : Location.remove strategy path w = (.ok (), w₁)) (hw : Confined [] w₁ w') :
      Removal strategy path w [] w'
  | failed {e : Failure} {w₁ w' : World} (h : path.truthy = true)
      (hr : Location.remove strategy path w = (.error e, w₁)) (hw : Confined [] w₁ w') :
      Removal strategy path w [e] w'

variable {strategy : Strategy} {path : Document} {w w' : World} {errors : List Failure}

theorem Removal.confined (h : Removal strategy path w errors w') :
    Confined [.location, .removal] w w' := by
  have hremove := Location.remove_respects (T := [.location, .removal]) (by simp) (by simp)
    strategy path w
  cases h with
  | skipped => exact refl_of _ w
  | removed _ hr hw =>
    rw [hr] at hremove
    exact trans_of _ hremove (hw.mono (by simp))
  | failed _ hr hw =>
    rw [hr] at hremove
    exact trans_of _ hremove (hw.mono (by simp))

/-- A path that is not empty is attempted once. -/
theorem Removal.newly {β : Type} {f : Event → Option β} (hf : Event.IsAbout f .removal)
    (h : Removal strategy path w errors w') :
    World.newly f w w' =
      if path.truthy then (f (.removing strategy path)).toList else [] := by
  have hremove := Location.remove_respects (T := [.location, .removal]) (by simp) (by simp)
    strategy path w
  -- what is reported after the attempt is not about removals
  have reported (ht : path.truthy = true) {r : Except Failure Unit} {w₁ : World}
      (hr : Location.remove strategy path w = (r, w₁)) (hw : Confined [] w₁ w') :
      World.newly f w w' = (f (.removing strategy path)).toList := by
    have hseen := Location.newly_remove hf strategy ht w
    rw [hr] at hremove hseen
    rw [newly_append hremove.suffix hw.suffix, hseen, hw.newly_eq_nil hf (by simp), List.append_nil]
  cases h with
  | skipped ht => rw [newly_self, ht, if_neg Bool.false_ne_true]
  | removed ht hr hw => rw [reported ht hr hw, if_pos ht]
  | failed ht hr hw => rw [reported ht hr hw, if_pos ht]

/-- Where removing ends well, the attempt leaves the files as removing does. -/
theorem Removal.of_ok {w₁ : World} (h : Removal strategy path w errors w')
    (hr : Location.remove strategy path w = (.ok (), w₁)) (ht : path.truthy = true) :
    errors = [] ∧ w'.files = w₁.files := by
  cases h with
  | skipped hf =>
    rw [ht] at hf
    cases hf
  | removed _ hr' hw =>
    cases hr'.symm.trans hr
    exact ⟨rfl, hw.files_eq (by simp)⟩
  | failed _ hr' _ => cases hr'.symm.trans hr

theorem reportPath_spec (level : Level) (path : Document) (text : String → String) (w : World) :
    ∃ w', reportPath level path text w = (.ok (), w') ∧ Confined [] w w' := by
  have hconf := reportPath_respects (T := []) level path text w
  refine ⟨(reportPath level path text w).2, ?_, hconf⟩
  unfold reportPath
  cases path.text? <;> rfl

/-- An attempt that is not interrupted gives what failed in it, so the next one can be made. -/
theorem removePlace_removal (p : Place)
    (h : ∀ e w', Location.remove strategy path w = (.error e, w') → e.isInterrupt = false) :
    ∃ errors w', removePlace p path strategy w = (.ok errors, w') ∧
      Removal strategy path w errors w' := by
  by_cases ht : path.truthy = true
  · unfold removePlace
    simp only [ht, Bool.not_true, Bool.false_eq_true, if_false]
    rcases hr : Location.remove strategy path w with ⟨e | _, w₁⟩
    · obtain ⟨w₂, hreport, hw₂⟩ := reportPath_spec .warning path (fun shown =>
        "Failed to remove " ++ p.name ++ " path " ++ shown ++ " using " ++ strategy.describe ++
          ": " ++ e.message) w₁
      refine ⟨[e], w₂, ?_, .failed ht hr hw₂⟩
      rw [rescue_of_error _ (bind_of_error hr), h e w₁ hr, if_neg Bool.false_ne_true,
        bind_of_ok hreport]
      rfl
    · obtain ⟨w₂, hreport, hw₂⟩ := reportPath_spec .debug path (fun shown =>
        "Removed " ++ p.name ++ " path " ++ shown) w₁
      refine ⟨[], w₂, ?_, .removed ht hr hw₂⟩
      exact rescue_of_ok _ (by rw [bind_of_ok hr, bind_of_ok hreport]; rfl)
  · refine ⟨[], w, ?_, .skipped (by simpa using ht)⟩
    simp only [removePlace, ht, Bool.not_false, if_true]
    rfl

/-! ### Both of them -/

/-- Neither removal of a tidying up is interrupted: not the first one, and not the second one after
any way that the first one can end. -/
def TidiesOrdinarily (s : Session × World) : Prop :=
  (∀ e w, Location.remove (s.1.config.strategy .removal .target) s.1.target s.2 = (.error e, w) →
    e.isInterrupt = false) ∧
  ∀ errors w, Removal (s.1.config.strategy .removal .target) s.1.target s.2 errors w →
    ∀ e w', Location.remove (s.1.config.strategy .removal .staging) s.1.staging w = (.error e, w') →
      e.isInterrupt = false

variable {s : Session × World}

theorem tidiesOrdinarily_of_strategies
    (h : ∀ p, (s.1.config.strategy .removal p).RemovesOrdinarily s.2.environment (s.1.path p)) :
    TidiesOrdinarily s :=
  ⟨h .target s.2 rfl, fun _ w hw => h .staging w hw.confined.environment_eq⟩

/-- The session without its places. -/
def tidied (s : Session) : Session := { s with target := noPath, staging := noPath }

/-- Tidying up forgets both paths, also when a removal fails or is interrupted. -/
theorem teardown_session (s : Session × World) : (teardown s).2.1 = s.1.tidied := rfl

/-- How a tidying up ends, by what failed in it. -/
def tidyOutcome (errors : List Failure) : Except Failure Unit :=
  if errors = [] then .ok () else .error (.cleanup errors)

/-- A tidying up is two attempts, and ends in what failed in them. -/
theorem teardown_course (h : TidiesOrdinarily s) :
    ∃ errors errors' w w',
      Removal (s.1.config.strategy .removal .target) s.1.target s.2 errors w ∧
      Removal (s.1.config.strategy .removal .staging) s.1.staging w errors' w' ∧
      teardown s = (tidyOutcome (errors ++ errors'), (s.1.tidied, w')) := by
  obtain ⟨errors, w, hrun, hremoval⟩ := removePlace_removal .target h.1
  obtain ⟨errors', w', hrun', hremoval'⟩ := removePlace_removal .staging (h.2 errors w hremoval)
  refine ⟨errors, errors', w, w', hremoval, hremoval', ?_⟩
  have hplaces : removePlaces s.1 s.2 = (tidyOutcome (errors ++ errors'), w') := by
    unfold removePlaces
    simp only [path]
    rw [bind_of_ok hrun, bind_of_ok hrun', tidyOutcome]
    rcases errors ++ errors' with _ | ⟨e, rest⟩ <;> rfl
  have hteardown : teardown s = onWorld (removePlaces s.1) (s.1.tidied, s.2) := rfl
  rw [hteardown, onWorld, on_apply, hplaces]

/-- What is attempted, with its strategy: each path that is not empty, the target before the
staging place. -/
def attempts (s : Session) : List (Strategy × Document) :=
  [(s.config.strategy .removal .target, s.target),
    (s.config.strategy .removal .staging, s.staging)].filter fun attempt => attempt.2.truthy

/-- Two attempts, one after the other, are those of the session. -/
theorem newly_of_removals {β : Type} {f : Event → Option β} (hf : Event.IsAbout f .removal)
    {errors errors' : List Failure} {w w' : World}
    (h : Removal (s.1.config.strategy .removal .target) s.1.target s.2 errors w)
    (h' : Removal (s.1.config.strategy .removal .staging) s.1.staging w errors' w') :
    newly f s.2 w' = s.1.attempts.filterMap fun attempt => f (.removing attempt.1 attempt.2) := by
  rw [newly_append h.confined.suffix h'.confined.suffix, h.newly hf, h'.newly hf, attempts,
    List.filter_cons, List.filter_cons, List.filter_nil]
  split_ifs <;> simp only [List.filterMap_cons, List.filterMap_nil, List.nil_append,
    List.append_nil] <;> grind [Option.toList]

/-- When nothing is stored, nothing is done. -/
theorem teardown_tidied (s : Session) (w : World) :
    teardown (s.tidied, w) = (.ok (), (s.tidied, w)) := rfl

/-- **Tidying up is complete.** Whatever comes of the removals, each stored path that is not empty
is attempted once, by the strategy that the session has for it when the tidying up begins, and the
second attempt follows the first one however that ended. Both paths are forgotten, and nothing else
of the session changes. The end is a failure if and only if an attempt failed, with what failed, in
this order. Nothing is dialed or closed, and tidying up again does nothing. -/
theorem tidies_up (h : TidiesOrdinarily s) :
    ∃ errors errors' w w',
      Removal (s.1.config.strategy .removal .target) s.1.target s.2 errors w ∧
      Removal (s.1.config.strategy .removal .staging) s.1.staging w errors' w' ∧
      teardown s = (tidyOutcome (errors ++ errors'), (s.1.tidied, w')) ∧
      newly Event.removal? s.2 w' = s.1.attempts ∧
      Confined [.location, .removal] s.2 w' ∧
      teardown (s.1.tidied, w') = (.ok (), (s.1.tidied, w')) := by
  obtain ⟨errors, errors', w, w', hremoval, hremoval', hrun⟩ := teardown_course h
  exact ⟨errors, errors', w, w', hremoval, hremoval', hrun,
    (newly_of_removals Event.isAbout_removal hremoval hremoval').trans List.filterMap_some,
    trans_of _ hremoval.confined hremoval'.confined, teardown_tidied s.1 w'⟩

/-- The failure of a callback about a path. -/
def complaint (path : Document) : Failure :=
  .fault (.foreign ⟨.ordinary, "RuntimeError", path.asText?.getD ""⟩)

/-- Every callback fails with its path as the message. -/
def complaining : Environment :=
  { Environment.stubborn with call := fun _ path => Attempt.fail (complaint path) }

/-- Both places are stored, and each is removed by a callback of its own. -/
def occupied : Session :=
  { fresh { Config.placeless with
      target := ⟨"", Config.defaultStep, ⟨"", none, some ⟨0, none, "drop"⟩⟩⟩
      staging := ⟨"", Config.defaultStep, ⟨"", none, some ⟨1, none, "drop"⟩⟩⟩ } .plain "" with
    target := .text "/target"
    staging := .text "/staging" }

theorem removal_complaining {c : Callback} (h : Removal (.callback c) path w errors w')
    (henv : w.environment = complaining) (ht : path.truthy = true) :
    errors = [complaint path] := by
  have hfails : (Location.remove (.callback c) path w).1 = .error (complaint path) := by
    simp [Location.remove, ht, Location.removeBy, Location.call, bind_apply, record_apply,
      World.onFiles, on_apply, henv, complaining]
  cases h with
  | skipped hf => rw [ht] at hf; cases hf
  | removed _ hr _ => rw [hr] at hfails; cases hfails
  | failed _ hr _ => rw [hr] at hfails; cases hfails; rfl

/-- Both removals fail, both are told in this order, and the two attempts are over. -/
theorem tidies_up_complaining :
    let s : Session × World := (occupied, initial complaining ⟨[], []⟩)
    TidiesOrdinarily s ∧
      ∃ w', teardown s = (.error (.cleanup [complaint (.text "/target"),
          complaint (.text "/staging")]), (occupied.tidied, w')) ∧
        newly Event.removal? s.2 w' = [(.callback ⟨0, none, "drop"⟩, .text "/target"),
          (.callback ⟨1, none, "drop"⟩, .text "/staging")] := by
  intro s
  have hord : TidiesOrdinarily s := by
    refine tidiesOrdinarily_of_strategies fun p => ?_
    cases p <;>
    · refine Strategy.removesOrdinarily_callback fun t e t' h => ?_
      cases h
      rfl
  obtain ⟨errors, errors', w, w', hremoval, hremoval', hrun, hseen, -⟩ := tidies_up hord
  obtain rfl := removal_complaining hremoval rfl rfl
  obtain rfl := removal_complaining hremoval' hremoval.confined.environment_eq rfl
  exact ⟨hord, w', hrun, hseen⟩

end Session

end PluginHarness
