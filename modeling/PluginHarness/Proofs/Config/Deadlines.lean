import PluginHarness.Proofs.Config
import PluginHarness.Proofs.Location.Mechanism

/-!
# Time limits

A configuration is only made when no time limit compares below zero. That is less than being a
number from zero on: not-a-number compares with nothing, so it is not below zero either, and it
can be written in a file, given as a value, and read from a text. Every other limit is at least
zero.

A command gets the time limit of its action on its place. When it runs for as long as the limit or
longer, it fails as one that timed out. With a limit that is not-a-number no command does, however
long it runs.

## Main definitions

* `Config.Supplied`: the configuration is made from a file and overrides, or from texts.
* `Location.RunsFor`: the command starts a process that runs this long.
* `Location.outcome`: what an action on a path ends in.

## Main results

* `Number.zero_le_iff`: what is not below zero is at least zero, unless it is not-a-number.
* `Location.runCommand_late`: a command that runs until its deadline fails as timed out.
* `Config.deadlines_expire`: the time limits of a configuration that was made.
-/

namespace PluginHarness

open Attempt World

namespace Number

/-- Not-a-number is not at most anything. -/
theorem le_of_isNaN {a : Number} (h : a.isNaN = true) (b : Number) : a.le b = false := by
  rw [le, (rank?_eq_none_iff a).mpr h]

/-- Nothing is at most not-a-number. -/
theorem le_isNaN (a : Number) {b : Number} (h : b.isNaN = true) : a.le b = false := by
  rw [le, (rank?_eq_none_iff b).mpr h]
  cases a.rank? <;> rfl

theorem zero_le_iff {n : Number} (h : n.lt (.int 0) = false) :
    (int 0).le n = true ↔ n.isNaN = false := by
  cases hn : n.isNaN with
  | false => exact ⟨fun _ => rfl, fun _ => le_of_not_lt hn rfl h⟩
  | true => simp [le_isNaN _ hn]

end Number

/-! ### Commands that are late -/

namespace Location

variable {w : World} {line path : String} {deadline : Deadline} {seconds : Number}

/-- For the path the command starts a process that runs this long. -/
def RunsFor (seconds : Number) (line path : String) (w : World) : Prop :=
  ∃ argv work, commandArguments w.files line path = .ok argv ∧
    w.environment.execute argv = .started seconds work

/-- What an action on a path ends in. -/
def outcome (s : Strategy) (path : String) (w : World) : Action → Except Failure Unit
  | .creation => (create s path w).1.map fun _ => ()
  | .removal => (remove s (.text path) w).1

theorem runCommand_late (hrun : RunsFor seconds line path w)
    (hlate : (deadline.any fun d => d.le seconds) = true) (action : Action) :
    ∃ e w', runCommand action line deadline path w = (.error e, w') ∧
      e.ofCommand? = some ⟨true, path, describeCommand line⟩ := by
  obtain ⟨argv, work, hsplit, hexecute⟩ := hrun
  obtain ⟨entry, hstart⟩ := runCommand_of_split hsplit action deadline
  let begun : World := { w with history := .reported entry :: w.history }
  have hexpired := execute_apply argv deadline begun
  rw [show begun.environment = w.environment from rfl, hexecute,
    Execution.result_of_late hlate] at hexpired
  have hraises : Raises deadline (.error (.fault (.deadlineExpired argv deadline))) .late :=
    ⟨_, rfl, rfl⟩
  obtain ⟨_, hended, e, rfl, hcommand⟩ := decides_of_raises action line path hexpired hraises
  exact ⟨e, _, hstart.trans hended, hcommand⟩

/-- **A command that runs until its deadline** fails as one that timed out, whatever it was run
for. -/
theorem outcome_late (hne : path ≠ "") (hrun : RunsFor seconds line path w)
    (hlate : (deadline.any fun d => d.le seconds) = true) (a : Action) :
    FailsAs true line path (outcome (.command line deadline) path w a) := by
  cases a with
  | creation =>
    obtain ⟨e, w', he, hcommand⟩ := runCommand_late hrun hlate .creation
    have hcreate : create (.command line deadline) path w = (.error e, w') := by
      rw [create, if_neg hne]
      exact bind_of_error he
    exact ⟨e, by rw [outcome, hcreate]; rfl, hcommand⟩
  | removal =>
    let begun : World :=
      { w with history := .removing (.command line deadline) (.text path) :: w.history }
    obtain ⟨e, w', he, hcommand⟩ := runCommand_late (w := begun) hrun hlate .removal
    have htruthy : (Document.text path).truthy = true := by simpa [Document.truthy] using hne
    have hremove : remove (.command line deadline) (.text path) w = (.error e, w') :=
      (remove_apply htruthy _ w).trans (bind_of_error he)
    exact ⟨e, by rw [outcome, hremove], hcommand⟩

end Location

/-! ### Configurations that were made -/

namespace Config

/-- The configuration was made from a file and overrides, or from textual settings. -/
inductive Supplied (c : Config) : Prop
  | build {named : Option Document} {overrides : List (Document × Document)}
      {hooks : List (String × FieldValue)} {w w' : World}
      (h : Config.build named overrides hooks w = (.ok c, w')) : Supplied c
  | ofUserdata {userdata : List (String × Document)} {w w' : World}
      (h : Config.ofUserdata userdata w = (.ok c, w')) : Supplied c

theorem withinBounds_of_build {named : Option Document} {overrides : List (Document × Document)}
    {hooks : List (String × FieldValue)} {w w' : World} {c : Config}
    (h : build named overrides hooks w = (.ok c, w')) : c.WithinBounds := by
  obtain ⟨file, w₁, -, hbuilt, -⟩ := built_of_build h
  obtain ⟨made, hmade, draft, hhooks, new, -, rfl⟩ := built_eq_ok_iff.mp hbuilt
  obtain ⟨-, hb, -⟩ := ofValues_eq_ok_iff.mp hmade
  have hdraft : draft.WithinBounds :=
    withHooks_keeps (fun c a p callback hc => hc.setCallback a p callback) hhooks hb
  exact hdraft.withParameters new

theorem Supplied.withinBounds {c : Config} (h : c.Supplied) : c.WithinBounds := by
  cases h with
  | build h => exact withinBounds_of_build h
  | ofUserdata h =>
    obtain ⟨overrides, w₁, -, h⟩ := ok_of_bind h
    exact withinBounds_of_build h

/-- **Time limits expire.** In a configuration that was made, from any file, overrides and callbacks
or from any textual settings, each of the four time limits is a number of seconds. It is at least
zero if and only if it is not not-a-number; not-a-number is reached by no time. A command that the
configuration gives for an action on a place has the limit of that action. When it runs for a path
for as long as the limit or longer, the action fails as one that timed out. -/
theorem deadlines_expire {c : Config} (h : c.Supplied) (a : Action) (p : Place) :
    ∃ t, ((c.place p).step a).deadline = some t ∧
      ((Number.int 0).le t = true ↔ t.isNaN = false) ∧
      (t.isNaN = true → ∀ seconds, t.le seconds = false) ∧
      ∀ line deadline, c.strategy a p = .command line deadline → deadline = some t ∧
        ∀ seconds path w, path ≠ "" → Location.RunsFor seconds line path w →
          t.le seconds = true →
          Location.FailsAs true line path (Location.outcome (c.strategy a p) path w a) := by
  obtain ⟨t, ht, hnot⟩ := h.withinBounds.deadlines a p
  refine ⟨t, ht, Number.zero_le_iff hnot, Number.le_of_isNaN, fun line deadline hs => ?_⟩
  obtain rfl : deadline = some t := by
    unfold strategy Strategy.resolve at hs
    dsimp only at hs
    split at hs
    · split at hs <;> cases hs
    · cases hs
      exact ht
  refine ⟨rfl, fun seconds path w hne hrun hle => ?_⟩
  have hlate : (Option.any (fun d => d.le seconds) (some t)) = true := hle
  rw [hs]
  exact Location.outcome_late hne hrun hlate a

/-- A command that takes a minute is stopped after ten seconds. -/
theorem deadlines_expire_minute :
    let w := initial Location.workshop ⟨[], []⟩
    let overrides : List (Document × Document) :=
      [(.text "address", .text "node"), (.text "remove_staging_path_cmd", .text "wait"),
        (.text "remove_staging_path_cmd_timeout", .int 10)]
    ∃ c w', build none overrides [] w = (.ok c, w') ∧ c.Supplied ∧
      ((c.place .staging).step .removal).deadline = some (.int 10) ∧
      (Number.int 0).le (.int 10) = true ∧
      Location.FailsAs true "wait" "x"
        (Location.outcome (c.strategy .removal .staging) "x" w .removal) := by
  intro w overrides
  have hstrategy : ((build none overrides [] w).1.toOption.map fun c =>
      c.strategy .removal .staging) = some (.command "wait" (some (.int 10))) := by decide +kernel
  obtain ⟨c, w', hbuild, hstrategy⟩ := ok_of_toOption hstrategy
  have hc : c.Supplied := .build hbuild
  obtain ⟨t, ht, hzero, -, hcommand⟩ := deadlines_expire hc .removal .staging
  obtain ⟨hdeadline, hlate⟩ := hcommand _ _ hstrategy
  cases hdeadline
  have hruns : Location.RunsFor (.int 60) "wait" "x" w := ⟨["wait", "x"], _, rfl, rfl⟩
  exact ⟨c, w', hbuild, hc, ht, hzero.mpr rfl,
    hlate (.int 60) "x" w (by decide) hruns (by decide +kernel)⟩

/-- A time limit that is not-a-number passes: it is not below zero, but zero is not at most it. -/
theorem deadline_may_be_nan :
    let w := initial .stubborn ⟨[], []⟩
    let userdata : List (String × Document) :=
      [("address", .text "A"), ("create_target_path_cmd_timeout", .text "nan")]
    ∃ c w', ofUserdata userdata w = (.ok c, w') ∧
      ((c.place .target).step .creation).deadline = some (.float .nan) ∧
      (Number.int 0).le (.float .nan) = false := by
  intro w userdata
  have hdeadline : ((ofUserdata userdata w).1.toOption.map fun c =>
      ((c.place .target).step .creation).deadline) = some (some (.float .nan)) := by decide +kernel
  obtain ⟨c, w', hmade, hdeadline⟩ := ok_of_toOption hdeadline
  exact ⟨c, w', hmade, hdeadline, Number.le_isNaN _ rfl⟩

end Config

end PluginHarness
