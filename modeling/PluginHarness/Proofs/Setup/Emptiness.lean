import PluginHarness.Proofs.Location.Mechanism
import PluginHarness.Proofs.Setup.Success
import PluginHarness.Proofs.Teardown

/-!
# Places without a path

An empty path stands for a place that is not provisioned. The same empty path is stored when the
creation of a place gives nothing: a command that prints only blanks, or a callback that returns an
empty text. These are the only ways to it. The default creation gives the path itself, and a command
that fails gives no path at all.

A stored path that is not empty is not forgotten. A tidying up always attempts the removal of the
target, and that of the staging place unless the removal of the target is interrupted. So what was
created for a configured path is only left without an attempt when its creation gave nothing, or when
there is an interruption.

## Main definitions

* `Strategy.GivesNothing`: creating by the strategy comes to an empty path.
* `Session.before`: the world that a place is created in.
* `Session.TargetInterrupted`: the removal of the target is interrupted.

## Main results

* `Location.created_empty_iff`: when a created location has an empty path.
* `Session.newly_teardown`: what a tidying up attempts, also when it is interrupted.
* `Session.forgets_only_nothing`: both together, for the places of a session.
-/

namespace PluginHarness

open Attempt World

/-- Creating by the strategy comes to an empty path: the command completes with nothing but blanks,
or the callback gives an empty text. -/
def Strategy.GivesNothing (s : Strategy) (path : String) (w : World) : Prop :=
  match s with
  | .command line deadline => ∃ argv output, commandArguments w.files line path = .ok argv ∧
      ((w.environment.execute argv).ending deadline w.files).1 = .completed output ∧
      ∀ c ∈ output.toList, Text.isBlank c = true
  | .callback c => (w.environment.call c (.text path) w.files).1 = .ok (.text "")
  | .fileSystem => False

theorem Text.trim_eq_empty_iff {text : String} :
    trim text = "" ↔ ∀ c ∈ text.toList, isBlank c = true := by
  rw [trim, ← List.all_eq_true, ← trimChars_eq_nil_iff]
  constructor
  · intro h
    simpa using congrArg String.toList h
  · intro h
    rw [h]

namespace Location

variable {s : Strategy} {line path : String} {deadline : Deadline} {w w' : World}

/-- A command that gives an output was split, and its process completed with this output. -/
theorem completed_of_runCommand {action : Action} {output : String}
    (h : runCommand action line deadline path w = (.ok output, w')) :
    ∃ argv, commandArguments w.files line path = .ok argv ∧
      ((w.environment.execute argv).ending deadline w.files).1 = .completed output := by
  rcases hsplit : commandArguments w.files line path with f | argv
  · rw [runCommand, bind_of_ok (state_apply w), hsplit] at h
    cases h
  obtain ⟨entry, hrun⟩ := runCommand_of_split hsplit action deadline
  let begun : World := { w with history := .reported entry :: w.history }
  have hexecuted := execute_apply argv deadline begun
  rw [hrun] at h
  rcases hexecute : execute argv deadline begun with ⟨e | output', w₁⟩
  · rw [handle_of_error _ hexecute] at h
    cases hissue : issueOf? deadline e <;> rw [hissue] at h <;> cases h
  · rw [handle_of_ok _ hexecute] at h
    cases h
    have hresult := congrArg Prod.fst (hexecuted.symm.trans hexecute)
    exact ⟨argv, rfl, Execution.completed_of_result hresult⟩

/-- **A created location has an empty path** if and only if the given path is empty, or the strategy
gives nothing for it. -/
theorem created_empty_iff {d : Document} (h : create s path w = (.ok d, w')) :
    d = .text "" ↔ path = "" ∨ s.GivesNothing path w := by
  unfold create at h
  by_cases hne : path = ""
  · rw [if_pos hne] at h
    cases h
    simp [hne]
  rw [if_neg hne] at h
  simp only [hne, false_or]
  cases s with
  | command line deadline =>
    obtain ⟨output, w₁, hrun, h⟩ := ok_of_bind h
    cases h
    obtain ⟨argv, hsplit, hended⟩ := completed_of_runCommand hrun
    rw [Document.text.injEq, Text.trim_eq_empty_iff]
    constructor
    · exact fun hblank => ⟨argv, output, hsplit, hended, hblank⟩
    · rintro ⟨argv', output', hsplit', hended', hblank⟩
      cases hsplit.symm.trans hsplit'
      cases hended.symm.trans hended'
      exact hblank
  | callback c =>
    have hcall : (w.environment.call c (.text path) w.files).1 = .ok d := congrArg Prod.fst h
    rw [Strategy.GivesNothing, hcall, Except.ok.injEq]
  | fileSystem =>
    obtain ⟨_, w₁, -, h⟩ := ok_of_bind h
    cases h
    simpa [Strategy.GivesNothing] using hne

end Location

namespace Session

variable {s s' t : Session × World}

/-! ### Tidying up, also when it is interrupted -/

/-- The removal of the target is interrupted. -/
def TargetInterrupted (t : Session × World) : Prop :=
  ∃ e w, Location.remove (t.1.config.strategy .removal .target) t.1.target t.2 = (.error e, w) ∧
    e.isInterrupt = true

/-- Only what is attempted can fail. -/
theorem truthy_of_remove_error {path : Document} {strategy : Strategy} {w w' : World} {e : Failure}
    (h : Location.remove strategy path w = (.error e, w')) : path.truthy = true := by
  by_contra hfalse
  rw [Location.remove, if_pos (by simpa using hfalse)] at h
  cases h

/-- An interruption passes through the removal of a place. -/
theorem removePlace_of_interrupted (p : Place) {path : Document} {strategy : Strategy}
    {w w' : World} {e : Failure} (h : Location.remove strategy path w = (.error e, w'))
    (hinterrupt : e.isInterrupt = true) : removePlace p path strategy w = (.error e, w') := by
  unfold removePlace
  simp only [truthy_of_remove_error h, Bool.not_true, Bool.false_eq_true, if_false]
  rw [rescue_of_error _ (bind_of_error h), if_pos hinterrupt]

/-- Removing a place attempts the removal, also when it is interrupted. -/
theorem newly_removePlace (p : Place) (path : Document) (strategy : Strategy) (w : World) :
    newly Event.removal? w (removePlace p path strategy w).2 =
      if path.truthy then [(strategy, path)] else [] := by
  by_cases h : ∀ e w', Location.remove strategy path w = (.error e, w') → e.isInterrupt = false
  · obtain ⟨errors, w', hrun, hremoval⟩ := removePlace_removal p h
    rw [hrun, hremoval.newly Event.isAbout_removal]
    rfl
  · simp only [not_forall, Bool.not_eq_false] at h
    obtain ⟨e, w', hr, hinterrupt⟩ := h
    have htruthy := truthy_of_remove_error hr
    have hseen := Location.newly_remove Event.isAbout_removal strategy htruthy w
    rw [hr] at hseen
    rw [removePlace_of_interrupted p hr hinterrupt, if_pos htruthy, hseen]
    rfl

theorem removePlace_confined (p : Place) (path : Document) (strategy : Strategy) (w : World) :
    Confined [.location, .removal] w (removePlace p path strategy w).2 :=
  removePlace_respects (by simp) (by simp) p path strategy w

/-- When the removal of the target is not interrupted, a tidying up attempts both removals. -/
theorem newly_teardown (h : ¬ TargetInterrupted t) :
    newly Event.removal? t.2 (teardown t).2.2 = t.1.attempts := by
  let staging := removePlace .staging t.1.staging (t.1.config.strategy .removal .staging)
  obtain ⟨errors, w, hrun, -⟩ := removePlace_removal .target fun e w hr =>
    Bool.eq_false_iff.mpr fun hinterrupt => h ⟨e, w, hr, hinterrupt⟩
  have hended : (teardown t).2.2 = (staging w).2 := by
    show (removePlaces t.1 t.2).2 = _
    rw [removePlaces]
    refine (congrArg Prod.snd (bind_of_ok hrun)).trans ?_
    -- what is left is to tell what failed
    rcases hstaging : staging w with ⟨e | errors', w'⟩
    · exact congrArg Prod.snd (bind_of_error hstaging)
    · refine (congrArg Prod.snd (bind_of_ok hstaging)).trans ?_
      dsimp only
      split <;> rfl
  have htarget := newly_removePlace .target t.1.target (t.1.config.strategy .removal .target) t.2
  have hconf := removePlace_confined .target t.1.target (t.1.config.strategy .removal .target) t.2
  rw [hrun] at htarget hconf
  rw [hended, newly_append hconf.suffix (removePlace_confined _ _ _ w).suffix, htarget,
    newly_removePlace, attempts, List.filter_cons, List.filter_cons, List.filter_nil]
  split_ifs <;> rfl

/-- When the removal of the target is interrupted, a tidying up attempts nothing else. -/
theorem newly_teardown_of_interrupted (h : TargetInterrupted t) :
    newly Event.removal? t.2 (teardown t).2.2 =
      [(t.1.config.strategy .removal .target, t.1.target)] := by
  obtain ⟨e, w, hr, hinterrupt⟩ := h
  have hrun := removePlace_of_interrupted .target hr hinterrupt
  have hended : (teardown t).2.2 = w := by
    show (removePlaces t.1 t.2).2 = _
    rw [removePlaces]
    exact congrArg Prod.snd (bind_of_error hrun)
  have htarget := newly_removePlace .target t.1.target (t.1.config.strategy .removal .target) t.2
  rw [hrun, if_pos (truthy_of_remove_error hr)] at htarget
  rw [hended]
  exact htarget

/-- What is stored and not empty is attempted; for the staging place, unless the removal of the
target is interrupted. -/
theorem attempts_stored {p : Place} (h : (t.1.path p).truthy = true)
    (hp : p = .staging → ¬ TargetInterrupted t) :
    (t.1.config.strategy .removal p, t.1.path p) ∈ newly Event.removal? t.2 (teardown t).2.2 := by
  by_cases hinterrupted : TargetInterrupted t
  · cases p with
    | target =>
      rw [newly_teardown_of_interrupted hinterrupted]
      exact List.mem_singleton_self _
    | staging => exact absurd hinterrupted (hp rfl)
  · rw [newly_teardown hinterrupted, attempts]
    cases p <;> exact List.mem_filter.mpr ⟨by simp [path], h⟩

/-! ### The places of a session -/

/-- The world that a place is created in, as far as its environment and its files go, when creating
both places starts in the given one. -/
def before (s : Session) (w : World) : Place → World
  | .target => w
  | .staging => (s.creation .target w).2

/-- A place that was created has no path if and only if none is configured, or its creation gave
nothing. -/
theorem Created.eq_noPath_iff {s : Session} {w : World} (h : Created s w s') (p : Place) :
    s'.1.path p = noPath ↔ (s.config.place p).path = "" ∨
      (s.config.strategy .creation p).GivesNothing (s.config.place p).path (s.before w p) := by
  obtain ⟨w₁, w₂, ht, hg, -⟩ := h
  cases p with
  | target => exact Location.created_empty_iff ht
  | staging =>
    have hstaging := Location.created_empty_iff hg
    have hbefore : s.before w .staging = w₁ := congrArg Prod.snd ht
    rw [hbefore]
    exact hstaging

/-- **Only what is given as nothing is forgotten.**

* A created location has an empty path if and only if the given path is empty, or the strategy gives
  nothing for it: its command completes with nothing but blanks, or its callback returns an empty
  text.
* After a setup that ends well, the path of a place is empty if and only if the configured path is
  empty, or creating the place gave nothing.
* A tidying up that finds such a path stored, when it is not empty, attempts its removal; that of
  the staging place unless the removal of the target is interrupted. -/
theorem forgets_only_nothing :
    (∀ (s : Strategy) path w d w', Location.create s path w = (.ok d, w') →
      (d = .text "" ↔ path = "" ∨ s.GivesNothing path w)) ∧
    ∀ s s', setup s = (.ok (), s') →
      ∃ w, w.environment = s.2.environment ∧ w.files = s.2.files ∧ Created s.1 w s' ∧ ∀ p,
        let path := (s.1.config.place p).path
        (s'.1.path p = noPath ↔
          path = "" ∨ (s.1.config.strategy .creation p).GivesNothing path (s.1.before w p)) ∧
        ∀ created, created ≠ "" → s'.1.path p = .text created →
          ∀ t, t.1.path p = s'.1.path p → (p = .staging → ¬ TargetInterrupted t) →
            (t.1.config.strategy .removal p, .text created) ∈
              newly Event.removal? t.2 (teardown t).2.2 := by
  refine ⟨fun s path w d w' => Location.created_empty_iff, fun s s' h => ?_⟩
  obtain ⟨-, w, hconf, hcreated⟩ := created_of_setup h
  refine ⟨w, hconf.environment_eq, hconf.files_eq (by simp), hcreated, fun p =>
    ⟨hcreated.eq_noPath_iff p, fun created hne hpath t ht hp => ?_⟩⟩
  rw [hpath] at ht
  have hattempted := attempts_stored (by simpa [ht, Document.truthy] using hne) hp
  rwa [ht] at hattempted

/-- A session whose target is made by a program. -/
def making (env : Environment) : Session × World :=
  (fresh { Config.placeless with target := ⟨"p", ⟨"make", none, none⟩, Config.defaultStep⟩ } .plain
    "", initial env ⟨[], []⟩)

/-- A command gives a path with blanks around it, so it does not give nothing, and the removal of
what it made is attempted. -/
theorem forgets_only_nothing_made :
    ¬ (Strategy.command "make" none).GivesNothing "p" (making Location.workshop).2 ∧
      ∃ s', setup (making Location.workshop) = (.ok (), s') ∧ s'.1.target = .text "/made" ∧
        (.fileSystem, .text "/made") ∈ newly Event.removal? s'.2 (teardown s').2.2 := by
  have htrim : Text.trim " /made\n" = "/made" := by decide +kernel
  have hcreate : (Location.create (.command "make" none) "p" (making Location.workshop).2).1 =
      .ok (.text "/made") := by
    rw [← htrim]
    rfl
  have hok : (setup (making Location.workshop)).1 = .ok () := rfl
  have hpath : (setup (making Location.workshop)).2.1.target = .text "/made" := by
    rw [← htrim]
    rfl
  rcases hsetup : setup (making Location.workshop) with ⟨r, s'⟩
  rw [hsetup] at hok hpath
  obtain rfl : r = .ok () := hok
  obtain ⟨_, -, -, -, hplaces⟩ := forgets_only_nothing.2 _ s' hsetup
  have hattempted := (hplaces .target).2 "/made" (by decide) hpath s' rfl nofun
  rw [(created_of_setup hsetup).1] at hattempted
  refine ⟨fun h => ?_, s', rfl, hpath, hattempted⟩
  have hempty := (forgets_only_nothing.1 _ _ _ _ _ (Prod.ext hcreate rfl)).mpr (.inr h)
  exact absurd (Document.text.inj hempty) (by decide)

/-- Every program makes a directory and prints a blank line. Of the callbacks, the first gives an
empty text, the second gives the path back, and any other one is interrupted. -/
def silent : Environment :=
  { Environment.stubborn with
    execute := fun _ => .started (.int 0) do
      Attempt.change fun files => files.put ["p"] .directory
      return ⟨"\n", 0⟩
    call := fun c path => match c.number with
      | 0 => return .text ""
      | 1 => return path
      | _ => Attempt.fail (.fault (.foreign ⟨.interrupt, "KeyboardInterrupt", ""⟩)) }

/-- A session whose places are made by callbacks, and whose target is removed by one that is
interrupted. -/
def interrupted : Session × World :=
  let callback (n : Nat) : StepSettings := ⟨"", none, some ⟨n, none, "f"⟩⟩
  (fresh { Config.placeless with
      target := ⟨"p", callback 1, callback 2⟩
      staging := ⟨"q", callback 1, Config.defaultStep⟩ } .plain "", initial silent ⟨[], []⟩)

/-- What a silent command or callback made has an empty path, so it is left behind without a
complaint. Where removing the target is interrupted, the staging place is left behind. -/
theorem forgets_what_was_made :
    let s := (setup (making silent)).2
    let t := (setup interrupted).2
    (Location.create (.callback ⟨0, none, "f"⟩) "p" (initial silent ⟨[], []⟩)).1 =
        .ok (.text "") ∧
      setup (making silent) = (.ok (), s) ∧ s.1.target = noPath ∧
      newly Event.removal? s.2 (teardown s).2.2 = [] ∧
      (teardown s).2.2.files.isDirectory "p" = true ∧
      setup interrupted = (.ok (), t) ∧ t.1.staging = .text "q" ∧
      newly Event.removal? t.2 (teardown t).2.2 = [(.callback ⟨2, none, "f"⟩, .text "p")] := by
  refine ⟨rfl, ?_, ?_, ?_, ?_, ?_, ?_, ?_⟩
  · rfl
  · rfl
  · rfl
  · decide +kernel
  · rfl
  · rfl
  · exact newly_teardown_of_interrupted ⟨_, _, rfl, rfl⟩

end Session

end PluginHarness
