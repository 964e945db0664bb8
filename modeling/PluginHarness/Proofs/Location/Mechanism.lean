import PluginHarness.Proofs.Frame

/-!
# The mechanism that acts on a location

A location is created or removed by a command, by a callback, or in the file system, and by exactly
one of them: which one is settled by the command line and the callback before anything is done, and
whatever becomes of it, no other one is tried. What each of the three may do is a contract between
an attempt and the world that it starts in. The contract names what acted from outside, what is left
of the files, and the outcome.

A command has a contract for each of its ends. It may be impossible to split, and then there is no
process. Else there is one process, and what it ends in decides the outcome: an output is the reply,
and anything else is a failure that carries the path and the description of the command. That it
timed out is said when the deadline expired and never otherwise.

## Main definitions

* `Event.act?`: what acted on a location from outside.
* `Execution.ending`, `Execution.result`: how a process ends, with what, and what it leaves of the
  files.
* `Location.ByCommand`, `ByCallback`, `ByFileSystem`: what the three mechanisms do.

## Main results

* `Location.one_mechanism_acts`: creating and removing keep the contract of one mechanism.
-/

namespace PluginHarness

open Attempt World

/-- What acts on a location from outside: a process with its time limit, or a callback. -/
inductive Act where
  | ran (argv : List String) (deadline : Deadline)
  | called (c : Callback) (path : Document)

/-- What acted from outside. -/
def Event.act? : Event → Option Act
  | .ran argv deadline => some (.ran argv deadline)
  | .called c path => some (.called c path)
  | _ => none

/-- What a failure of a command carries. -/
structure CommandFailure where
  timedOut : Bool
  path : String
  strategy : String

/-- The failure, if it is one of a command. -/
def Failure.ofCommand? : Failure → Option CommandFailure
  | .within (.command (.late _) _ line path) _ => some ⟨true, path, describeCommand line⟩
  | .within (.command _ _ line path) _ => some ⟨false, path, describeCommand line⟩
  | _ => none

/-- How a process ends. -/
inductive Ending where
  | completed (output : String)
  /-- It was still running at its deadline. -/
  | late
  /-- It could not be started or reported failure. -/
  | failed

/-- How a process ends, and what it leaves of the files. -/
def Execution.ending (deadline : Deadline) (files : FileTree) : Execution → Ending × FileTree
  | .refused _ => (.failed, files)
  | .started seconds work =>
    if deadline.any fun d => d.le seconds then (.late, files)
    else match work files with
      | (.ok done, t) => (if done.code = 0 then .completed done.output else .failed, t)
      | (.error _, t) => (.failed, t)

theorem Execution.ending_of_late {deadline : Deadline} {seconds : Number}
    (h : (deadline.any fun d => d.le seconds) = true) {files : FileTree}
    {work : Attempt FileTree Completion} :
    (Execution.started seconds work).ending deadline files = (.late, files) := if_pos h

/-- What a process gives, and what it leaves of the files. -/
def Execution.result (argv : List String) (deadline : Deadline) (files : FileTree) :
    Execution → Except Failure String × FileTree
  | .refused e => (.error e, files)
  | .started seconds work =>
    if deadline.any fun d => d.le seconds then
      (.error (.fault (.deadlineExpired argv deadline)), files)
    else match work files with
      | (.ok done, t) =>
        (if done.code = 0 then .ok done.output else .error (.fault (.exited argv done.code)), t)
      | (.error e, t) => (.error e, t)

theorem Execution.result_of_late {argv : List String} {deadline : Deadline} {seconds : Number}
    (h : (deadline.any fun d => d.le seconds) = true) {files : FileTree}
    {work : Attempt FileTree Completion} : (Execution.started seconds work).result argv deadline
      files = (.error (.fault (.deadlineExpired argv deadline)), files) := if_pos h

theorem Execution.files_result (x : Execution) (argv : List String) (deadline : Deadline)
    (files : FileTree) : (x.result argv deadline files).2 = (x.ending deadline files).2 := by
  cases x with
  | refused e => rfl
  | started seconds work =>
    dsimp only [result, ending]
    split
    · rfl
    · rcases work files with ⟨e | done, t⟩ <;> rfl

/-- A process that gives an output was started, was not late and reported success. -/
theorem Execution.completed_of_result {x : Execution} {argv : List String} {deadline : Deadline}
    {files : FileTree} {output : String} (h : (x.result argv deadline files).1 = .ok output) :
    (x.ending deadline files).1 = .completed output := by
  cases x with
  | refused e => cases h
  | started seconds work =>
    dsimp only [result, ending] at h ⊢
    by_cases hlate : (deadline.any fun d => d.le seconds) = true
    · rw [if_pos hlate] at h
      cases h
    · rw [if_neg hlate] at h ⊢
      rcases hwork : work files with ⟨e | done, t⟩ <;> rw [hwork] at h
      · cases h
      · dsimp only at h ⊢
        by_cases hcode : done.code = 0
        · rw [if_pos hcode] at h ⊢
          cases h
          rfl
        · rw [if_neg hcode] at h
          cases h

/-- What goes wrong with a process is an error of the operating system, but for its deadline and its
exit status. -/
structure Environment.RunsOrdinarily (env : Environment) : Prop where
  refused : ∀ argv e, env.execute argv = .refused e → e.isSystem = true
  started : ∀ argv seconds work, env.execute argv = .started seconds work →
    ∀ t e t', work t = (.error e, t') → e.isSystem = true

namespace Location

variable {α β : Type} {w w' : World} {path line : String} {deadline : Deadline}

/-! ### The contracts -/

/-- It fails as the command for the path. -/
def FailsAs (timedOut : Bool) (line path : String) (r : Except Failure α) : Prop :=
  ∃ e, r = .error e ∧ e.ofCommand? = some ⟨timedOut, path, describeCommand line⟩

/-- How the end of a process decides the outcome. -/
def Decides (line path : String) (reply : String → α) : Ending → Except Failure α → Prop
  | .completed output, r => r = .ok (reply output)
  | .late, r => FailsAs true line path r
  | .failed, r => FailsAs false line path r

/-- What acts from outside, what is left of the files, and what the outcome is. -/
structure Does (acts : List Act) (files : FileTree) (outcome : Except Failure α → Prop)
    (x : Attempt World α) (w : World) : Prop where
  acts_eq : newly Event.act? w (x w).2 = acts
  files_eq : (x w).2.files = files
  ends : outcome (x w).1

/-- A command acts for a path and replies to its output. One that cannot be split starts nothing,
and any other one is run once. -/
def ByCommand (line : String) (deadline : Deadline) (path : String) (reply : String → α)
    (x : Attempt World α) (w : World) : Prop :=
  match commandArguments w.files line path with
  | .error _ => Does [] w.files (FailsAs false line path) x w
  | .ok argv =>
    let (ending, files) := (w.environment.execute argv).ending deadline w.files
    Does [.ran argv deadline] files (Decides line path reply ending) x w

/-- A callback acts: it is called once with the path, and whatever it ends in passes through. -/
def ByCallback (c : Callback) (path : String) (reply : Document → α) (x : Attempt World α)
    (w : World) : Prop :=
  let (r, files) := w.environment.call c (.text path) w.files
  Does [.called c (.text path)] files (· = r.map reply) x w

/-- Nothing acts from outside, and what is done is done by one operation on the files. -/
def ByFileSystem (y : Attempt World β) (reply : β → α) (x : Attempt World α) (w : World) : Prop :=
  Does [] (y w).2.files (· = (y w).1.map reply) x w

theorem Does.map {acts : List Act} {files : FileTree} {P : Except Failure α → Prop}
    {Q : Except Failure β → Prop} {x : Attempt World α} (h : Does acts files P x w) (f : α → β)
    (hPQ : ∀ r, P r → Q (r.map f)) : Does acts files Q (f <$> x) w := by
  have hrun : (f <$> x) w = ((x w).1.map f, (x w).2) := by
    rcases hx : x w with ⟨e | a, w'⟩
    · exact map_of_error f hx
    · exact map_of_ok f hx
  constructor <;> rw [hrun]
  · exact h.acts_eq
  · exact h.files_eq
  · exact hPQ _ h.ends

/-- That a removal begins is no act. -/
theorem Does.removed {acts : List Act} {files : FileTree} {P : Except Failure Unit → Prop}
    {s : Strategy} (hne : path ≠ "") (h : Does acts files P (removeBy s (.text path))
      { w with history := .removing s (.text path) :: w.history }) :
    Does acts files P (remove s (.text path)) w := by
  have hby := removeBy_respects (T := [.location]) (by simp) s (.text path)
    { w with history := .removing s (.text path) :: w.history }
  constructor <;> rw [remove_apply (by simpa [Document.truthy] using hne)]
  · have hbegun : newly Event.act? w
        { w with history := .removing s (.text path) :: w.history } = [] :=
      newly_of_history (show _ = [Event.removing s (.text path)] ++ w.history from rfl)
    rw [newly_append (List.suffix_cons _ _) hby.suffix, hbegun, h.acts_eq]
    rfl
  · exact h.files_eq
  · exact h.ends

/-! ### Commands -/

theorem FailsAs.map {timedOut : Bool} {r : Except Failure α} (h : FailsAs timedOut line path r)
    (f : α → β) : FailsAs timedOut line path (r.map f) := by
  obtain ⟨e, rfl, he⟩ := h
  exact ⟨e, rfl, he⟩

theorem Decides.map {reply : String → α} {r : Except Failure α} {ending : Ending}
    (h : Decides line path reply ending r) (f : α → β) :
    Decides line path (fun output => f (reply output)) ending (r.map f) := by
  cases ending with
  | completed output =>
    obtain rfl : r = _ := h
    rfl
  | late => exact FailsAs.map h f
  | failed => exact FailsAs.map h f

theorem ByCommand.map {reply : String → α} {x : Attempt World α}
    (h : ByCommand line deadline path reply x w) (f : α → β) :
    ByCommand line deadline path (fun output => f (reply output)) (f <$> x) w := by
  unfold ByCommand at h ⊢
  split at h
  · exact h.map f fun r hr => hr.map f
  · exact h.map f fun r hr => hr.map f

theorem ByCommand.removed {s : Strategy} {reply : String → Unit} (hne : path ≠ "")
    (h : ByCommand line deadline path reply (removeBy s (.text path))
      { w with history := .removing s (.text path) :: w.history }) :
    ByCommand line deadline path reply (remove s (.text path)) w := by
  unfold ByCommand at h ⊢
  dsimp only at h
  split at h
  · exact h.removed hne
  · exact h.removed hne

theorem issueOf?_of_isSystem {e : Failure} (h : e.isSystem = true) (deadline : Deadline) :
    issueOf? deadline e = some .failed := by
  unfold issueOf?
  split
  · cases h
  · rfl
  · rw [if_pos h]

/-- The issue that the end of a process raises. -/
def Raises (deadline : Deadline) (r : Except Failure String) : Ending → Prop
  | .completed output => r = .ok output
  | .late => ∃ e, r = .error e ∧ issueOf? deadline e = some (.late deadline)
  | .failed => ∃ e, r = .error e ∧ issueOf? deadline e = some .failed

/-- **Running a program in one step.** -/
theorem execute_apply (argv : List String) (deadline : Deadline) (w : World) :
    execute argv deadline w =
      (((w.environment.execute argv).result argv deadline w.files).1, { w with
        files := ((w.environment.execute argv).result argv deadline w.files).2
        history := .ran argv deadline :: w.history }) := by
  let begun : World := { w with history := .ran argv deadline :: w.history }
  rw [execute, bind_of_ok (show record _ w = (.ok (), begun) from rfl),
    bind_of_ok (state_apply begun), show begun.environment = w.environment from rfl]
  rcases w.environment.execute argv with e | ⟨seconds, work⟩
  · rfl
  · dsimp only [Execution.result]
    by_cases hlate : (deadline.any fun d => d.le seconds) = true
    · rw [if_pos hlate, if_pos hlate]
      rfl
    · rw [if_neg hlate, if_neg hlate]
      rcases hwork : work w.files with ⟨e | done, t⟩
      · rw [bind_of_error (onFiles_run (w := begun) hwork)]
      · rw [bind_of_ok (onFiles_run (w := begun) hwork)]
        dsimp only
        split <;> rfl

theorem execute_run (henv : w.environment.RunsOrdinarily) (argv : List String)
    (deadline : Deadline) :
    ∃ r, execute argv deadline w = (r, { w with
        files := ((w.environment.execute argv).ending deadline w.files).2
        history := .ran argv deadline :: w.history }) ∧
      Raises deadline r ((w.environment.execute argv).ending deadline w.files).1 := by
  rw [execute_apply]
  refine ⟨_, by rw [Execution.files_result], ?_⟩
  rcases hrun : w.environment.execute argv with e | ⟨seconds, work⟩
  · exact ⟨e, rfl, issueOf?_of_isSystem (henv.refused argv e hrun) deadline⟩
  · dsimp only [Execution.ending, Execution.result]
    split
    · exact ⟨_, rfl, rfl⟩
    · rcases hwork : work w.files with ⟨e | done, t⟩
      · exact ⟨e, rfl,
          issueOf?_of_isSystem (henv.started argv seconds work hrun _ e t hwork) deadline⟩
      · dsimp only
        split
        · exact rfl
        · exact ⟨_, rfl, rfl⟩

/-- The failures of a process become failures of its command. -/
theorem decides_of_raises (action : Action) (line path : String) {x : Attempt World String}
    {r : Except Failure String} {ending : Ending} (hx : x w = (r, w'))
    (h : Raises deadline r ending) :
    ∃ r', x.handle (fun e => (issueOf? deadline e).map fun issue =>
        Attempt.fail (.within (.command issue action line path) e)) w = (r', w') ∧
      Decides line path id ending r' := by
  cases ending with
  | completed output =>
    obtain rfl : r = .ok output := h
    exact ⟨.ok output, handle_of_ok _ hx, rfl⟩
  | late =>
    obtain ⟨e, rfl, hissue⟩ := h
    refine ⟨.error (.within (.command (.late deadline) action line path) e), ?_, _, rfl, rfl⟩
    rw [handle_of_error _ hx, hissue]
    rfl
  | failed =>
    obtain ⟨e, rfl, hissue⟩ := h
    refine ⟨.error (.within (.command .failed action line path) e), ?_, _, rfl, rfl⟩
    rw [handle_of_error _ hx, hissue]
    rfl

theorem runCommand_of_split {argv : List String}
    (h : commandArguments w.files line path = .ok argv) (action : Action) (deadline : Deadline) :
    ∃ entry, runCommand action line deadline path w =
      (execute argv deadline).handle (fun e => (issueOf? deadline e).map fun issue =>
        Attempt.fail (.within (.command issue action line path) e))
        { w with history := .reported entry :: w.history } := by
  rw [runCommand, bind_of_ok (state_apply w), h]
  exact ⟨_, rfl⟩

theorem runCommand_byCommand (henv : w.environment.RunsOrdinarily) (action : Action)
    (line : String) (deadline : Deadline) (path : String) :
    ByCommand line deadline path id (runCommand action line deadline path) w := by
  unfold ByCommand
  rcases hsplit : commandArguments w.files line path with f | argv
  · have hrun : runCommand action line deadline path w =
        (.error (.within (.command .invalid action line path) (.fault f)), w) := by
      rw [runCommand, bind_of_ok (state_apply w), hsplit]
      rfl
    constructor <;> rw [hrun]
    · exact newly_self w
    · exact ⟨_, rfl, rfl⟩
  · obtain ⟨entry, hrun⟩ := runCommand_of_split hsplit action deadline
    obtain ⟨r, hexecute, hraises⟩ :=
      execute_run (w := { w with history := .reported entry :: w.history }) henv argv deadline
    obtain ⟨r', hended, hdecides⟩ := decides_of_raises action line path hexecute hraises
    rw [hended] at hrun
    constructor <;> rw [hrun]
    · exact newly_of_history
        (show _ = [Event.ran argv deadline, Event.reported entry] ++ w.history from rfl)
    · rfl
    · exact hdecides

/-! ### Callbacks -/

theorem call_byCallback (c : Callback) (path : String) (w : World) :
    ByCallback c path id (call c (.text path)) w := by
  constructor
  · exact newly_of_history (show _ = [Event.called c (.text path)] ++ w.history from rfl)
  · rfl
  · show (w.environment.call c (.text path) w.files).1 = _
    cases (w.environment.call c (.text path) w.files).1 <;> rfl

/-! ### The file system -/

/-- Nothing acted from outside. -/
structure Idle (w w' : World) : Prop where
  suffix : w.history <:+ w'.history
  acts : newly Event.act? w w' = []

instance : IsPreorder World Idle where
  refl w := ⟨List.suffix_rfl, newly_self w⟩
  trans w₁ w₂ w₃ h h' := by
    refine ⟨h.suffix.trans h'.suffix, ?_⟩
    rw [newly_append h.suffix h'.suffix, h.acts, h'.acts]
    rfl

theorem record_idle {e : Event} (h : e.act? = none) : (record e).Respects Idle := by
  intro w
  refine ⟨List.suffix_cons e w.history, ?_⟩
  rw [newly_of_history (show (record e w).2.history = [e] ++ w.history from rfl)]
  simp [h]

theorem onFiles_idle (x : Attempt FileTree α) : (onFiles x).Respects Idle := by
  intro w
  exact ⟨List.suffix_rfl, newly_of_history (show _ = [] ++ w.history from rfl)⟩

theorem createDirectory_idle (path : String) : (createDirectory path).Respects Idle := by
  refine respects_state.bind fun w => ?_
  split
  · exact respects_pure _
  · exact respects_fail _
  · split
    · exact (onFiles_idle _).bind fun _ => record_idle rfl
    · exact respects_fail _
  · exact respects_fail _

theorem removeEntry_idle (path : String) : (removeEntry path).Respects Idle := by
  refine respects_state.bind fun w => ?_
  split
  · exact onFiles_idle _
  · refine (onFiles_idle _).handle fun e y hy => ?_
    split at hy
    · split at hy <;> cases hy
      exact respects_pure ()
    · cases hy

/-- What is removed depends on the files alone. -/
theorem removeEntry_congr {v : World} (h : v.files = w.files) (path : String) :
    (removeEntry path v).1 = (removeEntry path w).1 ∧
      (removeEntry path v).2.files = (removeEntry path w).2.files := by
  rw [removeEntry, bind_of_ok (state_apply w), bind_of_ok (state_apply v), h]
  split
  · rcases hrun : FileTree.removeTree path w.files with ⟨r, t⟩
    rw [onFiles_run hrun, onFiles_run (h ▸ hrun)]
    exact ⟨rfl, rfl⟩
  · rcases hrun : FileTree.unlink path w.files with ⟨e | _, t⟩
    · rw [handle_of_error _ (onFiles_run hrun), handle_of_error _ (onFiles_run (h ▸ hrun))]
      split
      · next y hy =>
        split at hy
        · split at hy <;> cases hy
          exact ⟨rfl, rfl⟩
        · cases hy
      · exact ⟨rfl, rfl⟩
    · rw [handle_of_ok _ (onFiles_run hrun), handle_of_ok _ (onFiles_run (h ▸ hrun))]
      exact ⟨rfl, rfl⟩

/-! ### One mechanism -/

theorem resolve_of_not_blank (h : ∃ c ∈ line.toList, Text.isBlank c = false)
    (callback : Option Callback) (deadline : Deadline) :
    Strategy.resolve line callback deadline = .command line deadline := by
  obtain ⟨c, hc, hblank⟩ := h
  have hline : Text.isBlankText line = false := by
    rw [Text.isBlankText, List.all_eq_false]
    exact ⟨c, hc, by simp [hblank]⟩
  exact Strategy.resolve_eq_command_iff.mpr ⟨hline, rfl, rfl⟩

theorem resolve_of_blank (h : ∀ c ∈ line.toList, Text.isBlank c = true)
    (callback : Option Callback) (deadline : Deadline) :
    Strategy.resolve line callback deadline = match callback with
      | some c => .callback c
      | none => .fileSystem := by
  have hline : Text.isBlankText line = true := List.all_eq_true.mpr h
  unfold Strategy.resolve
  rw [hline]
  rfl

theorem create_byCommand (hne : path ≠ "") (henv : w.environment.RunsOrdinarily) :
    ByCommand line deadline path (fun output => .text (Text.trim output))
      (create (.command line deadline) path) w := by
  have hrun := (runCommand_byCommand henv .creation line deadline path).map
    fun output => Document.text (Text.trim output)
  rw [create, if_neg hne]
  exact hrun

theorem remove_byCommand (hne : path ≠ "") (henv : w.environment.RunsOrdinarily) :
    ByCommand line deadline path (fun _ => ()) (remove (.command line deadline) (.text path))
      w := by
  let begun : World :=
    { w with history := .removing (.command line deadline) (.text path) :: w.history }
  have hrun := (runCommand_byCommand (w := begun) henv .removal line deadline path).map fun _ => ()
  exact ByCommand.removed hne hrun

theorem create_byCallback (hne : path ≠ "") (c : Callback) (w : World) :
    ByCallback c path id (create (.callback c) path) w := by
  rw [create, if_neg hne]
  exact call_byCallback c path w

theorem remove_byCallback (hne : path ≠ "") (c : Callback) (w : World) :
    ByCallback c path (fun _ => ()) (remove (.callback c) (.text path)) w := by
  let begun : World := { w with history := .removing (.callback c) (.text path) :: w.history }
  have hcall : Does _ _ _ (call c (.text path)) begun := call_byCallback c path begun
  refine Does.removed hne (hcall.map (fun _ => ()) ?_)
  rintro r rfl
  cases (w.environment.call c (.text path) w.files).1 <;> rfl

theorem create_byFileSystem (hne : path ≠ "") (w : World) :
    ByFileSystem (createDirectory path) (fun _ => .text path) (create .fileSystem path) w := by
  have hdoes : Does [] (createDirectory path w).2.files (· = (createDirectory path w).1)
      (createDirectory path) w := ⟨(createDirectory_idle path w).acts, rfl, rfl⟩
  rw [create, if_neg hne]
  refine hdoes.map (fun _ => Document.text path) ?_
  rintro r rfl
  rfl

theorem remove_byFileSystem (hne : path ≠ "") (w : World) :
    ByFileSystem (removeEntry path) id (remove .fileSystem (.text path)) w := by
  let begun : World := { w with history := .removing .fileSystem (.text path) :: w.history }
  obtain ⟨hended, hfiles⟩ := removeEntry_congr (w := w) (v := begun) rfl path
  refine Does.removed hne ⟨(removeEntry_idle path begun).acts, hfiles, ?_⟩
  show (removeEntry path begun).1 = _
  rw [hended]
  cases (removeEntry path w).1 <;> rfl

/-- **One mechanism acts,** and it is settled beforehand which one. For a path that is not empty, a
command line with a character that is not blank decides alone: at most one process is started, no
callback is called and nothing else is done to the files, whatever the process ends in. The output
without the blanks at its ends is the created path. Every failure carries the path and the
description of the command, and says that it timed out exactly when the deadline expired. Otherwise
a callback decides alone: it is called once with the path, and what it gives or fails with passes
through. Without both, only the file system is changed by the one operation on it. For an empty path
nothing is done at all. -/
theorem one_mechanism_acts (henv : w.environment.RunsOrdinarily) (hne : path ≠ "") (line : String)
    (callback : Option Callback) (deadline : Deadline) :
    let s := Strategy.resolve line callback deadline
    ((∃ c ∈ line.toList, Text.isBlank c = false) →
      ByCommand line deadline path (fun output => .text (Text.trim output)) (create s path) w ∧
      ByCommand line deadline path (fun _ => ()) (remove s (.text path)) w) ∧
    ((∀ c ∈ line.toList, Text.isBlank c = true) → ∀ c, callback = some c →
      ByCallback c path id (create s path) w ∧
      ByCallback c path (fun _ => ()) (remove s (.text path)) w) ∧
    ((∀ c ∈ line.toList, Text.isBlank c = true) → callback = none →
      ByFileSystem (createDirectory path) (fun _ => .text path) (create s path) w ∧
      ByFileSystem (removeEntry path) id (remove s (.text path)) w) ∧
    create s "" w = (.ok (.text ""), w) ∧ remove s (.text "") w = (.ok (), w) := by
  intro s
  refine ⟨?_, ?_, ?_, rfl, rfl⟩
  · intro hline
    rw [show s = _ from resolve_of_not_blank hline callback deadline]
    exact ⟨create_byCommand hne henv, remove_byCommand hne henv⟩
  · rintro hline c rfl
    rw [show s = _ from resolve_of_blank hline (some c) deadline]
    exact ⟨create_byCallback hne c w, remove_byCallback hne c w⟩
  · rintro hline rfl
    rw [show s = _ from resolve_of_blank hline none deadline]
    exact ⟨create_byFileSystem hne w, remove_byFileSystem hne w⟩

/-- Programs that make a directory elsewhere, that take a minute, and that report failure. -/
def workshop : Environment where
  dial _ _ := .absent
  becomesReady _ _ := false
  closeFailure _ := none
  execute
    | ["make", _] => .started (.int 1) (return ⟨" /made\n", 0⟩)
    | ["wait", _] => .started (.int 60) (return ⟨"", 0⟩)
    | ["fail", _] => .started (.int 1) (return ⟨"", 1⟩)
    | _ => .refused (.fault (.system (.missing "sh")))
  call _ path := return path
  entropy := .ok []
  lookup? _ := none

theorem runsOrdinarily_workshop : workshop.RunsOrdinarily := by
  constructor
  · intro argv e h
    unfold workshop at h
    dsimp only at h
    split at h <;> cases h
    rfl
  · intro argv seconds work h t e t' hwork
    unfold workshop at h
    dsimp only at h
    split at h <;> cases h <;> cases hwork

/-- A command decides alone, also when it is stopped at its deadline. -/
theorem one_mechanism_acts_workshop :
    let w := initial workshop ⟨[], []⟩
    let made := create (Strategy.resolve "make" (some ⟨0, none, "f"⟩) none) "x" w
    let late := create (Strategy.resolve "wait" (some ⟨0, none, "f"⟩) (some (.int 10))) "x" w
    w.environment.RunsOrdinarily ∧ "x" ≠ "" ∧
      newly Event.act? w made.2 = [.ran ["make", "x"] none] ∧ made.1 = .ok (.text "/made") ∧
      newly Event.act? w late.2 = [.ran ["wait", "x"] (some (.int 10))] ∧
      FailsAs true "wait" "x" late.1 := by
  intro w made late
  have hne : "x" ≠ "" := by decide
  have hmade := (one_mechanism_acts (w := w) runsOrdinarily_workshop hne "make"
    (some ⟨0, none, "f"⟩) none).1 ⟨'m', by decide +kernel, by decide⟩
  have hlate := (one_mechanism_acts (w := w) runsOrdinarily_workshop hne "wait"
    (some ⟨0, none, "f"⟩) (some (.int 10))).1 ⟨'w', by decide +kernel, by decide⟩
  have htrim : Text.trim " /made\n" = "/made" := by decide +kernel
  have hexpired : (w.environment.execute ["wait", "x"]).ending (some (.int 10)) w.files =
      (.late, w.files) := by
    rw [show w.environment.execute ["wait", "x"] = .started (.int 60) (return ⟨"", 0⟩) from rfl]
    exact Execution.ending_of_late (by decide +kernel)
  unfold ByCommand at hmade hlate
  rw [show commandArguments w.files "make" "x" = .ok ["make", "x"] by rfl] at hmade
  rw [show commandArguments w.files "wait" "x" = .ok ["wait", "x"] by rfl] at hlate
  dsimp only at hlate
  rw [hexpired] at hlate
  refine ⟨runsOrdinarily_workshop, hne, hmade.1.acts_eq, ?_, hlate.1.acts_eq, hlate.1.ends⟩
  rw [← htrim]
  exact hmade.1.ends

end Location

end PluginHarness
