import Mathlib.Data.List.Basic
import Mathlib.Tactic.Common
import PluginHarness.Proofs.Attempt
import PluginHarness.World

/-!
# What a run does to the world

Whatever a run does, the environment stays as it is and the history only grows. `Confined` adds
what the new events may be about: a list of topics bounds them, and with them the parts of the
world that may have changed. Reports are about no topic, since everything may report.

Confinement is a preorder, so it passes through every combination of attempts, and each function
of the model has one confinement lemma. What a function leaves alone is then read off its topics:
an extractor that only looks at events of another topic sees nothing new (`newly_eq_nil`).

## What the history is read for

Claims about a run speak of what was dialed, closed, created or removed between two moments. Each
of these is an extractor `Event → Option β`, and `World.newly` lists what it finds between two
worlds, the oldest first. Between consecutive stretches of a run it is additive (`newly_append`).

## Main definitions

* `Event.topic?`: what an event is about.
* `World.Confined`: the new events are about the given topics only; `World.ConfinedIn`: the same
  for a state with a world in it.
* `World.newly`: what was seen between two worlds.
* `World.closings`: how often a connection was closed.
* `World.HasOpened`, `World.openings`: whether a connection was opened, and as a number.
* `World.IsOpen`, `World.IsClosed`: an opened connection that was not closed, and one that was.
* `World.initial`: a world in which nothing was done yet.
-/

namespace PluginHarness

/-- What an event can be about. -/
inductive Topic where
  /-- Opening connections. -/
  | dialing
  /-- Closing connections. -/
  | closing
  /-- Acting on the file system, also by commands and callbacks. -/
  | location
  /-- Creating a place of a session. -/
  | creation
  /-- Removing what was created. -/
  | removal
  /-- Reading credentials. -/
  | secrets
  deriving DecidableEq

/-- All topics, which confine nothing. -/
def Topic.all : List Topic := [.dialing, .closing, .location, .creation, .removal, .secrets]

/-- All topics but opening and closing connections. -/
def Topic.offline : List Topic := [.location, .creation, .removal, .secrets]

theorem Topic.mem_all (t : Topic) : t ∈ Topic.all := by cases t <;> decide

namespace Event

/-- What an event is about; a report is about nothing. -/
def topic? : Event → Option Topic
  | .dialing _ | .dialed _ | .channelOpened _ | .awaited _ => some .dialing
  | .closed _ => some .closing
  | .called _ _ | .ran _ _ => some .location
  | .created _ _ => some .creation
  | .removing _ _ => some .removal
  | .secretsRead _ => some .secrets
  | .reported _ => none

/-- The address that a dialer was asked for. -/
def dialing? : Event → Option String
  | .dialing address => some address
  | _ => none

/-- The connection that was closed. -/
def closed? : Event → Option Connection
  | .closed c => some c
  | _ => none

/-- The place that was created, with its path. -/
def created? : Event → Option (Place × Document)
  | .created p path => some (p, path)
  | _ => none

/-- The path at which a removal was begun. -/
def removing? : Event → Option Document
  | .removing _ path => some path
  | _ => none

/-- The file whose credentials were asked for. -/
def secretsRead? : Event → Option String
  | .secretsRead path => some path
  | _ => none

/-- The extractor only looks at events about the topic. -/
def IsAbout {β : Type} (f : Event → Option β) (t : Topic) : Prop :=
  ∀ e, (f e).isSome → e.topic? = some t

theorem isAbout_dialing : IsAbout dialing? .dialing := by
  intro e h
  cases e <;> first | rfl | cases h

theorem isAbout_closed : IsAbout closed? .closing := by
  intro e h
  cases e <;> first | rfl | cases h

theorem isAbout_created : IsAbout created? .creation := by
  intro e h
  cases e <;> first | rfl | cases h

theorem isAbout_removing : IsAbout removing? .removal := by
  intro e h
  cases e <;> first | rfl | cases h

theorem isAbout_secretsRead : IsAbout secretsRead? .secrets := by
  intro e h
  cases e <;> first | rfl | cases h

end Event

/-- Closing a connection raises no interruption, only ordinary failures. -/
def Environment.ClosesOrdinarily (env : Environment) : Prop :=
  ∀ c e, env.closeFailure c = some e → e.isInterrupt = false

/-- The failure is an interruption that closing some connection raises. -/
def Environment.Interrupts (env : Environment) (e : Failure) : Prop :=
  e.isInterrupt = true ∧ ∃ c, env.closeFailure c = some e

theorem Environment.ClosesOrdinarily.not_interrupts {env : Environment} (h : env.ClosesOrdinarily)
    (e : Failure) : ¬ env.Interrupts e := by
  rintro ⟨hi, c, hc⟩
  rw [h c e hc] at hi
  cases hi

/-- Every dial gives a connection, no channel becomes ready, and every closing fails. -/
def Environment.stubborn : Environment where
  dial _ _ := .connected
  becomesReady _ _ := false
  closeFailure _ := some (.fault (.foreign ⟨.ordinary, "RuntimeError", "already gone"⟩))
  execute _ := .refused (.fault (.system (.missing "sh")))
  call _ path := return path
  entropy := .ok []
  lookup? _ := none

theorem Environment.closesOrdinarily_stubborn : stubborn.ClosesOrdinarily := by
  rintro c e ⟨⟩
  rfl

/-- What a dial of an address that is not reached ends in. -/
def Environment.unreachable : Failure :=
  .fault (.foreign ⟨.ordinary, "OSError", "unreachable"⟩)

/-- The address `gone` is not reached. -/
def Environment.refusing : Environment :=
  { stubborn with
    dial := fun _ address => if address = "gone" then .failed unreachable else .connected }

theorem Environment.closesOrdinarily_refusing : refusing.ClosesOrdinarily :=
  closesOrdinarily_stubborn

namespace World

/-- A world in which nothing was done yet. -/
def initial (env : Environment) (files : FileTree) : World := ⟨env, files, 0, []⟩

variable {α β : Type} {w w' w'' : World}

/-! ### Confinement -/

/-- Between the two worlds there were reports and events about the topics, and nothing else. -/
structure Confined (T : List Topic) (w w' : World) : Prop where
  environment_eq : w'.environment = w.environment
  /-- The new events are about the topics. -/
  history : ∃ new, w'.history = new ++ w.history ∧
    ∀ e ∈ new, ∀ t, e.topic? = some t → t ∈ T
  opened_le : w.opened ≤ w'.opened
  opened_eq : .dialing ∉ T → w'.opened = w.opened
  files_eq : .location ∉ T → w'.files = w.files

variable {T : List Topic}

instance : IsPreorder World (Confined T) where
  refl w := ⟨rfl, ⟨[], rfl, by simp⟩, Nat.le_refl _, fun _ => rfl, fun _ => rfl⟩
  trans w₁ w₂ w₃ h₁ h₂ := by
    obtain ⟨new₁, hist₁, about₁⟩ := h₁.history
    obtain ⟨new₂, hist₂, about₂⟩ := h₂.history
    refine ⟨h₂.environment_eq.trans h₁.environment_eq, ⟨new₂ ++ new₁, ?_, fun e he => ?_⟩,
      Nat.le_trans h₁.opened_le h₂.opened_le, fun ht => (h₂.opened_eq ht).trans (h₁.opened_eq ht),
      fun ht => (h₂.files_eq ht).trans (h₁.files_eq ht)⟩
    · rw [hist₂, hist₁, List.append_assoc]
    · exact (List.mem_append.mp he).elim (about₂ e) (about₁ e)

/-- More topics allow more. -/
theorem Confined.mono {more : List Topic} (h : Confined T w w') (hsub : T ⊆ more) :
    Confined more w w' := by
  obtain ⟨new, hist, about⟩ := h.history
  exact ⟨h.environment_eq, ⟨new, hist, fun e he t ht => hsub (about e he t ht)⟩, h.opened_le,
    fun ht => h.opened_eq fun hc => ht (hsub hc), fun ht => h.files_eq fun hc => ht (hsub hc)⟩

theorem Confined.all (h : Confined T w w') : Confined Topic.all w w' :=
  h.mono fun t _ => t.mem_all

theorem Confined.suffix (h : Confined T w w') : w.history <:+ w'.history := by
  obtain ⟨new, hist, -⟩ := h.history
  exact ⟨new, hist.symm⟩

/-- The same for a state with a world in it. -/
def ConfinedIn {σ : Type} (world : σ → World) (T : List Topic) (s s' : σ) : Prop :=
  Confined T (world s) (world s')

instance {σ : Type} (world : σ → World) : IsPreorder σ (ConfinedIn world T) where
  refl s := refl_of (Confined T) (world s)
  trans _ _ _ h h' := trans_of (Confined T) h h'

/-! ### What was seen -/

/-- What was seen between the two worlds, the oldest first. -/
def newly (f : Event → Option β) (w w' : World) : List β :=
  (w'.since w.history.length).filterMap f

variable {f : Event → Option β}

theorem newly_of_history {new : List Event} (h : w'.history = new ++ w.history) :
    newly f w w' = new.reverse.filterMap f := by
  simp [newly, since, h]

@[simp] theorem newly_self (w : World) : newly f w w = [] := by
  rw [newly_of_history (show w.history = [] ++ w.history from rfl)]
  rfl

/-- What was seen in two stretches, one after the other. -/
theorem newly_append (h : w.history <:+ w'.history) (h' : w'.history <:+ w''.history) :
    newly f w w'' = newly f w w' ++ newly f w' w'' := by
  obtain ⟨new, hist⟩ := h
  obtain ⟨new', hist'⟩ := h'
  rw [newly_of_history hist.symm, newly_of_history hist'.symm,
    newly_of_history (show w''.history = (new' ++ new) ++ w.history by
      rw [← hist', ← hist, List.append_assoc])]
  simp

/-- What is about another topic was not seen. -/
theorem Confined.newly_eq_nil {t : Topic} (h : Confined T w w') (hf : Event.IsAbout f t)
    (ht : t ∉ T) : newly f w w' = [] := by
  obtain ⟨new, hist, about⟩ := h.history
  rw [newly_of_history hist, List.filterMap_eq_nil_iff]
  intro e he
  by_contra hs
  exact ht (about e (List.mem_reverse.mp he) t (hf e (Option.isSome_iff_ne_none.mpr hs)))

/-! ### Growing -/

/-- The world after these events, the newest first, with this many connections opened. -/
def grown (w : World) (new : List Event) (n : Nat) : World :=
  { w with opened := n, history := new ++ w.history }

theorem newly_grown (w : World) (new : List Event) (n : Nat) :
    newly f w (w.grown new n) = new.reverse.filterMap f := newly_of_history rfl

/-- Growing by events about dialing is confined to it. -/
theorem confined_grown {new : List Event} {n : Nat} (hle : w.opened ≤ n)
    (h : ∀ e ∈ new, ∀ t, e.topic? = some t → t = .dialing) :
    Confined [.dialing] w (w.grown new n) :=
  ⟨rfl, ⟨new, rfl, fun e he t ht => List.mem_singleton.mpr (h e he t ht)⟩, hle,
    fun hn => absurd (List.mem_singleton_self _) hn, fun _ => rfl⟩

/-! ### Connections -/

/-- How often the connection was closed. -/
def closings (w : World) (c : Connection) : Nat := (w.history.filterMap Event.closed?).count c

/-- The connection was opened. -/
def HasOpened (w : World) (c : Connection) : Prop := 0 < c ∧ c ≤ w.opened

/-- How often the connection was opened, which is at most once. -/
def openings (w : World) (c : Connection) : Nat := if 0 < c ∧ c ≤ w.opened then 1 else 0

/-- The connection was opened, and not closed since. -/
def IsOpen (w : World) (c : Connection) : Prop := w.HasOpened c ∧ w.closings c = 0

/-- The connection was opened, and closed since. -/
def IsClosed (w : World) (c : Connection) : Prop := w.HasOpened c ∧ w.closings c ≠ 0

theorem openings_le_one (w : World) (c : Connection) : w.openings c ≤ 1 := by
  unfold openings
  split <;> decide

/-- What has owners in a balance was opened. -/
theorem hasOpened_of_balance {c : Connection} {owners : Nat}
    (h : w.closings c + owners = w.openings c) (ho : owners ≠ 0) : w.HasOpened c := by
  by_contra hno
  rw [show w.openings c = 0 from if_neg hno] at h
  exact ho (Nat.eq_zero_of_add_eq_zero_left h)

theorem openings_eq_one {c : Connection} (h : w.HasOpened c) : w.openings c = 1 := if_pos h

@[simp] theorem openings_initial (env : Environment) (files : FileTree) (c : Connection) :
    (initial env files).openings c = 0 :=
  if_neg fun h => Nat.lt_irrefl 0 (Nat.lt_of_lt_of_le h.1 h.2)

@[simp] theorem closings_initial (env : Environment) (files : FileTree) (c : Connection) :
    (initial env files).closings c = 0 := rfl

/-- The connection opened last is the only one opened newly. -/
theorem openings_of_opened_succ (h : w'.opened = w.opened + 1) (c : Connection) :
    w'.openings c = w.openings c + if c = w'.opened then 1 else 0 := by
  simp only [openings]
  split_ifs <;> lia

theorem openings_of_opened_eq (h : w'.opened = w.opened) (c : Connection) :
    w'.openings c = w.openings c := by
  simp only [openings, h]

theorem HasOpened.mono {c : Connection} (h : w.HasOpened c) (hle : w.opened ≤ w'.opened) :
    w'.HasOpened c :=
  ⟨h.1, Nat.le_trans h.2 hle⟩

/-- What was closed between two worlds is counted once more for each time. -/
theorem closings_of_suffix (h : w.history <:+ w'.history) (c : Connection) :
    w'.closings c = w.closings c + (newly Event.closed? w w').count c := by
  obtain ⟨new, hist⟩ := h
  rw [newly_of_history hist.symm, closings, ← hist, List.filterMap_append, List.count_append,
    List.filterMap_reverse, List.count_reverse, closings, Nat.add_comm]

theorem Confined.closings_eq (h : Confined T w w') (ht : .closing ∉ T)
    (c : Connection) : w'.closings c = w.closings c := by
  rw [closings_of_suffix h.suffix, h.newly_eq_nil Event.isAbout_closed ht]
  rfl

end World

end PluginHarness
