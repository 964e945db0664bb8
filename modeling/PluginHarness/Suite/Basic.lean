import PluginHarness.Session

/-!
# Scenarios and their reports

What a suite runs, and what it tells while it runs. A scenario may assign fields of the
configuration before it is prepared, its own steps may fail, and the user may end the run at it.

## Main definitions

* `Scenario`: what is known of a scenario.
* `PhaseReport`: how the preparation or the tidying up of a scenario went.
* `Progress`: what a run tells.
* `Run`: the session, the world and the progress of a run.
-/

namespace PluginHarness

/-- A scenario of a suite. -/
structure Scenario where
  name : String
  /-- Fields of the configuration that are assigned before the scenario. -/
  changes : List (String × Config.FieldValue)
  /-- The steps of the scenario itself fail. -/
  fails : Bool
  /-- The user ends the run at this scenario. -/
  interrupted : Bool

/-- The part of a scenario that the harness does. -/
inductive Phase where
  /-- Preparing the scenario. -/
  | before
  /-- Tidying up after it. -/
  | after
  deriving DecidableEq, Repr

/-- How a phase of a scenario went. -/
structure PhaseReport where
  scenario : String
  phase : Phase
  outcome : Except Failure Unit
  /-- The session as the phase left it. -/
  session : Session
  /-- What was done in the phase, the oldest first. -/
  events : List Event

/-- What a run tells. -/
inductive Progress where
  /-- The run was given these arguments. -/
  | launched (arguments : List Document)
  /-- There is a session; it may have been started by the run itself. -/
  | began (owned : Bool)
  | phase (r : PhaseReport)
  /-- The run ended, and this was done for it. -/
  | ended (events : List Event)

/-- The world and what a run told, the newest first. -/
abbrev Observed := World × List Progress

/-- A session and what is around it. -/
abbrev Run := Session × Observed

namespace Observed

variable {α : Type}

/-- Tells something. -/
def tell (p : Progress) : Attempt Observed Unit := Attempt.change fun s => (s.1, p :: s.2)

/-- An attempt on the world. -/
def onWorld (x : Attempt World α) : Attempt Observed α := x.on Prod.fst fun w s => (w, s.2)

/-- An attempt that has a session of its own. The session is dropped afterwards. -/
def withSession (session : Session) (x : Attempt Run α) : Attempt Observed α := fun s =>
  match x (session, s) with
  | (r, (_, s')) => (r, s')

end Observed

namespace Run

variable {α : Type}

/-- Tells something. -/
def tell (p : Progress) : Attempt Run Unit :=
  (Observed.tell p).on Prod.snd fun o s => (s.1, o)

/-- An attempt on the session and its world. -/
def onSession (x : Attempt (Session × World) α) : Attempt Run α :=
  x.on (fun s => (s.1, s.2.1)) fun t s => (t.1, (t.2, s.2.2))

/-- An attempt on the world. -/
def onWorld (x : Attempt World α) : Attempt Run α := onSession (Session.onWorld x)

/-- How much was done up to now. -/
def mark : Attempt Run Nat := do return (← Attempt.state).2.1.history.length

/-- What was done since then, the oldest first. -/
def eventsSince (n : Nat) : Attempt Run (List Event) := do
  return (← Attempt.state).2.1.since n

end Run

end PluginHarness
