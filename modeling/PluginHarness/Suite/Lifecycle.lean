import PluginHarness.Suite.Basic

/-!
# The lifecycle of a suite

A session is opened before the first scenario, prepared before each scenario, tidied up after each
of them, and closed after the last one. Tidying up follows every preparation, also one that
failed. An ordinary failure makes the run fail and the run goes on; an interruption ends it, after
what was begun is tidied up.

Who starts a session closes it: the run closes the one that it opened from textual settings, and
leaves one that it was given to its giver.

## Main definitions

* `Suite.scenario`, `Suite.scenarios`: one scenario, and all of them.
* `Suite.attended`: a run in a session, whatever runs the scenarios; `Suite.inSession`: the run of
  a list of scenarios.
* `Suite.given`, `Suite.opened`, `Suite.unopened`: a run in a session that is there, that has to be
  opened, and one without a session.
* `Suite.launch`: the whole run for a configuration.
* `Suite.openedWith`, `Suite.launchWith`: the same for anything that runs scenarios.
-/

namespace PluginHarness.Suite

/-- The name of the suite. -/
def title : String := "CSI Driver Test Suite"

/-! ### Scenarios -/

/-- Does a phase and tells how it went. -/
def phase (name : String) (p : Phase) (x : Attempt (Session × World) Unit) :
    Attempt Run (Except Failure Unit) := do
  let start ← Run.mark
  let outcome ← Run.onSession x.outcome
  let (session, _) ← Attempt.state
  Run.tell (.phase ⟨name, p, outcome, session, ← Run.eventsSince start⟩)
  return outcome

/-- Prepares a scenario. -/
def prepare (name : String) : Attempt (Session × World) Unit := do
  Session.onWorld (World.report "hooks" .debug ("Setting up scenario " ++ name))
  Session.setup

/-- Passes an interruption on and forgets any other failure, which is told already. Gives whether
there was none. -/
def settled : Except Failure Unit → Attempt Run Bool
  | .ok () => return true
  | .error e => if e.isInterrupt then Attempt.fail e else return false

/-- The user's interruption at a scenario. -/
def interruption (name : String) : Failure :=
  .fault (.foreign ⟨.interrupt, "KeyboardInterrupt", name⟩)

/-- Assigns the fields of the configuration that a scenario changes. -/
def configure (s : Scenario) : Attempt Run Unit := do
  let (session, _) ← Attempt.state
  let changed ← Attempt.ofExcept (session.configure s.changes)
  Attempt.change fun r => (changed, r.2)

/-- Whether a scenario passed whose phases went like this. -/
def verdict (s : Scenario) (before after : Except Failure Unit) : Attempt Run Bool := do
  let tidied ← settled after
  let prepared ← settled before
  return prepared && tidied && !s.fails

/-- Runs a scenario. Gives whether it passed. -/
def scenario (s : Scenario) : Attempt Run Bool := do
  if s.interrupted then Attempt.fail (interruption s.name)
  configure s
  let before ← phase s.name .before (prepare s.name)
  let after ← phase s.name .after Session.teardown
  verdict s before after

/-- Runs scenarios in order. Gives whether all passed. -/
def scenarios : List Scenario → Attempt Run Bool
  | [] => return true
  | s :: rest => do
    let passed ← scenario s
    let others ← scenarios rest
    return passed && others

/-! ### Runs -/

/-- Ends a run: closes the connections of a session that the run opened. -/
def finish (owned : Bool) : Attempt Run Unit := do
  let start ← Run.mark
  if owned then Run.onSession Session.close
  Run.tell (.ended (← Run.eventsSince start))

/-- Does what runs scenarios in a session, and ends the run. -/
def attended (owned : Bool) (body : Attempt Run Bool) : Attempt Run Bool := do
  Run.tell (.began owned)
  body.always (finish owned)

/-- Runs scenarios in a session. Gives whether all passed. -/
def inSession (owned : Bool) (list : List Scenario) : Attempt Run Bool :=
  attended owned (scenarios list)

/-- A run in a session that is there already. -/
def given (session : Session) (list : List Scenario) : Attempt Observed Bool :=
  Observed.withSession session (inSession false list)

/-- Does what runs scenarios in a session that is opened from textual settings. -/
def openedWith (userdata : List (String × Document)) (body : Attempt Run Bool) :
    Attempt Observed Bool := do
  let config ← Observed.onWorld (Config.ofUserdata userdata)
  let session ← Observed.onWorld (Session.start config .channel none)
  Observed.withSession session (attended true body)

/-- A run in a session that is opened from textual settings. -/
def opened (userdata : List (String × Document)) (list : List Scenario) : Attempt Observed Bool :=
  openedWith userdata (scenarios list)

/-- A run for which no session was opened; there is nothing to close. -/
def unopened : Attempt Observed Bool := do
  Observed.tell (.ended [])
  return true

/-! ### The whole run -/

/-- The arguments of a run: where reports go, further arguments, and where the scenarios are. -/
def arguments (config : Config) (paths extra : List Document) : List Document :=
  (if config.junitDirectory = "" then []
    else [.text "--junit", .text "--junit-directory", .text config.junitDirectory]) ++
  extra ++ paths

/-- Where the scenarios are when nothing else is said. -/
def defaultPaths : List Document := [.text "features"]

/-- Reads the parameters file, and checks that the credentials can be read, so that malformed
input ends the run before its first scenario. -/
def prepareConfig (config : Config) : Attempt World Config := do
  let config ← config.withParametersFile
  if config.secretsFile ≠ "" then
    let _ ← Secrets.load config.secretsFile
  return config

/-- Does what runs scenarios in one session of its own, which is closed however the run ends. -/
def launchWith (config : Config) (paths extra : List Document) (dialer : Dialer)
    (body : Attempt Run Bool) : Attempt Observed Bool := do
  let config ← Observed.onWorld (prepareConfig config)
  let session ← Observed.onWorld (Session.start config dialer none)
  Observed.tell (.launched (arguments config paths extra))
  Observed.onWorld (World.report "runner" .info
    ("Running " ++ title ++ " against " ++ config.address))
  Observed.withSession session
    ((attended false body).always (Run.onSession Session.close))

/-- Runs a suite in one session of its own. Gives whether all scenarios passed. -/
def launch (config : Config) (paths extra : List Document) (dialer : Dialer)
    (list : List Scenario) : Attempt Observed Bool :=
  launchWith config paths extra dialer (scenarios list)

end PluginHarness.Suite
