import PluginHarness.Config.Load
import PluginHarness.Connection
import PluginHarness.Naming
import PluginHarness.Secrets.Load

/-!
# Sessions

A session is what all scenarios of a run depend on: credentials, a connection to the plugin and
one to its controller, and two places. It is prepared before each scenario and tidied up after it.
Connections outlive the scenario; they are replaced only when another address is configured, and
closed at the end of the run.

Credentials are kept as long as the same file is configured. Places are removed by the paths that
their creation gave, and both removals are attempted whatever happens to the first.

## Main definitions

* `Session`: the state of a session.
* `Session.start`: a session without connections and places.
* `Session.setup`: prepares credentials, connections and places.
* `Session.teardown`: removes the places.
* `Session.close`: closes the connections.
* `Session.configure`: a session with fields of its configuration assigned.
-/

namespace PluginHarness

/-- The state of a session. -/
structure Session where
  config : Config
  /-- What unique names end in. -/
  suffix : String
  secrets : Secrets
  /-- The file that the credentials come from; empty when there are none. -/
  secretsFile : String
  node : Endpoint
  controller : Endpoint
  /-- The path that the creation of the mount target gave; empty when there is nothing to
  remove. -/
  target : Document
  /-- The path that the creation of the staging place gave. -/
  staging : Document

namespace Session

/-- No path. -/
def noPath : Document := .text ""

/-- A session without connections and places. -/
def fresh (config : Config) (dialer : Dialer) (suffix : String) : Session where
  config := config
  suffix := suffix
  secrets := Secrets.empty
  secretsFile := ""
  node := Endpoint.unbound "CSI driver" dialer
  controller := Endpoint.unbound "CSI driver controller" dialer
  target := noPath
  staging := noPath

/-- Starts a session, with a new suffix when none is given. -/
def start (config : Config) (dialer : Dialer) (suffix? : Option String) :
    Attempt World Session := do
  match suffix? with
  | some suffix => return fresh config dialer suffix
  | none => return fresh config dialer (← Naming.newSuffix)

/-- The path of a place. -/
def path (s : Session) : Place → Document
  | .target => s.target
  | .staging => s.staging

/-- The session with the path of a place replaced. -/
def setPath (p : Place) (d : Document) (s : Session) : Session :=
  match p with
  | .target => { s with target := d }
  | .staging => { s with staging := d }

/-- A name with the suffix of the session. -/
def uniqueName (s : Session) (name : String) : String := Naming.unique s.suffix name

/-- The session with fields of its configuration assigned by name. -/
def configure (s : Session) (fields : List (String × Config.FieldValue)) :
    Except Failure Session := do
  return { s with config := ← s.config.assign fields }

/-! ### Attempts on a session and its world -/

variable {α : Type}

/-- An attempt on the world. -/
def onWorld (x : Attempt World α) : Attempt (Session × World) α :=
  x.on Prod.snd fun w s => (s.1, w)

/-- An attempt on the connection to the plugin. -/
def onNode (x : Attempt (Endpoint × World) α) : Attempt (Session × World) α :=
  x.on (fun s => (s.1.node, s.2)) fun t s => ({ s.1 with node := t.1 }, t.2)

/-- An attempt on the connection to the controller. -/
def onController (x : Attempt (Endpoint × World) α) : Attempt (Session × World) α :=
  x.on (fun s => (s.1.controller, s.2)) fun t s => ({ s.1 with controller := t.1 }, t.2)

/-- Changes the session. -/
def change (f : Session → Session) : Attempt (Session × World) Unit :=
  Attempt.change fun s => (f s.1, s.2)

/-- The session. -/
def current : Attempt (Session × World) Session := do return (← Attempt.state).1

/-! ### Setup -/

/-- Makes sure that the credentials are those of the configured file. -/
def loadSecrets : Attempt (Session × World) Unit := do
  let s ← current
  let file := s.config.secretsFile
  if file = "" then change fun s => { s with secrets := Secrets.empty, secretsFile := "" }
  else if file = s.secretsFile then return ()
  else
    let secrets ← onWorld ((Secrets.load file).handle fun e =>
      if e.isSecrets then some (Attempt.fail (.within (.precondition .secrets) e)) else none)
    change fun s => { s with secrets := secrets, secretsFile := file }

/-- Makes sure that there is a connection to the plugin. -/
def connectNode : Attempt (Session × World) (Option Connection) := do
  let config := (← current).config
  (onNode (Endpoint.ensure config.address)).explained (.precondition (.node config.address))

/-- Makes sure that there is a connection to the controller of the plugin: one of its own, or that
to the plugin when no address is configured. -/
def connectController : Attempt (Session × World) (Option Connection) := do
  let s ← current
  let address := s.config.controllerAddress
  if address = "" then onController (Endpoint.share s.node)
  else (onController (Endpoint.ensure address)).explained (.precondition (.controller address))

/-- Makes sure that there are connections to the plugin and to its controller. -/
def connect : Attempt (Session × World) Unit := do
  let _ ← connectNode
  let _ ← connectController

/-- Creates a place and remembers the path that its creation gives. -/
def createPlace (p : Place) : Attempt (Session × World) Unit := do
  let config := (← current).config
  let path := (config.place p).path
  let strategy := config.strategy .creation p
  let created ← onWorld ((Location.create strategy path).explained
    (.precondition (.place p path strategy.describe)))
  onWorld (World.record (.created p created))
  change (setPath p created)

/-- Creates both places, unless the first creation fails. -/
def provision : Attempt (Session × World) Unit := do
  onWorld (World.reportStep "context" "creating mount and staging directories")
  createPlace .target
  createPlace .staging

/-- Prepares credentials, connections and places, in this order; the first failure ends it. -/
def setup : Attempt (Session × World) Unit := do
  loadSecrets
  connect
  provision

/-! ### Teardown -/

/-- Reports a text about a path. -/
def reportPath (level : Level) (path : Document) (text : String → String) : Attempt World Unit :=
  match path.text? with
  | some shown => World.report "context" level (text shown)
  | none => return ()

/-- Removes a place, if there is a path, and gives the failure, if any. -/
def removePlace (p : Place) (path : Document) (strategy : Strategy) :
    Attempt World (List Failure) :=
  if !path.truthy then return []
  else
    Attempt.rescue
      (do
        Location.remove strategy path
        reportPath .debug path fun shown => "Removed " ++ p.name ++ " path " ++ shown
        return [])
      fun e => do
        reportPath .warning path fun shown =>
          "Failed to remove " ++ p.name ++ " path " ++ shown ++ " using " ++ strategy.describe ++
            ": " ++ e.message
        return [e]

/-- Removes both places, and fails with the failures of both. -/
def removePlaces (s : Session) : Attempt World Unit := do
  let targetErrors ← removePlace .target (s.path .target) (s.config.strategy .removal .target)
  let stagingErrors ← removePlace .staging (s.path .staging) (s.config.strategy .removal .staging)
  let errors := targetErrors ++ stagingErrors
  if errors.isEmpty then return () else Attempt.fail (.cleanup errors)

/-- Removes the places. Their paths are forgotten first. -/
def teardown : Attempt (Session × World) Unit := do
  let s ← current
  change fun s => { s with target := noPath, staging := noPath }
  onWorld (removePlaces s)

/-! ### End of the run -/

/-- Closes the connections that the session opened. -/
def close : Attempt (Session × World) Unit := do
  onController Endpoint.close
  onNode Endpoint.close

end Session

end PluginHarness
