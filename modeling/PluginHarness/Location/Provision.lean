import PluginHarness.Location.Arguments
import PluginHarness.World

/-!
# Creating and removing locations

Creating a location gives the path that is used from then on: what a command prints, what a
callback returns, or the path itself. A command has one shape of failure, whatever goes wrong
with it; the failures of callbacks and of the file system pass through.

## Main definitions

* `Location.runCommand`: runs a command for a path.
* `Location.create`, `Location.remove`: the two operations; an empty path means that there is
  nothing to do.
-/

namespace PluginHarness.Location

/-- Runs a program with arguments and gives what it prints. -/
def execute (argv : List String) (deadline : Deadline) : Attempt World String := do
  World.record (.ran argv deadline)
  let w ← Attempt.state
  match w.environment.execute argv with
  | .refused e => Attempt.fail e
  | .started seconds work =>
    if deadline.any fun d => d.le seconds then
      Attempt.fail (.fault (.deadlineExpired argv deadline))
    else
      let done ← World.onFiles work
      if done.code = 0 then return done.output
      else Attempt.fail (.fault (.exited argv done.code))

/-- What a failure of a program means for its command; none for failures that are not of the
program. -/
def issueOf? (deadline : Deadline) : Failure → Option CommandIssue
  | .fault (.deadlineExpired _ _) => some (.late deadline)
  | .fault (.exited _ _) => some .failed
  | e => if e.isSystem then some .failed else none

/-- Runs a command for a path and gives what it prints. -/
def runCommand (action : Action) (line : String) (deadline : Deadline) (path : String) :
    Attempt World String := do
  let w ← Attempt.state
  match commandArguments w.files line path with
  | .error f => Attempt.fail (.within (.command .invalid action line path) (.fault f))
  | .ok argv =>
    World.report "provisioning" .debug
      ("Running " ++ action.noun ++ " command " ++ Text.quotedList argv ++ " (timeout=" ++
        deadline.text ++ "s)")
    (execute argv deadline).handle fun e =>
      (issueOf? deadline e).map fun issue =>
        Attempt.fail (.within (.command issue action line path) e)

/-- Calls a callback. -/
def call (c : Callback) (path : Document) : Attempt World Document := do
  World.record (.called c path)
  let w ← Attempt.state
  World.onFiles (w.environment.call c path)

/-- Makes sure that a directory is at the path. -/
def createDirectory (path : String) : Attempt World Unit := do
  let w ← Attempt.state
  match w.files.find path with
  | .ok (_, .directory) => return ()
  | .ok _ => Attempt.fail (.fault (.occupied path))
  | .error (.system f) =>
    if f = .missing path then
      World.onFiles (FileTree.makeDirectories path)
      World.report "provisioning" .debug ("Created directory " ++ path)
    else Attempt.fail (.fault (.system f))
  | .error f => Attempt.fail (.fault f)

/-- Removes what is at the path: a directory with everything below it, but of a link only the
link. That nothing is there is no failure. -/
def removeEntry (path : String) : Attempt World Unit := do
  let w ← Attempt.state
  if w.files.isDirectory path && !w.files.isLink path then
    World.onFiles (FileTree.removeTree path)
  else
    (World.onFiles (FileTree.unlink path)).handle fun e =>
      match e with
      | .fault (.system f) => if f = .missing path then some (Attempt.pure ()) else none
      | _ => none

/-- Creates a location and gives the path to use. -/
def create (s : Strategy) (path : String) : Attempt World Document :=
  if path = "" then return .text ""
  else match s with
    | .command line deadline => do
      return .text (Text.trim (← runCommand .creation line deadline path))
    | .callback c => call c (.text path)
    | .fileSystem => do
      createDirectory path
      return .text path

/-- Removes what is at a path by a strategy. Only a callback takes anything but a text. -/
def removeBy : Strategy → Document → Attempt World Unit
  | .callback c, path => do let _ ← call c path
  | .command line deadline, .text path => do
    let _ ← runCommand .removal line deadline path
  | .fileSystem, .text path => removeEntry path
  | _, other => Attempt.fail (.fault (.notAPath other.kindName))

/-- Removes a location by the path that its creation gave. -/
def remove (s : Strategy) (path : Document) : Attempt World Unit :=
  if !path.truthy then return ()
  else do
    World.record (.removing s path)
    removeBy s path

end PluginHarness.Location
