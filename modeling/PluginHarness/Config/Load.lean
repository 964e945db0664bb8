import PluginHarness.Config.Values
import PluginHarness.Location.Provision
import PluginHarness.Reference.Resolve
import PluginHarness.Yaml.Value

/-!
# Loading configurations

A configuration is made from a file, which may be missing, and from overrides. The file holds a
mapping whose texts may refer to other values. The parameters file, if one is named, holds a
mapping of plain values, which go before the parameters in the configuration.

## Main definitions

* `Config.loadFile`: the entries of a configuration file.
* `Config.parameterEntries`: the texts of the entries of a parameters file.
* `Config.loadParameters`: the entries of a parameters file.
* `Config.withParametersFile`: a configuration with its parameters file read.
* `Config.build`: the configuration made from file, overrides and callbacks.
* `Config.ofUserdata`: the configuration made from the textual settings of a test run.
-/

namespace PluginHarness.Config

/-- The variable of the environment that names the configuration file. -/
def fileVariable : String := "CSI_SANITY_CONFIG"

/-- The configuration file when none is named. -/
def defaultFile : String := "csi-sanity.yaml"

/-- The name of the configuration file. -/
def fileName (named : Option Document) : Attempt World String := do
  match named with
  | some (.text name) => return name
  | some other => Attempt.fail (.fault (.notAFileName other.kindName))
  | none =>
    let w ← Attempt.state
    return (w.environment.lookup? fileVariable).getD defaultFile

/-- Errors that mean that there is nothing at a path: nothing there, no directory on the way, or
links that lead nowhere. -/
def meansAbsent : Fault → Bool
  | .embeddedNull => true
  | .system f => f.number == 2 || f.number == 20 || f.number == 9 || f.number == 40
  | _ => false

/-- A document as it counts for a configuration: nothing is an empty mapping, and a text is read
once more; a text in it becomes a key without value. -/
def asCollection (d : Document) : Except Fault Document :=
  match d with
  | .null => .ok (.map [])
  | .list _ | .map _ => .ok d
  | .text s => do
    match ← Yaml.readText .configuration s.toList with
    | .null => .ok (.map [])
    | .text s => .ok (.map [(.text s, .null)])
    | .list items => .ok (.list items)
    | .map entries => .ok (.map entries)
    | _ => .error .loadedText
  | other => .error (.loadedKind other.kindName)

/-- Reads the collection that a configuration file holds. -/
def readFile (t : FileTree) (file : String) : Except Fault Document := do
  let bytes ← t.read (Path.normalize t.cwd file)
  let text ← (Text.decodePieces bytes).mapError .undecodable
  asCollection (← Yaml.readText .configuration (Text.unifyNewlines text))

/-- What a fault of a configuration file means; some faults pass as they are. -/
def fileFailure (file : String) (f : Fault) : Attempt World Document :=
  match f with
  | .malformed => do
    World.report "config" .error
      ("Failed to parse YAML config file " ++ file ++ ": " ++ f.message)
    Attempt.fail (.within (.configMalformed file) (.fault f))
  | .system _ | .loadedKind _ => do
    World.report "config" .error ("Failed to read config file " ++ file ++ ": " ++ f.message)
    Attempt.fail (.within (.configUnreadable file) (.fault f))
  | _ => Attempt.fail (.fault f)

/-- The entries of the collection that a configuration file holds, with their references
resolved. -/
def resolve (file : String) (root : Document) : Attempt World (List (Document × Document)) := do
  let w ← Attempt.state
  match Reference.check root with
  | .error f => Attempt.fail (.fault (.reference f))
  | .ok () =>
    match Reference.resolveAll w.environment.lookup? root with
    | .error f =>
      World.report "config" .error ("Failed to resolve configuration variables: " ++ f.message)
      Attempt.fail (.within (.configUnresolved file) (.fault (.reference f)))
    | .ok (.map entries) => return entries
    | .ok _ => Attempt.fail (.fault (.config (.notMapping file)))

/-- Reads the entries of a configuration file that is there. -/
def loadPresent (file : String) : Attempt World (List (Document × Document)) := do
  let w ← Attempt.state
  match readFile w.files file with
  | .ok root => resolve file root
  | .error f => do resolve file (← fileFailure file f)

/-- The entries of a configuration file; a missing file has none. -/
def loadFile (named : Option Document) : Attempt World (List (Document × Document)) := do
  let file := Path.clean (← fileName named)
  let w ← Attempt.state
  match w.files.find file with
  | .ok _ => loadPresent file
  | .error f =>
    if meansAbsent f then
      World.report "config" .debug ("Config file " ++ file ++ " not found, using defaults")
      return []
    else Attempt.fail (.fault f)

/-! ### Parameters -/

/-- Why a parameter is refused. -/
def parameterRefusal (path : String) (key : Document) : Failure :=
  match key.quoted? with
  | some name => .fault (.config (.parameterValue path name))
  | none => .fault .unwritable

/-- The text of a parameter. A flag is written like any other value and folded down. -/
def parameterText? (value : Document) : Option String :=
  match value with
  | .bool _ => value.text?.map Text.lower
  | _ => value.text?

/-- Writes the entries of a parameters file as text one after the other. -/
def parameterEntries (path : String) :
    TextMap → List (Document × Document) → Except Failure TextMap
  | done, [] => .ok done
  | done, (key, value) :: rest =>
    match value with
    | .map _ | .list _ | .null => .error (parameterRefusal path key)
    | _ =>
      match key.text?, parameterText? value with
      | some k, some v => parameterEntries path (done.insert k v) rest
      | _, _ => .error (.fault .unwritable)

/-- The parameters that a document gives. -/
def parametersOf (path : String) : Document → Except Failure TextMap
  | .null => .ok []
  | .map entries => parameterEntries path [] entries
  | other => .error (.fault (.config (.parametersKind path other.kindName)))

/-- Reads the document that a parameters file holds. -/
def readParameters (t : FileTree) (path : String) : Except Fault Document := do
  let bytes ← t.read path
  let text ← (Text.decodePieces bytes).mapError .undecodable
  Yaml.readText .standard (Text.unifyNewlines text)

/-- The entries of a parameters file. -/
def loadParameters (path : String) : Attempt World TextMap := do
  let w ← Attempt.state
  match readParameters w.files path with
  | .ok d => Attempt.ofExcept (parametersOf path d)
  | .error (.system f) =>
    Attempt.fail (.within (.parametersUnreadable path) (.fault (.system f)))
  | .error .malformed => Attempt.fail (.within (.parametersMalformed path) (.fault .malformed))
  | .error f => Attempt.fail (.fault f)

/-- The configuration with the entries of its parameters file over its parameters. -/
def withParametersFile (c : Config) : Attempt World Config := do
  if c.parametersFile = "" then return c
  else
    let new ← loadParameters c.parametersFile
    return { c with parameters := Entries.insertAll c.parameters new }

/-! ### Building -/

/-- Reports the keys of a source that are no settings. -/
def reportUnknown (source : List (Document × Document)) : Attempt World Unit :=
  World.reportKeys "config" .warning "Ignoring unknown configuration key "
    (Values.unknownKeys source)

/-- The values of file and overrides over the built-in ones; unknown keys are reported. -/
def merge (file overrides : List (Document × Document)) : Attempt World Values := do
  reportUnknown file
  reportUnknown overrides
  return Values.merge file overrides

/-- The configuration with callbacks and other fields assigned by name; a setting cannot be
given again. -/
def withHooks (c : Config) (hooks : List (String × FieldValue)) : Except Failure Config :=
  match hooks.find? fun h => (Setting.ofKey? h.1).isSome with
  | some (name, _) => .error (.fault (.repeatedName name))
  | none => c.assign hooks

/-- The configuration made from a file, overrides and callbacks. -/
def build (named : Option Document) (overrides : List (Document × Document))
    (hooks : List (String × FieldValue)) : Attempt World Config := do
  let values ← merge (← loadFile named) overrides
  match ofValues fun s => some (values s) with
  | .error f => Attempt.fail (.fault (.config f))
  | .ok c =>
    let c ← Attempt.ofExcept (c.withHooks hooks)
    c.withParametersFile

/-- The overrides that textual settings stand for; parameters cannot be given as text. -/
def overridesOf : List (String × Document) → Except Failure (List (Document × Document))
  | [] => .ok []
  | (name, value) :: rest =>
    match Setting.ofKey? name with
    | none | some .parameters => overridesOf rest
    | some s => do
      return (.text name, ← s.ofOverride value) :: (← overridesOf rest)

/-- The configuration made from the textual settings of a test run; `config` names the file. -/
def ofUserdata (userdata : List (String × Document)) : Attempt World Config := do
  let overrides ← Attempt.ofExcept (overridesOf userdata)
  let named := match Entries.get? "config" userdata with
    | some .null | none => none
    | some d => some d
  build named overrides []

end PluginHarness.Config
