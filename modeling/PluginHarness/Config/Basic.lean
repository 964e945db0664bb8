import PluginHarness.Config.Setting
import PluginHarness.Location.Strategy
import PluginHarness.Secrets.Basic

/-!
# Configurations

What the user fixes before a run: how the plugin is reached, where its two places are and how
they are created and removed, and what volumes the tests ask for. A configuration never changes;
a modified copy is made by assigning fields anew.

## Main definitions

* `Config`: the configuration; `Config.default`: the built-in values.
* `Config.get`: the value of a setting.
* `Config.strategy`: how an action on a place is done.
* `Field`, `Config.assign`: a copy with fields assigned by name.
* `Config.same`: two configurations that agree in all settings.
-/

namespace PluginHarness

/-- How an action on a place is done. -/
structure StepSettings where
  command : String
  deadline : Deadline
  callback : Option Callback
  deriving DecidableEq, Repr

/-- A place and the actions on it. -/
structure PlaceSettings where
  path : String
  creation : StepSettings
  removal : StepSettings
  deriving DecidableEq, Repr

namespace PlaceSettings

/-- How an action is done. -/
def step (s : PlaceSettings) : Action → StepSettings
  | .creation => s.creation
  | .removal => s.removal

/-- The settings with those of an action changed. -/
def update (a : Action) (f : StepSettings → StepSettings) (s : PlaceSettings) : PlaceSettings :=
  match a with
  | .creation => { s with creation := f s.creation }
  | .removal => { s with removal := f s.removal }

end PlaceSettings

/-- The configuration of a run. -/
structure Config where
  /-- Where the plugin is reached. -/
  address : String
  /-- Where its controller is reached; empty when that is the same place. -/
  controllerAddress : String
  secretsFile : String
  parametersFile : String
  junitDirectory : String
  /-- How many bytes a test volume has. -/
  volumeSize : Int
  /-- What is passed on when a volume is created. -/
  parameters : TextMap
  /-- Whether the limit of volumes per node is tested. -/
  attachLimit : Bool
  target : PlaceSettings
  staging : PlaceSettings
  deriving DecidableEq, Repr

namespace Config

/-- No command and no callback. -/
def defaultStep : StepSettings := ⟨"", Strategy.defaultDeadline, none⟩

/-- The built-in values. -/
def default : Config where
  address := ""
  controllerAddress := ""
  secretsFile := ""
  parametersFile := ""
  junitDirectory := ""
  volumeSize := 10 * 1024 * 1024 * 1024
  parameters := []
  attachLimit := false
  target := ⟨"/tmp/csi-mount", defaultStep, defaultStep⟩
  staging := ⟨"/tmp/csi-staging", defaultStep, defaultStep⟩

/-- The settings of a place. -/
def place (c : Config) : Place → PlaceSettings
  | .target => c.target
  | .staging => c.staging

/-- The configuration with the settings of a place changed. -/
def updatePlace (p : Place) (f : PlaceSettings → PlaceSettings) (c : Config) : Config :=
  match p with
  | .target => { c with target := f c.target }
  | .staging => { c with staging := f c.staging }

/-- How an action on a place is done. -/
def strategy (c : Config) (a : Action) (p : Place) : Strategy :=
  let s := (c.place p).step a
  Strategy.resolve s.command s.callback s.deadline

/-- A number as a document. -/
def numberDocument : Number → Document
  | .int i => .int i
  | .float x => .float x

/-- The value of a setting. -/
def get (c : Config) : Setting → Document
  | .address => .text c.address
  | .controllerAddress => .text c.controllerAddress
  | .path p => .text (c.place p).path
  | .secretsFile => .text c.secretsFile
  | .parametersFile => .text c.parametersFile
  | .junitDirectory => .text c.junitDirectory
  | .command a p => .text ((c.place p).step a).command
  | .timeout a p => (((c.place p).step a).deadline.map numberDocument).getD .null
  | .volumeSize => .int c.volumeSize
  | .parameters => .map (c.parameters.map fun e => (.text e.1, .text e.2))
  | .attachLimit => .bool c.attachLimit

/-! ### Fields -/

/-- A field of a configuration: a setting, or the callback for an action on a place. -/
inductive Field where
  | setting (s : Setting)
  | callback (a : Action) (p : Place)
  deriving DecidableEq, Repr

/-- The name of the callback for an action on a place. -/
def callbackName : Action → Place → String
  | .creation, .target => "create_target_dir"
  | .creation, .staging => "create_staging_dir"
  | .removal, .target => "remove_target_path"
  | .removal, .staging => "remove_staging_path"

/-- The callbacks, as actions on places. -/
def callbacks : List (Action × Place) :=
  [(.creation, .target), (.creation, .staging), (.removal, .target), (.removal, .staging)]

/-- The field with this name. -/
def field? (name : String) : Option Field :=
  ((Setting.ofKey? name).map .setting).or
    ((callbacks.find? fun c => callbackName c.1 c.2 == name).map fun c => .callback c.1 c.2)

/-- What is assigned to a field. -/
inductive FieldValue where
  | document (d : Document)
  | callback (c : Callback)

/-- The text of a value; any other value counts as empty. -/
def textOf (d : Document) : String := d.asText?.getD ""

/-- The integer of a value; any other value counts as zero. -/
def integerOf (d : Document) : Int :=
  match d.number? with
  | some (.int i) => i
  | _ => 0

/-- The texts of a mapping. -/
def textMapOf : Document → TextMap
  | .map entries => entries.filterMap fun e => do return (← e.1.asText?, ← e.2.asText?)
  | _ => []

/-- A copy with a setting assigned. -/
def set (s : Setting) (d : Document) (c : Config) : Config :=
  match s with
  | .address => { c with address := textOf d }
  | .controllerAddress => { c with controllerAddress := textOf d }
  | .path p => c.updatePlace p fun s => { s with path := textOf d }
  | .secretsFile => { c with secretsFile := textOf d }
  | .parametersFile => { c with parametersFile := textOf d }
  | .junitDirectory => { c with junitDirectory := textOf d }
  | .command a p =>
    c.updatePlace p (PlaceSettings.update a fun s => { s with command := textOf d })
  | .timeout a p =>
    c.updatePlace p (PlaceSettings.update a fun s => { s with deadline := d.number? })
  | .volumeSize => { c with volumeSize := integerOf d }
  | .parameters => { c with parameters := textMapOf d }
  | .attachLimit => { c with attachLimit := d.truthy }

/-- A copy with a callback assigned or taken away. -/
def setCallback (a : Action) (p : Place) (callback : Option Callback) (c : Config) : Config :=
  c.updatePlace p (PlaceSettings.update a fun s => { s with callback := callback })

/-- A copy with a field assigned. -/
def setField (f : Field) (v : FieldValue) (c : Config) : Config :=
  match f, v with
  | .setting s, .document d => c.set s d
  | .callback a p, .callback callback => c.setCallback a p (some callback)
  | .callback a p, .document _ => c.setCallback a p none
  | .setting _, .callback _ => c

/-- A copy with fields assigned by name; the first name that is no field is refused. -/
def assign (c : Config) (fields : List (String × FieldValue)) : Except Failure Config :=
  match fields.find? fun f => (field? f.1).isNone with
  | some (name, _) => .error (.fault (.unknownName .config name))
  | none => .ok (fields.foldl (fun c f => match field? f.1 with
      | some field => c.setField field f.2
      | none => c) c)

/-- A field cannot be assigned in place, whatever its name and value. -/
def assignInPlace (_ : Config) (name : String) : Except Failure Config :=
  .error (.fault (.frozen name))

/-! ### Comparison -/

/-- Two values of a setting are the same: texts and flags are equal, numbers have the same
value, and mappings have the same entries in any order. -/
def sameValue : Document → Document → Bool
  | .map a, .map b => Entries.same a b
  | a, b => a.sameKey b

/-- The two configurations agree in the settings that satisfy `p`. Callbacks do not matter. -/
def sameIn (p : Setting → Bool) (a b : Config) : Bool :=
  (Setting.all.filter p).all fun s => sameValue (a.get s) (b.get s)

/-- The two configurations agree in all settings. -/
def same (a b : Config) : Bool := sameIn (fun _ => true) a b

/-- The two configurations have the same key in a hash table: they agree in all settings but
the parameters. -/
def sameHash (a b : Config) : Bool := sameIn (fun s => s != .parameters) a b

end Config

end PluginHarness
