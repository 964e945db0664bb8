import PluginHarness.Config.Basic
import PluginHarness.Text.Case

/-!
# Values of settings

Where the values of a configuration come from, and when they are accepted. Each setting has a
built-in value; a configuration file goes before it, and explicit overrides go before the file. A
null never goes before anything. Names that are no settings are passed over.

Values are accepted when they are of the right kind: texts, a non-empty address, time limits that
are not negative, a positive size, a flag, and parameters that are texts under texts. Accepted
values make a configuration.

## Main definitions

* `Values`: a value for each setting; `Values.merge`: the three sources together.
* `Config.ofValues`: the configuration that accepted values make, or why they are refused.
* `Setting.ofText`, `Setting.ofOverride`: the value that an override stands for.
-/

namespace PluginHarness

/-- A value for each setting. -/
abbrev Values := Setting → Document

namespace Values

/-- The setting that a key names. -/
def setting? (key : Document) : Option Setting := key.asText?.bind Setting.ofKey?

/-- The values with the entries of a source written over them, one after the other. -/
def overlay : Values → List (Document × Document) → Values
  | values, [] => values
  | values, (key, value) :: rest =>
    match setting? key, value with
    | none, _ => overlay values rest
    | some _, .null => overlay values rest
    | some s, value => overlay (fun t => if t = s then value else values t) rest

/-- The built-in values with those of the file and the overrides over them. -/
def merge (file overrides : List (Document × Document)) : Values :=
  overlay (overlay Config.default.get file) overrides

/-- The keys that are no settings, in order. -/
def unknownKeys (source : List (Document × Document)) : List Document :=
  (source.map Prod.fst).filter fun key => (setting? key).isNone

end Values

namespace Config

/-- The values to check; a value may be missing. -/
abbrev Given := Setting → Option Document

/-- A text; a missing one counts as empty. -/
def checkText (given : Given) (s : Setting) : Except ConfigFault String :=
  match given s with
  | none => .ok ""
  | some (.text t) => .ok t
  | some _ => .error (.notText s)

/-- A number of seconds that is not negative. -/
def checkDeadline (given : Given) (s : Setting) : Except ConfigFault Number :=
  let notNegative (n : Number) : Except ConfigFault Number :=
    if n.lt (.int 0) then .error (.negative s) else .ok n
  match given s with
  | some (.int i) => notNegative (.int i)
  | some (.float x) => notNegative (.float x)
  | _ => .error (.notSeconds s)

/-- A positive size. -/
def checkSize (given : Given) : Except ConfigFault Int :=
  match given .volumeSize with
  | some (.int i) => if i ≤ 0 then .error .sizeNotPositive else .ok i
  | _ => .error .sizeNotInteger

/-- A flag. -/
def checkFlag (given : Given) : Except ConfigFault Bool :=
  match given .attachLimit with
  | some (.bool b) => .ok b
  | _ => .error .notFlag

/-- Entries that are texts under texts. -/
def checkEntries : List (Document × Document) → Except ConfigFault TextMap
  | [] => .ok []
  | (.text k, .text v) :: rest => do return (k, v) :: (← checkEntries rest)
  | _ => .error .parametersNotText

/-- Parameters that are texts under texts. -/
def checkParameters (given : Given) : Except ConfigFault TextMap :=
  match given .parameters with
  | some (.map entries) => checkEntries entries
  | _ => .error .parametersNotMapping

/-- The configuration that the values make. All texts are checked first, then the address, the
time limits, the size, the flag and the parameters. -/
def ofValues (given : Given) : Except ConfigFault Config := do
  let address ← checkText given .address
  let controllerAddress ← checkText given .controllerAddress
  let targetPath ← checkText given (.path .target)
  let stagingPath ← checkText given (.path .staging)
  let secretsFile ← checkText given .secretsFile
  let parametersFile ← checkText given .parametersFile
  let junitDirectory ← checkText given .junitDirectory
  let createTarget ← checkText given (.command .creation .target)
  let createStaging ← checkText given (.command .creation .staging)
  let removeTarget ← checkText given (.command .removal .target)
  let removeStaging ← checkText given (.command .removal .staging)
  if address = "" then throw .addressMissing
  let createTargetDeadline ← checkDeadline given (.timeout .creation .target)
  let createStagingDeadline ← checkDeadline given (.timeout .creation .staging)
  let removeTargetDeadline ← checkDeadline given (.timeout .removal .target)
  let removeStagingDeadline ← checkDeadline given (.timeout .removal .staging)
  let volumeSize ← checkSize given
  let attachLimit ← checkFlag given
  let parameters ← checkParameters given
  return {
    address, controllerAddress, secretsFile, parametersFile, junitDirectory, volumeSize,
    parameters, attachLimit
    target := {
      path := targetPath
      creation := ⟨createTarget, some createTargetDeadline, none⟩
      removal := ⟨removeTarget, some removeTargetDeadline, none⟩ }
    staging := {
      path := stagingPath
      creation := ⟨createStaging, some createStagingDeadline, none⟩
      removal := ⟨removeStaging, some removeStagingDeadline, none⟩ } }

end Config

namespace Setting

/-- The words for a flag that is set. -/
def setWords : List String := ["1", "true", "yes", "on"]

/-- The words for a flag that is not set. -/
def unsetWords : List String := ["0", "false", "no", "off", ""]

/-- The number of seconds that a text stands for. -/
def secondsOfText (s : Setting) (text : String) : Except Failure Document :=
  match Literal.readFloat? text.toList with
  | some x => .ok (.float x)
  | none => .error (.within (.notNumeric s text) (.fault (.scalar (.float text))))

/-- The integer that a text stands for. -/
def integerOfText (s : Setting) (text : String) : Except Failure Document :=
  match Literal.readInteger 10 text.toList with
  | .ok i => .ok (.int i)
  | .error .malformed =>
    .error (.within (.notNumeric s text) (.fault (.scalar (.integer 10 text))))
  | .error (.tooLong n) =>
    .error (.within (.notNumeric s text) (.fault (.scalar (.integerTooLong n))))

/-- The flag that a text stands for. -/
def flagOfText (s : Setting) (text : String) : Except Failure Document :=
  let word := Text.lower (Text.trim text)
  if setWords.contains word then .ok (.bool true)
  else if unsetWords.contains word then .ok (.bool false)
  else .error (.fault (.config (.flagText s text)))

/-- The value that the text of an override stands for. -/
def ofText (s : Setting) (text : String) : Except Failure Document :=
  match s with
  | .timeout _ _ => secondsOfText s text
  | .volumeSize => integerOfText s text
  | .attachLimit => flagOfText s text
  | _ => .ok (.text text)

/-- The value that an override stands for; only texts are read. -/
def ofOverride (s : Setting) : Document → Except Failure Document
  | .text t => s.ofText t
  | other => .ok other

/-- The value that an override under any name stands for; under a name that is no setting it is
taken as it is. -/
def ofNamedOverride (name : String) (value : Document) : Except Failure Document :=
  match ofKey? name with
  | some s => s.ofOverride value
  | none => .ok value

end Setting

end PluginHarness
