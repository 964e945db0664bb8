import PluginHarness.Location.Place

/-!
# Settings

The settings that a configuration file, a command line or a test run can give, by name. Settings
of one kind are listed in the order in which they are checked.

## Main definitions

* `Setting`: the eighteen settings.
* `Setting.key`: the name of a setting; `Setting.ofKey?`: the setting of a name.
* `Setting.texts`, `Setting.timeouts`, `Setting.all`: settings by kind.

## Main results

* `Setting.ofKey?_eq_some_iff`: a name stands for at most one setting.
* `Setting.mem_all`: every setting is listed.
-/

namespace PluginHarness

/-- A setting that can be loaded. -/
inductive Setting where
  | address
  | controllerAddress
  | path (place : Place)
  | secretsFile
  | parametersFile
  | junitDirectory
  | command (action : Action) (place : Place)
  | timeout (action : Action) (place : Place)
  | volumeSize
  | parameters
  | attachLimit
  deriving DecidableEq, Repr

namespace Setting

/-- The name of a setting. -/
def key : Setting → String
  | .address => "address"
  | .controllerAddress => "controller_address"
  | .path .target => "target_path"
  | .path .staging => "staging_path"
  | .secretsFile => "secrets_file"
  | .parametersFile => "test_volume_parameters_file"
  | .junitDirectory => "junit_directory"
  | .command .creation .target => "create_target_path_cmd"
  | .command .creation .staging => "create_staging_path_cmd"
  | .command .removal .target => "remove_target_path_cmd"
  | .command .removal .staging => "remove_staging_path_cmd"
  | .timeout .creation .target => "create_target_path_cmd_timeout"
  | .timeout .creation .staging => "create_staging_path_cmd_timeout"
  | .timeout .removal .target => "remove_target_path_cmd_timeout"
  | .timeout .removal .staging => "remove_staging_path_cmd_timeout"
  | .volumeSize => "test_volume_size"
  | .parameters => "test_volume_parameters"
  | .attachLimit => "test_node_volume_attach_limit"

/-- The settings that hold a text. -/
def texts : List Setting :=
  [.address, .controllerAddress, .path .target, .path .staging, .secretsFile, .parametersFile,
   .junitDirectory, .command .creation .target, .command .creation .staging,
   .command .removal .target, .command .removal .staging]

/-- The settings that hold a number of seconds. -/
def timeouts : List Setting :=
  [.timeout .creation .target, .timeout .creation .staging, .timeout .removal .target,
   .timeout .removal .staging]

/-- All settings. -/
def all : List Setting := texts ++ timeouts ++ [.volumeSize, .parameters, .attachLimit]

/-- The setting with this name. -/
def ofKey? (name : String) : Option Setting := all.find? fun s => s.key == name

/-- Every setting is listed. -/
theorem mem_all (s : Setting) : s ∈ all := by
  cases s with
  | path p => cases p <;> decide
  | command a p => cases a <;> cases p <;> decide
  | timeout a p => cases a <;> cases p <;> decide
  | _ => decide

/-- Different settings have different names. -/
theorem key_injective {s t : Setting} (h : s.key = t.key) : s = t := by
  have distinct : ∀ a ∈ all, ∀ b ∈ all, a.key = b.key → a = b := by decide
  exact distinct s (mem_all s) t (mem_all t) h

/-- A name stands for a setting exactly when it is that setting's name. -/
theorem ofKey?_eq_some_iff {name : String} {s : Setting} :
    ofKey? name = some s ↔ s.key = name := by
  constructor
  · intro h
    have := List.find?_some h
    simpa using this
  · rintro rfl
    cases h : ofKey? s.key with
    | none => simpa using List.find?_eq_none.1 h s (mem_all s)
    | some t =>
      have : t.key = s.key := by simpa using List.find?_some h
      rw [key_injective this]

end Setting

end PluginHarness
