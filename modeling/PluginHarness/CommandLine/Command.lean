import PluginHarness.CommandLine.Arguments
import PluginHarness.Suite.Lifecycle

/-!
# Commands of the command line

The command `run` makes a configuration from a file and the arguments, runs the suite, and exits
with 0 when all scenarios passed and with 1 when one did not. Malformed configuration exits with 2
and a complaint, before any scenario; with the debug variable set, the failure passes as it is.

The command `version` prints the version.

## Main definitions

* `Options`: what the arguments of a run say; `Options.ofNamed`: reads them.
* `CommandLine.run`: the command `run`; `Exit`: how it ends.
* `Command`: a command; `Command.ofArguments?`: reads it.
-/

namespace PluginHarness

/-- The version of the program. -/
def version : String := "0.4.0"

namespace CommandLine

/-- The variable of the environment that lets configuration failures pass. -/
def debugVariable : String := "CSI_SANITY_DEBUG"

/-- The settings that an argument gives. -/
def overrideNames : List (String × List Setting) :=
  [("address", [.address]),
   ("controller_address", [.controllerAddress]),
   ("target_path", [.path .target]),
   ("staging_path", [.path .staging]),
   ("secrets_file", [.secretsFile]),
   ("test_volume_size", [.volumeSize]),
   ("test_volume_parameters_file", [.parametersFile]),
   ("test_node_volume_attach_limit", [.attachLimit]),
   ("junit_directory", [.junitDirectory]),
   ("create_target_path_cmd", [.command .creation .target]),
   ("create_staging_path_cmd", [.command .creation .staging]),
   ("create_path_cmd_timeout", [.timeout .creation .target, .timeout .creation .staging]),
   ("remove_target_path_cmd", [.command .removal .target]),
   ("remove_staging_path_cmd", [.command .removal .staging]),
   ("remove_path_cmd_timeout", [.timeout .removal .target, .timeout .removal .staging])]

/-- The arguments that are no settings: the configuration file, the choice of scenarios and the
threshold of the log. -/
def otherNames : List String := ["config", "tags", "log_level"]

/-- What the arguments of a run say. -/
structure Options where
  /-- The configuration file. -/
  config : Option Document
  overrides : List (Document × Document)
  /-- Which scenarios are chosen. -/
  tags : Document
  logLevel : Document

namespace Options

/-- An argument that counts as given: a null does not. -/
def given? (named : List (String × Document)) (name : String) : Option Document :=
  match Entries.get? name named with
  | some .null => none
  | other => other

/-- The overrides that the arguments give. -/
def overridesOf (named : List (String × Document)) : List (Document × Document) :=
  overrideNames.flatMap fun (name, settings) =>
    match given? named name with
    | none => []
    | some d => settings.map fun s => (.text s.key, d)

/-- Whether an argument has this name. -/
def isKnown (name : String) : Bool :=
  otherNames.contains name || (overrideNames.any fun o => o.1 == name)

/-- Reads the arguments; the first name that is unknown is refused. -/
def ofNamed (named : List (String × Document)) : Except Failure Options :=
  match named.find? fun a => !isKnown a.1 with
  | some (name, _) => .error (.fault (.unknownName .commandLine name))
  | none => .ok {
      config := given? named "config"
      overrides := overridesOf named
      tags := (Entries.get? "tags" named).getD .null
      logLevel := (Entries.get? "log_level" named).getD (.text "info") }

/-- The threshold of the log. -/
def threshold (o : Options) : Except Failure Level :=
  match o.logLevel with
  | .text name => Threshold.ofName name
  | other => .error (.fault (.levelKind other.kindName))

/-- The further arguments of the suite. -/
def suiteArguments (o : Options) : List Document :=
  if o.tags.truthy then [.text "--tags", o.tags] else []

end Options

/-- How a run ends: its exit code, and what is said about it. -/
structure Exit where
  code : Nat
  complaint : Option String
  deriving DecidableEq, Repr

namespace Exit

/-- The end of a run whose scenarios passed or not. -/
def ofResult (passed : Bool) : Exit := ⟨if passed then 0 else 1, none⟩

/-- The end of a run with malformed configuration. -/
def malformed (e : Failure) : Exit := ⟨2, some ("Configuration error: " ++ e.message)⟩

end Exit

/-- Makes the configuration and runs the suite. Gives whether all scenarios passed. -/
def runSuite (o : Options) (features : List Document) (list : List Scenario) :
    Attempt Observed Bool := do
  let config ← Observed.onWorld (Config.build o.config o.overrides [])
  let paths := if features.isEmpty then Suite.defaultPaths else features
  Suite.launch config paths o.suiteArguments .channel list

/-- The command `run`. -/
def run (o : Options) (features : List Document) (list : List Scenario) :
    Attempt Observed Exit := do
  let _ ← Attempt.ofExcept o.threshold
  let debug := (← Attempt.state).1.environment.lookup? debugVariable == some "1"
  (Exit.ofResult <$> runSuite o features list).handle fun e =>
    if e.isConfiguration && !debug then some (return Exit.malformed e) else none

/-- What a run writes for its user: the records that the log shows, each after `lead`, and the
complaint. -/
def notes (lead : String) (threshold : Level) (records : List Record) (exit? : Option Exit) :
    List String :=
  (shown threshold records).map (Record.line lead) ++ (exit?.bind Exit.complaint).toList

/-- A command with its arguments. -/
inductive Command where
  | version
  | run (args : Arguments)

/-- Reads a command. -/
def Command.ofArguments? : List String → Option Command
  | "version" :: _ => some .version
  | "run" :: rest => some (.run (Arguments.ofList rest))
  | _ => none

end CommandLine

end PluginHarness
