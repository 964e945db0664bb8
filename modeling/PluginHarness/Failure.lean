import PluginHarness.Config.Setting
import PluginHarness.Document
import PluginHarness.Secrets.Operation
import PluginHarness.Signal
import PluginHarness.Text.Encoding
import PluginHarness.Text.Words

/-!
# Failures

What can go wrong, as causes. A failure is a fault with nothing behind it, or a context around
the failure that caused it, or several failures of one removal round. The wording of a context
contains the wording of its cause.

An interruption is a failure that no handler of ordinary failures stops. A configuration failure
is one that ends a run before it starts.

## Main definitions

* `Fault`: what goes wrong by itself; `Context`: what a failure means where it is caught.
* `Failure`: a fault, possibly inside contexts.
* `Failure.message`, `Failure.cause?`: the wording and what is behind it.
* `Failure.isInterrupt`, `Failure.isConfiguration`, `Failure.isSystem`: the classes that
  handlers tell apart.
-/

namespace PluginHarness

/-- A time limit in seconds, if there is one. -/
abbrev Deadline := Option Number

/-- A time limit as it is written. -/
def Deadline.text (d : Deadline) : String := (d.map Number.text).getD "None"

/-! ## Faults of the host -/

/-- An error that the operating system reports, with the path it is about. -/
structure SystemFault where
  number : Int
  text : String
  path : Option String
  deriving DecidableEq, Repr

namespace SystemFault

/-- Nothing is at the path. -/
def missing (path : String) : SystemFault := ⟨2, "No such file or directory", some path⟩

/-- Something is at the path already. -/
def alreadyExists (path : String) : SystemFault := ⟨17, "File exists", some path⟩

/-- Something other than a directory is where a directory is needed. -/
def notDirectory (path : String) : SystemFault := ⟨20, "Not a directory", some path⟩

/-- A directory is where something else is needed. -/
def isDirectory (path : String) : SystemFault := ⟨21, "Is a directory", some path⟩

/-- The path cannot be used like this. -/
def invalid (path : String) : SystemFault := ⟨22, "Invalid argument", some path⟩

/-- The path or a part of it is too long. -/
def nameTooLong (path : String) : SystemFault := ⟨36, "File name too long", some path⟩

/-- A directory still has entries. -/
def notEmpty (path : String) : SystemFault := ⟨39, "Directory not empty", some path⟩

/-- Too many links had to be followed. -/
def linkLoop (path : String) : SystemFault :=
  ⟨40, "Too many levels of symbolic links", some path⟩

/-- The error in words. -/
def message (f : SystemFault) : String :=
  "[Errno " ++ toString f.number ++ "] " ++ f.text ++
    ((f.path.map fun p => ": " ++ Text.quoted p).getD "")

end SystemFault

/-! ## Faults of outside parties -/

/-- How a failure of an outside party is handled. -/
inductive ForeignClass where
  /-- No handler of ordinary failures stops it. -/
  | interrupt
  /-- It counts as an error of the operating system. -/
  | system
  /-- It says that something is not supported. -/
  | unsupported
  /-- It counts as malformed configuration. -/
  | configuration
  /-- It counts as malformed credentials. -/
  | secrets
  | ordinary
  deriving DecidableEq, Repr

/-- A failure that a callback, a dial or a connection reports in its own words. -/
structure Foreign where
  reaction : ForeignClass
  kind : String
  text : String
  deriving DecidableEq, Repr

/-! ## Faults of values -/

/-- Why a scalar is not of the kind that its tag says. -/
inductive ScalarFault where
  /-- Not one of the words for set and not set. -/
  | flag (word : String)
  /-- A number without any character. -/
  | emptyNumber
  | integer (base : Nat) (text : String)
  | integerTooLong (digits : Nat)
  | float (text : String)
  | calendar (f : CalendarFault)
  /-- Not of the form of a date or a moment. -/
  | timestamp
  /-- No character has this number. -/
  | codePoint (n : Nat)
  deriving DecidableEq, Repr

namespace ScalarFault

/-- The fault in words. -/
def message : ScalarFault → String
  | .flag word => Text.quoted word
  | .emptyNumber => "string index out of range"
  | .integer base text =>
    "invalid literal for int() with base " ++ toString base ++ ": " ++ Text.quoted text
  | .integerTooLong digits =>
    "Exceeds the limit (4300 digits) for integer string conversion: value has " ++
      toString digits ++ " digits; use sys.set_int_max_str_digits() to increase the limit"
  | .float text => "could not convert string to float: " ++ Text.quoted text
  | .calendar f => f.message
  | .timestamp => "'NoneType' object has no attribute 'groupdict'"
  | .codePoint n =>
    if n < Nat.pow 2 31 then "chr() arg not in range(0x110000)"
    else "signed integer is greater than maximum"

end ScalarFault

/-- Why a reference inside a configuration file, or the value that holds it, is refused. -/
inductive ReferenceFault where
  /-- The text of a reference is not well formed. -/
  | grammar
  /-- A key is not a text, a number, a flag or a byte sequence. -/
  | keyKind
  /-- A value is of a kind that configurations cannot hold. -/
  | valueKind
  /-- A value that has to be given is not. -/
  | missing
  /-- The key that is referred to does not exist. -/
  | unknownKey
  /-- The value that is referred to has to be given and is not. -/
  | toMissing
  /-- The reference leads nowhere, or back to itself. -/
  | unresolvable
  /-- The kind of reference is not known. -/
  | unknownResolver
  deriving DecidableEq, Repr

namespace ReferenceFault

/-- The name of the fault. -/
def kind : ReferenceFault → String
  | .grammar => "GrammarParseError"
  | .keyKind => "KeyValidationError"
  | .valueKind => "UnsupportedValueType"
  | .missing => "MissingMandatoryValue"
  | .unknownKey => "InterpolationKeyError"
  | .toMissing => "InterpolationToMissingValueError"
  | .unresolvable => "InterpolationResolutionError"
  | .unknownResolver => "UnsupportedInterpolationType"

/-- The fault in words. -/
def message (f : ReferenceFault) : String := "<omegaconf " ++ f.kind ++ ">"

end ReferenceFault

/-! ## Faults of configuration and credentials -/

/-- Why configuration values are refused. -/
inductive ConfigFault where
  | notText (s : Setting)
  | addressMissing
  | notSeconds (s : Setting)
  | negative (s : Setting)
  | sizeNotInteger
  | sizeNotPositive
  | notFlag
  | parametersNotMapping
  | parametersNotText
  /-- The text of a flag setting is no word for set or not set. -/
  | flagText (s : Setting) (text : String)
  /-- The configuration file holds something other than a mapping. -/
  | notMapping (file : String)
  /-- The parameters file holds a value of this kind. -/
  | parametersKind (path kind : String)
  /-- A parameter, given as it is quoted, holds nothing or a collection. -/
  | parameterValue (path key : String)
  deriving DecidableEq, Repr

namespace ConfigFault

/-- The fault in words. -/
def message : ConfigFault → String
  | .notText s => s.key ++ " must be a string"
  | .addressMissing => "address is required"
  | .notSeconds s => s.key ++ " must be a number of seconds"
  | .negative s => s.key ++ " must not be negative"
  | .sizeNotInteger => "test_volume_size must be an integer"
  | .sizeNotPositive => "test_volume_size must be positive"
  | .notFlag => "test_node_volume_attach_limit must be a boolean"
  | .parametersNotMapping => "test_volume_parameters must be a mapping"
  | .parametersNotText => "test_volume_parameters entries must be strings"
  | .flagText s text => s.key ++ " must be a boolean, got " ++ Text.quoted text
  | .notMapping file => file ++ " must contain a mapping"
  | .parametersKind path kind =>
    "test volume parameters in " ++ Text.quoted path ++ " must be a mapping, got " ++ kind
  | .parameterValue path key =>
    "test volume parameter " ++ key ++ " in " ++ Text.quoted path ++ " must be a string"

end ConfigFault

/-- Why credentials are refused. -/
inductive SecretsFault where
  | notMapping (kind : String)
  | operationNotMapping (operation : Operation) (kind : String)
  | valueNotText (operation : Operation) (name : String)
  deriving DecidableEq, Repr

namespace SecretsFault

/-- The fault in words. -/
def message : SecretsFault → String
  | .notMapping kind => "secrets document must be a mapping, got " ++ kind
  | .operationNotMapping o kind => o.key ++ " must be a mapping of strings, got " ++ kind
  | .valueNotText o name => o.key ++ "." ++ name ++ " must be a string value"

end SecretsFault

/-! ## Failures of this program, stated by an outside party -/

/-- A failure in this program's own terms that an outside party reports as its own. -/
inductive Stated where
  | location (timedOut : Bool) (text path strategy : String)
  | dial (address reason : String)
  | precondition (step text : String)
  deriving DecidableEq, Repr

/-- Who is given a name that it does not know. -/
inductive Owner where
  | config
  | secrets
  | commandLine
  deriving DecidableEq, Repr

namespace Owner

/-- The owner as messages name it. -/
def text : Owner → String
  | .config => "Config.__init__()"
  | .secrets => "CSISecrets.__init__()"
  | .commandLine => "SanityCLI.run()"

end Owner

/-! ## Faults, contexts, failures -/

/-- What goes wrong by itself. -/
inductive Fault where
  | foreign (f : Foreign)
  | stated (s : Stated)
  | system (f : SystemFault)
  /-- A directory was replaced by a link while it was being removed. -/
  | linkInstead
  /-- Something other than a directory is where a place should be. -/
  | occupied (path : String)
  /-- A path contains the null character. -/
  | embeddedNull
  /-- A location is no text. -/
  | notAPath (kind : String)
  | undecodable (f : Text.DecodeFault)
  /-- A file is not well formed. -/
  | malformed
  | scalar (f : ScalarFault)
  | reference (f : ReferenceFault)
  /-- A configuration file holds a single value of this kind. -/
  | loadedKind (kind : String)
  /-- A configuration file holds a text that is itself the text of a single value. -/
  | loadedText
  /-- The name of a file is of this kind and no text. -/
  | notAFileName (kind : String)
  /-- An integer has too many digits to be written. -/
  | unwritable
  | config (f : ConfigFault)
  | secrets (f : SecretsFault)
  /-- No address is configured to dial. -/
  | noAddress
  /-- A channel did not become ready in time. -/
  | channelTimeout
  | split (f : Text.SplitFault)
  /-- A command line has no words. -/
  | blankCommand
  | deadlineExpired (argv : List String) (deadline : Deadline)
  | exited (argv : List String) (code : Int)
  | unknownOperation (name : String)
  | unknownName (owner : Owner) (name : String)
  | repeatedName (name : String)
  /-- A configuration never changes. -/
  | frozen (name : String)
  /-- The name of a level stands for something that is none. -/
  | notALevel (value : String)
  /-- A level is no text. -/
  | levelKind (kind : String)
  deriving DecidableEq, Repr

namespace Fault

/-- The fault in words. -/
def message : Fault → String
  | .foreign f => f.text
  | .stated (.location _ text _ _) => text
  | .stated (.dial address reason) =>
    "failed to connect to CSI driver at " ++ address ++ ": " ++ reason
  | .stated (.precondition step text) => step ++ ": " ++ text
  | .system f => f.message
  | .linkInstead => "Cannot call rmtree on a symbolic link"
  | .occupied path => "Target location " ++ path ++ " is not a directory"
  | .embeddedNull => "embedded null byte"
  | .notAPath kind => "remove: path should be string, bytes or os.PathLike, not " ++ kind
  | .undecodable f => f.message
  | .malformed => "<yaml error>"
  | .scalar f => f.message
  | .reference f => f.message
  | .loadedKind kind => "Invalid loaded object type: " ++ kind
  | .loadedText => ""
  | .notAFileName kind => "expected str, bytes or os.PathLike object, not " ++ kind
  | .unwritable =>
    "Exceeds the limit (4300 digits) for integer string conversion; " ++
      "use sys.set_int_max_str_digits() to increase the limit"
  | .config f => f.message
  | .secrets f => f.message
  | .noAddress => "failed to connect to CSI driver at : no address configured"
  | .channelTimeout => ""
  | .split .unclosedQuotation => "No closing quotation"
  | .split .danglingEscape => "No escaped character"
  | .blankCommand => "command is blank"
  | .deadlineExpired argv deadline =>
    "Command '" ++ Text.quotedList argv ++ "' timed out after " ++ deadline.text ++ " seconds"
  | .exited argv code => "Command '" ++ Text.quotedList argv ++ "' " ++ exitText code
  | .unknownOperation name => Text.quoted ("unknown CSI operation: " ++ name)
  | .unknownName owner name =>
    owner.text ++ " got an unexpected keyword argument " ++ Text.quoted name
  | .repeatedName name =>
    "csi_sanity.config.Config() got multiple values for keyword argument " ++ Text.quoted name
  | .frozen name => "cannot assign to field " ++ Text.quoted name
  | .notALevel value => "Unknown level: " ++ Text.quoted value
  | .levelKind kind => "'" ++ kind ++ "' object has no attribute 'upper'"

end Fault

/-- A step of the preparation of a scenario. -/
inductive Step where
  | secrets
  /-- Connecting to the plugin at an address. -/
  | node (address : String)
  /-- Connecting to the plugin's controller at an address. -/
  | controller (address : String)
  /-- Creating a place by a described strategy. -/
  | place (p : Place) (path strategy : String)
  deriving DecidableEq, Repr

namespace Step

/-- The name of a step. -/
def name : Step → String
  | .secrets => "load secrets"
  | .node _ | .controller _ => "connect"
  | .place p _ _ => "create " ++ p.name ++ " path"

/-- What is said when a step fails for the reason given. -/
def explain (step : Step) (reason : String) : String :=
  match step with
  | .secrets => reason
  | .node address => "CSI driver at " ++ Text.quoted address ++ ": " ++ reason
  | .controller address => "CSI driver controller at " ++ Text.quoted address ++ ": " ++ reason
  | .place _ path strategy =>
    "failed to create " ++ Text.quoted path ++ " using " ++ strategy ++ ": " ++ reason

end Step

/-- Why a command did not do its work. -/
inductive CommandIssue where
  /-- It cannot be split into words. -/
  | invalid
  /-- It was still running at its deadline. -/
  | late (deadline : Deadline)
  /-- It could not be started or reported failure. -/
  | failed
  deriving DecidableEq, Repr

/-- What a failure means where it is caught. -/
inductive Context where
  /-- The parameters file cannot be read. -/
  | parametersUnreadable (path : String)
  /-- The parameters file is not well formed. -/
  | parametersMalformed (path : String)
  | configMalformed (file : String)
  | configUnreadable (file : String)
  | configUnresolved (file : String)
  /-- The text of a numeric setting is no number. -/
  | notNumeric (s : Setting) (text : String)
  | secretsUnreadable (path : String)
  | secretsMalformed (path : String)
  /-- A command line did not do its work for a path. -/
  | command (issue : CommandIssue) (action : Action) (line path : String)
  | dial (address : String) (deadline : Deadline)
  | precondition (step : Step)
  deriving DecidableEq, Repr

/-- How a command is described. -/
def describeCommand (command : String) : String := "command " ++ Text.quoted command

namespace Context

/-- What is said, given the wording of the cause. -/
def message (c : Context) (cause : String) : String :=
  match c with
  | .parametersUnreadable path => "failed to read file " ++ Text.quoted path ++ ": " ++ cause
  | .parametersMalformed path => "error unmarshaling yaml in " ++ Text.quoted path ++ ": " ++ cause
  | .configMalformed file => "Invalid YAML in " ++ file ++ ": " ++ cause
  | .configUnreadable file => "Failed to read config file " ++ file ++ ": " ++ cause
  | .configUnresolved file =>
    "Configuration variable resolution error in " ++ file ++ ": " ++ cause
  | .notNumeric s text => s.key ++ " must be numeric, got " ++ Text.quoted text
  | .secretsUnreadable path => "failed to read file " ++ Text.quoted path ++ ": " ++ cause
  | .secretsMalformed path => "error unmarshaling yaml in " ++ Text.quoted path ++ ": " ++ cause
  | .command issue action line _ =>
    match issue with
    | .invalid =>
      "path " ++ action.noun ++ " command " ++ Text.quoted line ++ " is invalid: " ++ cause
    | .late deadline =>
      "path " ++ action.noun ++ " command " ++ line ++ " timed out after " ++ deadline.text ++ "s"
    | .failed => "path " ++ action.noun ++ " command " ++ line ++ " failed: " ++ cause
  | .dial address deadline =>
    "failed to connect to CSI driver at " ++ address ++ ": connection timed out after " ++
      deadline.text ++ "s"
  | .precondition step => step.name ++ ": " ++ step.explain cause

end Context

/-- A fault, possibly inside contexts, or several failures of one removal round. -/
inductive Failure where
  | fault (f : Fault)
  | within (c : Context) (cause : Failure)
  | cleanup (errors : List Failure)

namespace Failure

instance : Inhabited Failure := ⟨.fault .blankCommand⟩

instance : Coe Fault Failure := ⟨.fault⟩

mutual

/-- The failure in words. -/
def message : Failure → String
  | .fault f => f.message
  | .within c cause => c.message cause.message
  | .cleanup errors =>
    "teardown completed with " ++ toString errors.length ++ " error(s): " ++
      "; ".intercalate (messages errors)

/-- Each failure in words. -/
def messages : List Failure → List String
  | [] => []
  | e :: rest => e.message :: messages rest

end

/-- The failure behind this one. -/
def cause? : Failure → Option Failure
  | .within _ cause => some cause
  | _ => none

/-- No handler of ordinary failures stops it. -/
def isInterrupt : Failure → Bool
  | .fault (.foreign f) => f.reaction == .interrupt
  | _ => false

/-- It ends a run before it starts. -/
def isConfiguration : Failure → Bool
  | .fault (.foreign f) => f.reaction == .configuration || f.reaction == .secrets
  | .fault (.config _) | .fault (.secrets _) => true
  | .within c _ =>
    match c with
    | .parametersUnreadable _ | .parametersMalformed _ | .configMalformed _ | .configUnreadable _
    | .configUnresolved _ | .notNumeric _ _ | .secretsUnreadable _ | .secretsMalformed _ => true
    | _ => false
  | _ => false

/-- It is an error of the operating system. -/
def isSystem : Failure → Bool
  | .fault (.foreign f) => f.reaction == .system
  | .fault (.system _) | .fault .linkInstead | .fault (.occupied _) | .fault (.loadedKind _) => true
  | _ => false

/-- It says that credentials are malformed. -/
def isSecrets : Failure → Bool
  | .fault (.foreign f) => f.reaction == .secrets
  | .fault (.secrets _) => true
  | .within (.secretsUnreadable _) _ | .within (.secretsMalformed _) _ => true
  | _ => false

end Failure

end PluginHarness
