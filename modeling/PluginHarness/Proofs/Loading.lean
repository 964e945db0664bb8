import PluginHarness.Proofs.Config.Parameters
import PluginHarness.Proofs.Secrets.Routing
import PluginHarness.Proofs.Setup.Credentials
import PluginHarness.Proofs.Startup
import PluginHarness.Proofs.Text.Encoding

/-!
# Input files that cannot be loaded

Credentials and parameters are loaded from files in the same stages. The file is opened and read,
its bytes are decoded, the text is parsed, and the document is taken apart. Each loader declares one
class of failures for whatever may be wrong, and its callers rely on that class: a setup turns
failures about credentials into one of its steps, and the command line ends with status 2 for
failures about the configuration.

Opening and parsing have handlers that put what goes wrong there into the declared class, and a
document that is refused is in it already. Decoding has none. Bytes that are no text, and a path
that cannot be opened because it has a null character in it, fail in words of their own, and no
caller is prepared for them. `fails_as_declared` says that this is the only gap: a loader keeps to
its class for all files that can be read as text, and for no others.

## What is taken for granted

Parsing may end in a failure of its own as well when a scalar is not of the kind that its tag says,
and a document may hold an integer that is too long to be written. Both are left out by `Parses`;
the texts that cannot be written are treated with the credentials.

Parameters are decoded in pieces, all of them before the text is parsed. A parser that is handed the
pieces as they come may find the text malformed before it asks for the one that is no text. The main
result does not depend on which is done. What it says of files that are no text, it says of
credentials, which are decoded at once, and of parameters in one piece.

## Main definitions

* `readWith`: the document in a file, by a way of decoding; `Reads`: the ways in which it ends.
* `IsText`: a file that can be read as text, if it can be read at all; `IsOnePiece`: one that is
  read in one piece.
* `FailsAs`: every failure is of the declared class.

## Main results

* `failsAs_loaded_iff`: a loader keeps to its class exactly for files that are text.
* `Session.setup_of_parses`, `CommandLine.opening_of_lacks`, `CommandLine.run_of_opening`: what
  callers make of the failures.
* `fails_as_declared`: all of this together.
-/

namespace PluginHarness

open Attempt World

/-! ### Documents in files -/

/-- A way of decoding bytes. -/
abbrev Decoder := List UInt8 → Except Text.DecodeFault (List Char)

/-- Reads the document in a file. -/
def readWith (decode : Decoder) (t : FileTree) (path : String) : Except Fault Document := do
  let bytes ← t.read path
  let text ← (decode bytes).mapError .undecodable
  Yaml.readText .standard (Text.unifyNewlines text)

theorem Secrets.readFile_eq : readFile = readWith Text.decode := rfl

theorem Config.readParameters_eq : readParameters = readWith Text.decodePieces := rfl

/-- The ways in which reading the document in a file ends. -/
inductive Reads (decode : Decoder) (t : FileTree) (path : String) : Except Fault Document → Prop
  /-- The path has a null character in it. -/
  | nullInPath (h : '\x00' ∈ path.toList) : Reads decode t path (.error .embeddedNull)
  /-- Nothing can be read at the path. -/
  | unreadable {f : SystemFault} (hread : t.read path = .error (.system f)) :
      Reads decode t path (.error (.system f))
  /-- The bytes are no text. -/
  | undecodable {bytes : List UInt8} {f : Text.DecodeFault} (hread : t.read path = .ok bytes)
      (hdecode : decode bytes = .error f) : Reads decode t path (.error (.undecodable f))
  /-- The text is parsed, with this result. -/
  | parsed {bytes : List UInt8} {text : List Char} (hread : t.read path = .ok bytes)
      (hdecode : decode bytes = .ok text) :
      Reads decode t path (Yaml.readText .standard (Text.unifyNewlines text))

variable {decode : Decoder} {t : FileTree} {path : String}

/-- Only a null character in the path makes it no path at all. -/
theorem FileTree.read_eq_embeddedNull_iff :
    t.read path = .error .embeddedNull ↔ '\x00' ∈ path.toList := by
  rw [← List.contains_iff_mem]
  unfold read find locate
  rcases hr : refused? path with _ | f <;> unfold refused? at hr <;> split_ifs at hr with hnull
  · refine ⟨fun h => ?_, fun h => absurd h hnull⟩
    dsimp only at h
    rcases hw : walk t true maxLinks (t.start path) (Path.parts path) with f | ⟨loc, _ | _ | _⟩ <;>
      rw [hw] at h <;> cases h
  · cases hr
    exact ⟨fun _ => hnull, fun _ => rfl⟩
  all_goals
    cases hr
    exact ⟨fun h => (nomatch h), fun h => absurd h hnull⟩

theorem FileTree.noNull_of_read {r : Except Fault (List UInt8)} (hread : t.read path = r)
    (hr : r ≠ .error .embeddedNull) : '\x00' ∉ path.toList :=
  fun h => hr (hread.symm.trans (read_eq_embeddedNull_iff.mpr h))

theorem readWith_of_error {f : Fault} (hread : t.read path = .error f) :
    readWith decode t path = .error f := by
  simp only [readWith, hread]
  rfl

theorem readWith_of_undecodable {bytes : List UInt8} {f : Text.DecodeFault}
    (hread : t.read path = .ok bytes) (hdecode : decode bytes = .error f) :
    readWith decode t path = .error (.undecodable f) := by
  simp only [readWith, hread, bind, Except.bind, hdecode, Except.mapError]

theorem readWith_of_text {bytes : List UInt8} {text : List Char}
    (hread : t.read path = .ok bytes) (hdecode : decode bytes = .ok text) :
    readWith decode t path = Yaml.readText .standard (Text.unifyNewlines text) := by
  simp only [readWith, hread, bind, Except.bind, hdecode, Except.mapError]

/-- **The course of reading.** -/
theorem readWith_course (decode : Decoder) (t : FileTree) (path : String) :
    Reads decode t path (readWith decode t path) := by
  rcases hread : t.read path with f | bytes
  · rw [readWith_of_error hread]
    rcases FileTree.read_error hread with rfl | ⟨g, rfl⟩
    · exact .nullInPath (FileTree.read_eq_embeddedNull_iff.mp hread)
    · exact .unreadable hread
  rcases hdecode : decode bytes with f | text
  · rw [readWith_of_undecodable hread hdecode]
    exact .undecodable hread hdecode
  · rw [readWith_of_text hread hdecode]
    exact .parsed hread hdecode

/-- A file that can be read as text, if it can be read at all. -/
structure IsText (t : FileTree) (path : String) : Prop where
  noNull : '\x00' ∉ path.toList
  encoded : ∀ bytes, t.read path = .ok bytes → ∃ text, bytes = Text.encoded text

/-- A file that is read in one piece, if it can be read at all. -/
def IsOnePiece (t : FileTree) (path : String) : Prop :=
  ∀ bytes, t.read path = .ok bytes → bytes.length ≤ Text.pieceSize

/-- No scalar in the file is of another kind than its tag says, and what is asked of the document
can be written. -/
structure Parses (decode : Decoder) (writable : Document → Prop) (t : FileTree) (path : String) :
    Prop where
  noScalar : ∀ f, readWith decode t path ≠ .error (.scalar f)
  writable : ∀ d, readWith decode t path = .ok d → writable d

/-! ### Loaders -/

section Loaders

variable {α : Type}

/-- What a file comes to, by what reading it comes to. There is a context for a file that cannot be
read and one for a text that is not well formed. -/
def loaded (unreadable malformed : Context) (make : Document → Except Failure α) :
    Except Fault Document → Except Failure α
  | .ok d => make d
  | .error (.system f) => .error (.within unreadable (.fault (.system f)))
  | .error .malformed => .error (.within malformed (.fault .malformed))
  | .error f => .error (.fault f)

/-- There is a value, or a failure of the declared class. -/
def FailsAs (declared : Failure → Bool) (r : Except Failure α) : Prop :=
  ∀ e, r = .error e → declared e = true

theorem failsAs_ok (declared : Failure → Bool) (a : α) : FailsAs declared (.ok a) := nofun

theorem failsAs_error_iff {declared : Failure → Bool} {e : Failure} :
    FailsAs declared (.error e : Except Failure α) ↔ declared e = true :=
  ⟨fun h => h e rfl, fun h _ he => Except.error.inj he ▸ h⟩

theorem not_failsAs_error_iff {declared : Failure → Bool} {e : Failure} :
    ¬ FailsAs declared (.error e : Except Failure α) ↔ declared e = false := by
  rw [failsAs_error_iff, Bool.not_eq_true]

/-- The class holds what is put into the contexts, and not what reading ends in by itself. -/
structure Covers (declared : Failure → Bool) (unreadable malformed : Context) : Prop where
  unreadable : ∀ e, declared (.within unreadable e) = true
  malformed : ∀ e, declared (.within malformed e) = true
  embeddedNull : declared (.fault .embeddedNull) = false
  undecodable : ∀ f, declared (.fault (.undecodable f)) = false

/-- **A loader keeps to its class exactly for files that are text**, if its contexts and its
refusals are in the class and the other failures of reading are not. -/
theorem failsAs_loaded_iff {declared : Failure → Bool} {unreadable malformed : Context}
    {make : Document → Except Failure α} {writable : Document → Prop}
    (hdecode : ∀ bytes text, decode bytes = .ok text ↔ bytes = Text.encoded text)
    (hclass : Covers declared unreadable malformed)
    (hmake : ∀ d, writable d → FailsAs declared (make d)) (h : Parses decode writable t path) :
    FailsAs declared (loaded unreadable malformed make (readWith decode t path)) ↔
      IsText t path := by
  obtain ⟨hscalar, hwritable⟩ := h
  have hcourse := readWith_course decode t path
  generalize readWith decode t path = r at hcourse hscalar hwritable ⊢
  cases hcourse with
  | nullInPath hpath =>
    refine failsAs_error_iff.trans ?_
    rw [hclass.embeddedNull]
    exact ⟨nofun, fun ht => absurd hpath ht.noNull⟩
  | @unreadable f hread =>
    have ht : IsText t path :=
      ⟨FileTree.noNull_of_read hread nofun, fun _ hb => nomatch hread.symm.trans hb⟩
    exact ⟨fun _ => ht, fun _ => failsAs_error_iff.mpr (hclass.unreadable _)⟩
  | @undecodable bytes f hread hd =>
    refine failsAs_error_iff.trans ?_
    rw [hclass.undecodable]
    refine ⟨nofun, fun ht => ?_⟩
    obtain ⟨text, htext⟩ := ht.encoded bytes hread
    exact nomatch hd.symm.trans ((hdecode bytes text).mpr htext)
  | @parsed bytes text hread hd =>
    have ht : IsText t path := by
      refine ⟨FileTree.noNull_of_read hread nofun, fun bytes' hb => ⟨text, ?_⟩⟩
      cases hread.symm.trans hb
      exact (hdecode bytes text).mp hd
    refine ⟨fun _ => ht, fun _ => ?_⟩
    rcases hp : Yaml.readText .standard (Text.unifyNewlines text) with f | d
    · rcases Yaml.readText_error hp with rfl | ⟨g, rfl⟩
      · exact failsAs_error_iff.mpr (hclass.malformed _)
      · exact absurd hp (hscalar g)
    · exact hmake d (hwritable d hp)

end Loaders

/-! ### Credentials -/

namespace Secrets

theorem given_eq (path : String) : given path =
    loaded (.secretsUnreadable path) (.secretsMalformed path) fun d =>
      (ofDocument d).mapError fun e =>
        if e.isSecrets then .within (.secretsMalformed path) e else e := by
  funext r
  rcases r with f | d
  · cases f <;> rfl
  · rfl

/-- What a document that can be written is refused for is about credentials. -/
theorem failsAs_ofDocument {d : Document} (hd : Writable d) (path : String) :
    FailsAs Failure.isSecrets ((ofDocument d).mapError fun e =>
      if e.isSecrets then .within (.secretsMalformed path) e else e) := by
  rcases ofDocument_cases hd with ⟨-, f, hf⟩ | ⟨-, s, hs⟩
  · rw [hf]
    exact failsAs_error_iff.mpr rfl
  · rw [hs]
    exact failsAs_ok _ s

/-- Loading credentials fails as declared exactly for files that are text. -/
theorem failsAs_load_iff {path : String} {w : World}
    (h : Parses Text.decode Writable w.files path) :
    FailsAs Failure.isSecrets (load path w).1 ↔ IsText w.files path := by
  obtain ⟨w', hrun⟩ := load_run path w
  rw [hrun, given_eq, readFile_eq]
  exact failsAs_loaded_iff (fun _ _ => Text.decode_eq_ok_iff)
    ⟨fun _ => rfl, fun _ => rfl, rfl, fun _ => rfl⟩ (fun _ hd => failsAs_ofDocument hd path) h

end Secrets

theorem Failure.isConfiguration_of_isSecrets {e : Failure} (h : e.isSecrets = true) :
    e.isConfiguration = true := by
  rcases e with f | ⟨c, cause⟩ | errors
  · cases f with
    | foreign f => simp_all [isSecrets, isConfiguration]
    | secrets f => rfl
    | _ => cases h
  · cases c <;> first | rfl | cases h
  · cases h

/-! ### Parameters -/

namespace Config

theorem loadParameters_apply (path : String) (w : World) : loadParameters path w =
    (loaded (.parametersUnreadable path) (.parametersMalformed path) (parametersOf path)
      (readParameters w.files path), w) := by
  rw [loadParameters, bind_of_ok (state_apply w)]
  rcases readParameters w.files path with f | d
  · cases f <;> rfl
  · rfl

/-- A key that has a text alone has one inside a collection as well. -/
theorem quoted?_isSome {key : Document} (h : key.text?.isSome = true) :
    key.quoted?.isSome = true := by
  cases key with
  | text s => simp [Document.quoted?]
  | date d => simp [Document.quoted?]
  | moment m => simp [Document.quoted?]
  | _ => simpa only [Document.text?] using h

/-- What a document that can be written is refused for is about the configuration. -/
theorem failsAs_parametersOf {d : Document} (hd : Secrets.WritableValue d) (path : String) :
    FailsAs Failure.isConfiguration (parametersOf path d) := by
  unfold parametersOf
  split
  · exact failsAs_ok _ []
  · next entries =>
    intro e he
    rw [parameterEntries_eq] at he
    obtain ⟨entry, -, -, htext, rfl⟩ := Secrets.refused_of_textEntries hd he
    obtain ⟨name, hname⟩ := Option.isSome_iff_exists.mp (quoted?_isSome htext)
    rw [parameterRefusal, hname]
    rfl
  · exact failsAs_error_iff.mpr rfl

/-- Loading parameters fails as declared exactly for files that are text. -/
theorem failsAs_loadParameters_iff {path : String} {w : World}
    (h : Parses Text.decodePieces Secrets.WritableValue w.files path) :
    FailsAs Failure.isConfiguration (loadParameters path w).1 ↔ IsText w.files path := by
  rw [loadParameters_apply, readParameters_eq]
  exact failsAs_loaded_iff (fun _ _ => Text.decodePieces_eq_ok_iff)
    ⟨fun _ => rfl, fun _ => rfl, rfl, fun _ => rfl⟩ (fun _ hd => failsAs_parametersOf hd path) h

end Config

/-! ### A setup -/

/-- A setup puts what a loader declares into its first step, and nothing else. -/
theorem Session.setup_of_parses {session : Session} {w w' : World} (h : session.Stale) {e : Failure}
    (hparses : Parses Text.decode Secrets.Writable w.files session.config.secretsFile)
    (hl : Secrets.load session.config.secretsFile w = (.error e, w')) :
    (IsText w.files session.config.secretsFile →
      setup (session, w) = (.error (.within (.precondition .secrets) e), (session, w'))) ∧
    (¬ IsText w.files session.config.secretsFile →
      setup (session, w) = (.error e, (session, w'))) := by
  have hclass := Secrets.failsAs_load_iff hparses
  rw [hl] at hclass
  have hstage := loadSecrets_of_load_error (s := (session, w)) h hl
  rw [setup_of_secrets_error hstage, ← hclass, not_failsAs_error_iff, failsAs_error_iff]
  exact ⟨fun he => by rw [if_pos he], fun he => by simp [he]⟩

/-! ### The command line -/

namespace Config

/-- The configuration made from a file, overrides and callbacks, before its parameters file is
read. -/
def drafted (named : Option Document) (overrides : List (Document × Document))
    (hooks : List (String × FieldValue)) : Attempt World Config := do
  let values ← merge (← loadFile named) overrides
  match ofValues fun s => some (values s) with
  | .error f => Attempt.fail (.fault (.config f))
  | .ok c => Attempt.ofExcept (c.withHooks hooks)

theorem build_eq (named : Option Document) (overrides : List (Document × Document))
    (hooks : List (String × FieldValue)) :
    build named overrides hooks = drafted named overrides hooks >>= withParametersFile := by
  rw [build, drafted, bind_bind]
  congr 1
  funext file
  rw [bind_bind]
  congr 1
  funext values
  cases ofValues fun s => some (values s) <;> rfl

theorem drafted_respects {T : List Topic} (named : Option Document)
    (overrides : List (Document × Document)) (hooks : List (String × FieldValue)) :
    (drafted named overrides hooks).Respects (Confined T) := by
  refine (loadFile_respects named).bind fun file => (merge_respects file overrides).bind
    fun values => ?_
  split
  · exact respects_fail _
  · exact respects_ofExcept _

variable {c : Config} {w : World}

theorem withParametersFile_of_error (h : c.parametersFile ≠ "") {e : Failure}
    (hl : loadParameters c.parametersFile w = (.error e, w)) :
    c.withParametersFile w = (.error e, w) := by
  rw [withParametersFile, if_neg h, bind_of_error hl]

/-- Reading the parameters file leaves the names of both files as they are. -/
theorem withParametersFile_of_ok
    (h : c.parametersFile = "" ∨ ∃ m, loadParameters c.parametersFile w = (.ok m, w)) :
    ∃ c', c.withParametersFile w = (.ok c', w) ∧ c'.parametersFile = c.parametersFile ∧
      c'.secretsFile = c.secretsFile := by
  by_cases hf : c.parametersFile = ""
  · refine ⟨c, ?_, rfl, rfl⟩
    rw [withParametersFile, if_pos hf]
    rfl
  · obtain ⟨m, hl⟩ := h.resolve_left hf
    refine ⟨{ c with parameters := Entries.insertAll c.parameters m }, ?_, rfl, rfl⟩
    rw [withParametersFile, if_neg hf, bind_of_ok hl]
    rfl

end Config

namespace CommandLine

variable {o : Options} {features : List Document} {obs : Observed} {c : Config} {w : World}

/-- A parameters file that cannot be loaded ends the opening. -/
theorem opening_of_parameters
    (hdraft : Config.drafted o.config o.overrides [] obs.1 = (.ok c, w))
    (hfile : c.parametersFile ≠ "") {e : Failure}
    (hl : Config.loadParameters c.parametersFile w = (.error e, w)) :
    opening o features obs = (.error e, (w, obs.2)) := by
  have hbuild : Config.build o.config o.overrides [] obs.1 = (.error e, w) := by
    rw [Config.build_eq, bind_of_ok hdraft, Config.withParametersFile_of_error hfile hl]
  exact bind_of_error (by rw [Observed.onWorld, on_apply, hbuild])

/-- With its parameters, a credentials file that cannot be loaded ends the opening. -/
theorem opening_of_secrets
    (hdraft : Config.drafted o.config o.overrides [] obs.1 = (.ok c, w))
    (hparameters : c.parametersFile = "" ∨
      ∃ m, Config.loadParameters c.parametersFile w = (.ok m, w))
    (hfile : c.secretsFile ≠ "") {e : Failure} {w' : World}
    (hl : Secrets.load c.secretsFile w = (.error e, w')) :
    opening o features obs = (.error e, (w', obs.2)) := by
  obtain ⟨c', hc', hparameters', hfile'⟩ := Config.withParametersFile_of_ok hparameters
  -- the parameters file is read a second time, in the same world
  obtain ⟨c'', hc'', -, hfile''⟩ := Config.withParametersFile_of_ok (hparameters' ▸ hparameters)
  rw [← hfile', ← hfile''] at hfile hl
  have hbuild : Config.build o.config o.overrides [] obs.1 = (.ok c', w) := by
    rw [Config.build_eq, bind_of_ok hdraft, hc']
  have hprepare : Suite.prepareConfig c' w = (.error e, w') := by
    rw [Suite.prepareConfig, bind_of_ok hc'', if_pos hfile]
    exact bind_of_error hl
  refine (bind_of_ok (by rw [Observed.onWorld, on_apply, hbuild])).trans ?_
  exact bind_of_error (by rw [Observed.onWorld, on_apply, hprepare])

/-- How the command ends when there is no session to run scenarios in. -/
theorem run_of_opening {level : Level} (hlevel : o.threshold = .ok level) (list : List Scenario)
    {e : Failure} {obs' : Observed} (hopen : opening o features obs = (.error e, obs')) :
    run o features list obs =
      if e.isConfiguration = true ∧ obs.1.environment.lookup? debugVariable ≠ some "1" then
        (.ok ⟨2, some ("Configuration error: " ++ e.message)⟩, obs')
      else (.error e, obs') := by
  have hsuite : runSuite o features list obs = (.error e, obs') := by
    rw [runSuite_eq, bind_of_error hopen]
  by_cases hdebug : obs.1.environment.lookup? debugVariable = some "1"
  · simp only [run, hlevel, bind_apply, ofExcept_apply, state_apply]
    rw [handle_of_error _ (map_of_error _ hsuite)]
    simp [hdebug]
  · rw [run_apply hlevel features list hdebug, hsuite]
    simp only [hdebug, ne_eq, not_false_eq_true, and_true]
    rfl

end CommandLine

/-! ### Files that loaders are prepared for -/

/-- A file that a loader is prepared for. -/
structure Legible (decode : Decoder) (writable : Document → Prop) (t : FileTree) (path : String) :
    Prop extends Parses decode writable t path, IsText t path

/-- The files of a configuration are such files. -/
structure Config.Legible (c : Config) (t : FileTree) : Prop where
  parameters : c.parametersFile ≠ "" →
    PluginHarness.Legible Text.decodePieces Secrets.WritableValue t c.parametersFile
  secrets : c.secretsFile ≠ "" →
    PluginHarness.Legible Text.decode Secrets.Writable t c.secretsFile

/-- A file of the configuration cannot be loaded. -/
def Config.Lacks (c : Config) (w : World) : Prop :=
  (c.parametersFile ≠ "" ∧ ∃ e w', loadParameters c.parametersFile w = (.error e, w')) ∨
    (c.secretsFile ≠ "" ∧ ∃ e w', Secrets.load c.secretsFile w = (.error e, w'))

/-- What cannot be loaded from such files ends the opening with a failure about the
configuration. -/
theorem CommandLine.opening_of_lacks {o : Options} {obs : Observed} {c : Config} {w : World}
    (hdraft : Config.drafted o.config o.overrides [] obs.1 = (.ok c, w))
    (hlegible : c.Legible w.files) (hlacks : c.Lacks w) (features : List Document) :
    ∃ e obs', opening o features obs = (.error e, obs') ∧ e.isConfiguration = true := by
  rcases hp : Config.loadParameters c.parametersFile w with ⟨r, w₁⟩
  obtain rfl : w = w₁ := congrArg Prod.snd ((Config.loadParameters_apply _ w).symm.trans hp)
  by_cases hfile : c.parametersFile ≠ "" ∧ r.isOk = false
  · obtain ⟨hne, hr⟩ := hfile
    rcases r with e | m
    · have hclass := (Config.failsAs_loadParameters_iff (hlegible.parameters hne).toParses).mpr
        (hlegible.parameters hne).toIsText
      exact ⟨e, _, opening_of_parameters hdraft hne hp, hclass e (congrArg Prod.fst hp)⟩
    · cases hr
  · have hparameters : c.parametersFile = "" ∨
        ∃ m, Config.loadParameters c.parametersFile w = (.ok m, w) := by
      rcases r with e | m
      · exact .inl (by_contra fun hne => hfile ⟨hne, rfl⟩)
      · exact .inr ⟨m, hp⟩
    obtain ⟨hne, e, w', hs⟩ : c.secretsFile ≠ "" ∧
        ∃ e w', Secrets.load c.secretsFile w = (.error e, w') := by
      refine hlacks.resolve_left fun ⟨hne, e, w', he⟩ => ?_
      rcases hparameters with hempty | ⟨m, hm⟩
      · exact hne hempty
      · cases he.symm.trans hm
    have hclass := (Secrets.failsAs_load_iff (hlegible.secrets hne).toParses).mpr
      (hlegible.secrets hne).toIsText
    exact ⟨e, _, opening_of_secrets hdraft hparameters hne hs,
      Failure.isConfiguration_of_isSecrets (hclass e (congrArg Prod.fst hs))⟩

/-! ### A single file -/

/-- The file `s` holds these bytes, and there is no other file. -/
def FileTree.single (bytes : List UInt8) : FileTree := ⟨[(["s"], .file bytes)], []⟩

theorem FileTree.read_single (bytes : List UInt8) : (single bytes).read "s" = .ok bytes := rfl

/-- A single file with a text whose document can be written. -/
theorem legible_single {bytes : List UInt8} {text : List Char} {d : Document}
    {writable : Document → Prop} (hbytes : bytes = Text.encoded text)
    (hdecode : decode bytes = .ok text)
    (hd : Yaml.readText .standard (Text.unifyNewlines text) = .ok d) (hw : writable d) :
    Legible decode writable (.single bytes) "s" := by
  have hread : readWith decode (.single bytes) "s" = .ok d :=
    (readWith_of_text (FileTree.read_single bytes) hdecode).trans hd
  refine ⟨⟨fun f hf => (nomatch hread.symm.trans hf), fun d' hd' => ?_⟩, ⟨by decide, ?_⟩⟩
  · cases hread.symm.trans hd'
    exact hw
  · intro bytes' hb
    cases (FileTree.read_single bytes).symm.trans hb
    exact ⟨text, hbytes⟩

theorem Document.eq_list_of_kindName {d : Document} (h : d.kindName = "list") :
    ∃ items, d = .list items := by
  cases d <;> simp_all [kindName]

theorem readText_list : ∃ items,
    Yaml.readText .standard (Text.unifyNewlines ['-', ' ', '1']) = .ok (.list items) := by
  have hkind : (Yaml.readText .standard (Text.unifyNewlines ['-', ' ', '1'])).toOption.map
      Document.kindName = some "list" := by decide +kernel
  generalize Yaml.readText .standard (Text.unifyNewlines ['-', ' ', '1']) = r at hkind ⊢
  rcases r with f | d
  · cases hkind
  · obtain ⟨items, rfl⟩ := Document.eq_list_of_kindName (Option.some.inj hkind)
    exact ⟨items, rfl⟩

theorem decode_startByte : Text.decode [255] = .error ⟨255, 0, 1, .startByte⟩ := by
  decide +kernel

theorem decodePieces_startByte : Text.decodePieces [255] = .error ⟨255, 0, 1, .startByte⟩ := by
  decide +kernel

/-- The options of a run with an address, and with a setting that names the file `s`. -/
def CommandLine.optionsNaming (key : String) : Options where
  config := none
  overrides := [(.text "address", .text "node"), (.text key, .text "s")]
  tags := .null
  logLevel := .text "info"

theorem CommandLine.threshold_optionsNaming (key : String) :
    (optionsNaming key).threshold = .ok Level.info := rfl

/-- The configuration of such a run, by the names of its two files. -/
theorem CommandLine.drafted_optionsNaming (key credentials parameters : String) (obs : Observed)
    (h : (Config.drafted (optionsNaming key).config (optionsNaming key).overrides []
      obs.1).1.toOption.map (fun c => (c.secretsFile, c.parametersFile)) =
        some (credentials, parameters)) :
    ∃ c w, Config.drafted (optionsNaming key).config (optionsNaming key).overrides [] obs.1 =
      (.ok c, w) ∧ w.files = obs.1.files ∧ c.secretsFile = credentials ∧
        c.parametersFile = parameters := by
  have hconf := Config.drafted_respects (T := []) (optionsNaming key).config
    (optionsNaming key).overrides [] obs.1
  rcases hdraft : Config.drafted (optionsNaming key).config (optionsNaming key).overrides [] obs.1
    with ⟨e | c, w⟩ <;> rw [hdraft] at h hconf
  · cases h
  · obtain ⟨hs, hp⟩ := Prod.mk.inj (Option.some.inj h)
    exact ⟨c, w, rfl, hconf.files_eq List.not_mem_nil, hs, hp⟩

/-! ### The main results -/

/-- **Input files that are text fail as declared, and no others do.** Where parsing gives a document
that can be written or finds the text malformed:

* loading credentials gives credentials or a failure about credentials exactly when the path has no
  null character in it and the bytes there, if there are any to read, are UTF-8;
* loading parameters gives parameters or a failure about the configuration for the same files, and
  for no others that are read in one piece;
* a setup that has to read such a file and cannot load it ends in its first step with that failure,
  and with any other file in a bare one;
* a run of the command whose parameters or credentials cannot be loaded from such files ends with
  status 2, or in the failure itself when the debug variable asks for it. -/
theorem fails_as_declared (w : World) :
    (∀ path : String, Parses Text.decode Secrets.Writable w.files path →
      (FailsAs Failure.isSecrets (Secrets.load path w).1 ↔ IsText w.files path)) ∧
    (∀ path : String, Parses Text.decodePieces Secrets.WritableValue w.files path →
      (IsText w.files path →
        FailsAs Failure.isConfiguration (Config.loadParameters path w).1) ∧
      (IsOnePiece w.files path →
        FailsAs Failure.isConfiguration (Config.loadParameters path w).1 →
        IsText w.files path)) ∧
    (∀ (session : Session) (e : Failure) (w' : World), session.Stale →
      Parses Text.decode Secrets.Writable w.files session.config.secretsFile →
      Secrets.load session.config.secretsFile w = (.error e, w') →
      (IsText w.files session.config.secretsFile →
        Session.setup (session, w) =
          (.error (.within (.precondition .secrets) e), (session, w'))) ∧
      (¬ IsText w.files session.config.secretsFile →
        Session.setup (session, w) = (.error e, (session, w')))) ∧
    ∀ (o : CommandLine.Options) (level : Level) (c : Config) (w' : World),
      o.threshold = .ok level → Config.drafted o.config o.overrides [] w = (.ok c, w') →
      c.Legible w'.files → c.Lacks w' →
      ∀ (features : List Document) (list : List Scenario) (told : List Progress), ∃ e obs',
        CommandLine.run o features list (w, told) =
          if w.environment.lookup? CommandLine.debugVariable = some "1" then (.error e, obs')
          else (.ok ⟨2, some ("Configuration error: " ++ e.message)⟩, obs') := by
  refine ⟨fun _ => Secrets.failsAs_load_iff,
    fun _ h => ⟨(Config.failsAs_loadParameters_iff h).mpr, fun _ =>
      (Config.failsAs_loadParameters_iff h).mp⟩,
    fun session e w' hstale hparses hl => Session.setup_of_parses hstale hparses hl,
    fun o level c w' hlevel hdraft hlegible hlacks features list told => ?_⟩
  obtain ⟨e, obs', hopen, he⟩ : ∃ e obs',
      CommandLine.opening o features (w, told) = (.error e, obs') ∧ e.isConfiguration = true :=
    CommandLine.opening_of_lacks hdraft hlegible hlacks features
  refine ⟨e, obs', ?_⟩
  rw [CommandLine.run_of_opening hlevel list hopen]
  by_cases hdebug : w.environment.lookup? CommandLine.debugVariable = some "1" <;>
    simp [he, hdebug]

/-- A file with a list in it is neither credentials nor parameters, and all say so. One byte that
begins no character is one piece, and is not refused in this way. -/
theorem fails_as_declared_list :
    let t := FileTree.single [45, 32, 49]
    let w := World.initial .stubborn t
    let config : Config := { Config.placeless with address := "node", secretsFile := "s" }
    let s : Session × World := (Session.fresh config .plain "", w)
    let o := CommandLine.optionsNaming "secrets_file"
    let t' := FileTree.single [255]
    Legible Text.decode Secrets.Writable t "s" ∧
      Legible Text.decodePieces Secrets.WritableValue t "s" ∧
      FailsAs Failure.isSecrets (Secrets.load "s" w).1 ∧
      FailsAs Failure.isConfiguration (Config.loadParameters "s" w).1 ∧
      (∃ e w', Session.setup s = (.error (.within (.precondition .secrets) e), (s.1, w'))) ∧
      (∃ complaint obs', CommandLine.run o [] [] (w, []) = (.ok ⟨2, complaint⟩, obs')) ∧
      IsOnePiece t' "s" ∧
      ¬ FailsAs Failure.isConfiguration (Config.loadParameters "s" (.initial .stubborn t')).1 := by
  intro t w config s o t'
  have hbytes : [45, 32, 49] = Text.encoded ['-', ' ', '1'] := by decide +kernel
  have hdecode : Text.decode [45, 32, 49] = .ok ['-', ' ', '1'] := by decide +kernel
  have hdecode' : Text.decodePieces [45, 32, 49] = .ok ['-', ' ', '1'] := by decide +kernel
  obtain ⟨items, hd⟩ := readText_list
  have hsecrets : Legible Text.decode Secrets.Writable t "s" :=
    legible_single hbytes hdecode hd trivial
  have hparameters : Legible Text.decodePieces Secrets.WritableValue t "s" :=
    legible_single hbytes hdecode' hd trivial
  -- the list is refused in every world with this file
  have hload {v : World} (hv : v.files = t) : ∃ e w', Secrets.load "s" v = (.error e, w') := by
    obtain ⟨w', hrun⟩ := Secrets.load_run "s" v
    rw [Secrets.readFile_eq, hv, readWith_of_text (FileTree.read_single _) hdecode, hd] at hrun
    exact ⟨_, w', hrun⟩
  refine ⟨hsecrets, hparameters,
    ((fails_as_declared w).1 "s" hsecrets.toParses).mpr hsecrets.toIsText,
    ((fails_as_declared w).2.1 "s" hparameters.toParses).1 hparameters.toIsText, ?_, ?_, ?_⟩
  · obtain ⟨e, w', hl⟩ := hload (v := w) rfl
    exact ⟨e, w', ((fails_as_declared w).2.2.1 s.1 e w' (by decide) hsecrets.toParses hl).1
      hsecrets.toIsText⟩
  · obtain ⟨c, w₁, hdraft, hfiles, hs, hp⟩ := CommandLine.drafted_optionsNaming
      "secrets_file" "s" "" (w, []) (by decide +kernel)
    have hlegible : c.Legible w₁.files := by
      refine ⟨fun h => absurd hp h, fun _ => ?_⟩
      rw [hfiles, hs]
      exact hsecrets
    have hlacks : c.Lacks w₁ := by
      refine .inr ?_
      rw [hs]
      exact ⟨by decide, hload hfiles⟩
    obtain ⟨e, obs', hrun⟩ := (fails_as_declared w).2.2.2 o Level.info c w₁
      (CommandLine.threshold_optionsNaming _) hdraft hlegible hlacks [] [] []
    exact ⟨_, obs', hrun.trans (if_neg nofun)⟩
  · have hone : IsOnePiece t' "s" := by
      intro bytes hb
      cases (FileTree.read_single [255]).symm.trans hb
      decide
    have hparses : Parses Text.decodePieces Secrets.WritableValue t' "s" := by
      have hread := readWith_of_undecodable (FileTree.read_single [255]) decodePieces_startByte
      exact ⟨fun f hf => (nomatch hread.symm.trans hf), fun d hd => (nomatch hread.symm.trans hd)⟩
    refine ⟨hone, fun hfails => ?_⟩
    have htext := ((fails_as_declared (.initial .stubborn t')).2.1 "s" hparses).2 hone hfails
    obtain ⟨text, hb⟩ := htext.encoded [255] (FileTree.read_single [255])
    exact nomatch decodePieces_startByte.symm.trans (Text.decodePieces_eq_ok_iff.mpr hb)

/-- A byte that begins no character fails in words of its own, in both loaders, in a setup and in a
run of the command that names the file for either. A null character in a path does as well. -/
theorem undecodable_passes :
    let w := World.initial .stubborn (.single [255])
    let bare : Failure := .fault (.undecodable ⟨255, 0, 1, .startByte⟩)
    let config : Config := { Config.placeless with address := "node", secretsFile := "s" }
    let s : Session × World := (Session.fresh config .plain "", w)
    bare.isSecrets = false ∧ bare.isConfiguration = false ∧
      (Secrets.load "s" w).1 = .error bare ∧ (Config.loadParameters "s" w).1 = .error bare ∧
      (Session.setup s).1 = .error bare ∧
      (∀ key ∈ ["secrets_file", "test_volume_parameters_file"],
        (CommandLine.run (CommandLine.optionsNaming key) [] [] (w, [])).1 = .error bare) ∧
      (Secrets.load "a\x00b" w).1 = .error (.fault .embeddedNull) ∧
      (Config.loadParameters "a\x00b" w).1 = .error (.fault .embeddedNull) := by
  intro w bare config s
  have hread : FileTree.read w.files "s" = .ok [255] := FileTree.read_single [255]
  have hload {v : World} (hv : v.files = w.files) :
      ∃ w', Secrets.load "s" v = (.error bare, w') := by
    obtain ⟨w', hrun⟩ := Secrets.load_run "s" v
    rw [Secrets.readFile_eq, hv, readWith_of_undecodable hread decode_startByte] at hrun
    exact ⟨w', hrun⟩
  have hparameters {v : World} (hv : v.files = w.files) :
      Config.loadParameters "s" v = (.error bare, v) := by
    rw [Config.loadParameters_apply, Config.readParameters_eq, hv,
      readWith_of_undecodable hread decodePieces_startByte]
    rfl
  obtain ⟨w₁, hl⟩ := hload (v := w) rfl
  have hnull : FileTree.read w.files "a\x00b" = .error .embeddedNull :=
    FileTree.read_eq_embeddedNull_iff.mpr (by decide)
  refine ⟨rfl, rfl, congrArg Prod.fst hl, congrArg Prod.fst (hparameters rfl), ?_, ?_, ?_, ?_⟩
  · rw [Session.setup_of_secrets_error (Session.loadSecrets_of_load_error (by decide) hl)]
    rfl
  · have hbare {key : String} {obs' : Observed} (hopen :
        CommandLine.opening (CommandLine.optionsNaming key) [] (w, []) = (.error bare, obs')) :
        (CommandLine.run (CommandLine.optionsNaming key) [] [] (w, [])).1 = .error bare := by
      rw [CommandLine.run_of_opening (CommandLine.threshold_optionsNaming key) [] hopen,
        if_neg fun h => Bool.false_ne_true h.1]
    refine List.forall_mem_cons.mpr ⟨?_, List.forall_mem_singleton.mpr ?_⟩
    · obtain ⟨c, w₂, hdraft, hfiles, hs, hp⟩ := CommandLine.drafted_optionsNaming
        "secrets_file" "s" "" (w, []) (by decide +kernel)
      obtain ⟨w₃, hl'⟩ := hload hfiles
      rw [← hs] at hl'
      exact hbare (CommandLine.opening_of_secrets hdraft (.inl hp) (by rw [hs]; decide) hl')
    · obtain ⟨c, w₂, hdraft, hfiles, hs, hp⟩ := CommandLine.drafted_optionsNaming
        "test_volume_parameters_file" "" "s" (w, []) (by decide +kernel)
      have hl' := hparameters hfiles
      rw [← hp] at hl'
      exact hbare (CommandLine.opening_of_parameters hdraft (by rw [hp]; decide) hl')
  · obtain ⟨w', hrun⟩ := Secrets.load_run "a\x00b" w
    rw [hrun, Secrets.readFile_eq, readWith_of_error hnull]
    rfl
  · rw [Config.loadParameters_apply, Config.readParameters_eq, readWith_of_error hnull]
    rfl

end PluginHarness
