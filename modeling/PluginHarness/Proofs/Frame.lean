import PluginHarness.Proofs.World
import PluginHarness.Session

/-!
# What each part of a run leaves alone

One confinement lemma for each function that acts on the world. The list of topics is a parameter
wherever a function is silent on most of them, so that a lemma can be used inside any larger one
without weakening it first.

Loading a configuration, naming and reporting are about no topic at all. Credentials are read under
`Topic.secrets`. Making and removing locations is about `Topic.location`; that a removal is begun is
`Topic.removal`, while `Topic.creation` is left to the sessions, which know what a location is for.
Connections are opened and closed under `Topic.dialing` and `Topic.closing`. A dialer of channels
closes as well, because a channel that is not ready in time is closed again.
-/

namespace PluginHarness

variable {α : Type} {T : List Topic}

open Attempt

/-! ### The world itself -/

namespace World

theorem record_apply (e : Event) (w : World) :
    record e w = (.ok (), { w with history := e :: w.history }) := rfl

theorem onFiles_run {x : Attempt FileTree α} {w : World} {r : Except Failure α} {t : FileTree}
    (h : x w.files = (r, t)) : onFiles x w = (r, { w with files := t }) := by
  rw [onFiles, on_apply, h]

theorem record_respects {e : Event} (h : ∀ t, e.topic? = some t → t ∈ T) :
    (record e).Respects (Confined T) := by
  intro w
  refine ⟨rfl, ⟨[e], rfl, fun e' he t ht => ?_⟩, Nat.le_refl _, fun _ => rfl, fun _ => rfl⟩
  rw [List.mem_singleton.mp he] at ht
  exact h t ht

theorem report_respects (source : String) (level : Level) (text : String) :
    (report source level text).Respects (Confined T) :=
  record_respects fun _ ht => nomatch ht

theorem reportStep_respects (source text : String) :
    (reportStep source text).Respects (Confined T) :=
  record_respects fun _ ht => nomatch ht

theorem reportKeys_respects (source : String) (level : Level) (words : String)
    (keys : List Document) : (reportKeys source level words keys).Respects (Confined T) := by
  refine respects_forM (fun key => ?_) keys
  cases key.text? with
  | none => exact respects_pure ()
  | some name => exact report_respects _ _ _

theorem openConnection_respects (h : .dialing ∈ T) :
    openConnection.Respects (Confined T) := fun _ =>
  ⟨rfl, ⟨[], rfl, fun _ he => nomatch he⟩, Nat.le_succ _, fun ht => absurd h ht, fun _ => rfl⟩

theorem onFiles_respects (h : .location ∈ T) (x : Attempt FileTree α) :
    (onFiles x).Respects (Confined T) := fun _ =>
  ⟨rfl, ⟨[], rfl, fun _ he => nomatch he⟩, Nat.le_refl _, fun _ => rfl, fun ht => absurd h ht⟩

end World

open World

/-! ### Connections -/

namespace Connection

theorem close_respects (h : .closing ∈ T) (c : Connection) :
    (close c).Respects (Confined T) := by
  refine (record_respects fun t ht => ?_).bind fun _ => respects_state.bind fun w => ?_
  · cases ht
    exact h
  · cases w.environment.closeFailure c with
    | none => exact respects_pure _
    | some e => exact respects_fail e

theorem closeQuietly_respects (h : .closing ∈ T) (c : Connection) (description : String) :
    (closeQuietly c description).Respects (Confined T) :=
  (close_respects h c).rescue fun _ => report_respects _ _ _

theorem connect_respects (hd : .dialing ∈ T) (hc : .closing ∈ T) (address : String)
    (deadline : Deadline) : (connect address deadline).Respects (Confined T) := by
  have record_dialing {e : Event} (he : e.topic? = some .dialing) :
      (record e).Respects (Confined T) :=
    record_respects fun t ht => by cases he.symm.trans ht; exact hd
  unfold connect
  split
  · exact respects_fail _
  · refine (report_respects _ _ _).bind fun _ => respects_state.bind fun w =>
      (record_dialing rfl).bind fun _ => (openConnection_respects hd).bind fun c =>
      (record_dialing rfl).bind fun _ => ?_
    split
    · exact respects_pure _
    · exact (close_respects hc c).bind fun _ => respects_fail _

end Connection

/-- Only a dialer of channels closes anything. -/
theorem Dialer.dial_respects (hd : .dialing ∈ T) {d : Dialer} (hc : d = .channel → .closing ∈ T)
    (address : String) : (d.dial address).Respects (Confined T) := by
  have record_dialing {e : Event} (he : e.topic? = some .dialing) :
      (record e).Respects (Confined T) :=
    record_respects fun t ht => by cases he.symm.trans ht; exact hd
  refine (record_dialing rfl).bind fun _ => ?_
  cases d with
  | channel => exact (Connection.connect_respects hd (hc rfl) _ _).map _
  | plain =>
    refine respects_state.bind fun w => (record_dialing rfl).bind fun _ => ?_
    cases w.environment.dial w.dials address with
    | connected => exact (openConnection_respects hd).map _
    | absent => exact respects_pure _
    | failed e => exact respects_fail e

/-! ### Locations -/

namespace Location

theorem execute_respects (h : .location ∈ T) (argv : List String) (deadline : Deadline) :
    (execute argv deadline).Respects (Confined T) := by
  refine (record_respects fun t ht => by cases ht; exact h).bind fun _ =>
    respects_state.bind fun w => ?_
  cases w.environment.execute argv with
  | refused e => exact respects_fail e
  | started seconds work =>
    dsimp only
    split
    · exact respects_fail _
    · refine (onFiles_respects h work).bind fun done => ?_
      split
      · exact respects_pure _
      · exact respects_fail _

theorem runCommand_respects (h : .location ∈ T) (action : Action) (line : String)
    (deadline : Deadline) (path : String) :
    (runCommand action line deadline path).Respects (Confined T) := by
  refine respects_state.bind fun w => ?_
  cases commandArguments w.files line path with
  | error f => exact respects_fail _
  | ok argv =>
    refine (report_respects _ _ _).bind fun _ => (execute_respects h argv deadline).handle ?_
    intro e y hy
    obtain ⟨issue, -, rfl⟩ := Option.map_eq_some_iff.mp hy
    exact respects_fail _

theorem call_respects (h : .location ∈ T) (c : Callback) (path : Document) :
    (call c path).Respects (Confined T) :=
  (record_respects fun t ht => by cases ht; exact h).bind fun _ =>
    respects_state.bind fun _ => onFiles_respects h _

theorem createDirectory_respects (h : .location ∈ T) (path : String) :
    (createDirectory path).Respects (Confined T) := by
  refine respects_state.bind fun w => ?_
  split
  · exact respects_pure _
  · exact respects_fail _
  · split
    · exact (onFiles_respects h _).bind fun _ => report_respects _ _ _
    · exact respects_fail _
  · exact respects_fail _

theorem removeEntry_respects (h : .location ∈ T) (path : String) :
    (removeEntry path).Respects (Confined T) := by
  refine respects_state.bind fun w => ?_
  split
  · exact onFiles_respects h _
  · refine (onFiles_respects h _).handle fun e y hy => ?_
    split at hy
    · split at hy <;> cases hy
      exact respects_pure ()
    · cases hy

theorem create_respects (h : .location ∈ T) (s : Strategy) (path : String) :
    (create s path).Respects (Confined T) := by
  unfold create
  split
  · exact respects_pure _
  · cases s with
    | command line deadline =>
      exact (runCommand_respects h _ _ _ _).bind fun _ => respects_pure _
    | callback c => exact call_respects h c _
    | fileSystem => exact (createDirectory_respects h path).bind fun _ => respects_pure _

theorem removeBy_respects (h : .location ∈ T) (s : Strategy) (path : Document) :
    (removeBy s path).Respects (Confined T) := by
  unfold removeBy
  split
  · exact (call_respects h _ _).bind fun _ => respects_pure _
  · exact (runCommand_respects h _ _ _ _).bind fun _ => respects_pure _
  · exact removeEntry_respects h _
  · exact respects_fail _

/-- What is removed is removed after it was recorded that this begins. -/
theorem remove_apply {path : Document} (h : path.truthy = true) (s : Strategy) (w : World) :
    remove s path w = removeBy s path { w with history := .removing s path :: w.history } := by
  simp only [remove, h, Bool.not_true, Bool.false_eq_true, if_false]
  rfl

theorem remove_respects (h : .location ∈ T) (hr : .removal ∈ T) (s : Strategy) (path : Document) :
    (remove s path).Respects (Confined T) := by
  unfold remove
  split
  · exact respects_pure _
  · exact (record_respects fun t ht => by cases ht; exact hr).bind fun _ =>
      removeBy_respects h s path

end Location

/-! ### Credentials, names and configurations -/

namespace Secrets

theorem parse_respects (d : Document) : (parse d).Respects (Confined T) := by
  unfold parse
  split
  · exact (reportKeys_respects _ _ _ _).bind fun _ => respects_ofExcept _
  · exact respects_ofExcept _

/-- Loading asks for the file first; everything else it does is reporting. -/
theorem load_after_asking (path : String) (w : World) :
    Confined [] (record (.secretsRead path) w).2 (load path w).2 := by
  unfold load
  rw [bind_of_ok (record_apply (.secretsRead path) w)]
  refine Respects.bind respects_state (fun w => ?_) _
  split
  · refine (parse_respects _).handle fun e y hy => ?_
    split at hy <;> cases hy
    exact respects_fail _
  all_goals exact respects_fail _

theorem load_respects (h : .secrets ∈ T) (path : String) :
    (load path).Respects (Confined T) := fun w =>
  trans_of _ (record_respects (fun t ht => by cases ht; exact h) w)
    ((load_after_asking path w).mono (List.nil_subset T))

end Secrets

theorem Naming.newSuffix_respects : newSuffix.Respects (Confined T) := by
  refine respects_state.bind fun w => ?_
  cases w.environment.entropy with
  | ok bytes => exact respects_pure _
  | error e =>
    dsimp only
    split
    · exact (report_respects _ _ _).bind fun _ => respects_pure _
    · exact respects_fail e

theorem Session.start_respects (config : Config) (dialer : Dialer) (suffix? : Option String) :
    (start config dialer suffix?).Respects (Confined T) := by
  cases suffix? with
  | some suffix => exact respects_pure _
  | none => exact Naming.newSuffix_respects.bind fun _ => respects_pure _

namespace Config

theorem fileName_respects (named : Option Document) :
    (fileName named).Respects (Confined T) := by
  unfold fileName
  split
  · exact respects_pure _
  · exact respects_fail _
  · exact respects_state.bind fun _ => respects_pure _

theorem fileFailure_respects (file : String) (f : Fault) :
    (fileFailure file f).Respects (Confined T) := by
  unfold fileFailure
  split
  · exact (report_respects _ _ _).bind fun _ => respects_fail _
  · exact (report_respects _ _ _).bind fun _ => respects_fail _
  · exact (report_respects _ _ _).bind fun _ => respects_fail _
  · exact respects_fail _

theorem resolve_respects (file : String) (root : Document) :
    (resolve file root).Respects (Confined T) := by
  refine respects_state.bind fun w => ?_
  split
  · exact respects_fail _
  · split
    · exact (report_respects _ _ _).bind fun _ => respects_fail _
    · exact respects_pure _
    · exact respects_fail _

theorem loadPresent_respects (file : String) :
    (loadPresent file).Respects (Confined T) := by
  refine respects_state.bind fun w => ?_
  split
  · exact resolve_respects file _
  · exact (fileFailure_respects file _).bind fun root => resolve_respects file root

theorem loadFile_respects (named : Option Document) :
    (loadFile named).Respects (Confined T) := by
  refine (fileName_respects named).bind fun name => respects_state.bind fun w => ?_
  split
  · exact loadPresent_respects _
  · split
    · exact (report_respects _ _ _).bind fun _ => respects_pure _
    · exact respects_fail _

theorem withParametersFile_respects (c : Config) :
    c.withParametersFile.Respects (Confined T) := by
  have loaded : (loadParameters c.parametersFile).Respects (Confined T) := by
    refine respects_state.bind fun w => ?_
    split
    · exact respects_ofExcept _
    all_goals exact respects_fail _
  unfold withParametersFile
  split
  · exact respects_pure _
  · exact loaded.bind fun _ => respects_pure _

theorem merge_respects (file overrides : List (Document × Document)) :
    (merge file overrides).Respects (Confined T) := by
  have reported (source : List (Document × Document)) :
      (reportUnknown source).Respects (Confined T) := reportKeys_respects _ _ _ _
  exact (reported file).bind fun _ => (reported overrides).bind fun _ => respects_pure _

theorem build_respects (named : Option Document) (overrides : List (Document × Document))
    (hooks : List (String × FieldValue)) :
    (build named overrides hooks).Respects (Confined T) := by
  refine (loadFile_respects named).bind fun file => (merge_respects file overrides).bind
    fun values => ?_
  split
  · exact respects_fail _
  · exact (respects_ofExcept _).bind fun c => withParametersFile_respects c

theorem ofUserdata_respects (userdata : List (String × Document)) :
    (ofUserdata userdata).Respects (Confined T) :=
  (respects_ofExcept _).bind fun _ => build_respects _ _ _

end Config

end PluginHarness
