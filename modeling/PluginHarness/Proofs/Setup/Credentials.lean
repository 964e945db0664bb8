import PluginHarness.Proofs.Moves
import PluginHarness.Proofs.Secrets
import PluginHarness.Proofs.Setup

/-!
# A session holds the credentials of the file that it remembers

A session remembers the file that its credentials come from, so that a file is read once as long as
it stays configured. Name and credentials are two fields, and they are only of use together. A file
may be rewritten or deleted while it is remembered, loading another one may fail, and then the
session goes on with what it has.

The law behind the two fields speaks of the run. `Session.Loaded` is a run with what was loaded in
it, newest first, as the history of each setup tells which files were asked for and the files at
that moment tell what was in them. The credentials of a session are always those loaded last, for
the file that is remembered; or there are none, and no file is remembered.

## Main definitions

* `Session.loads`: what a setup loads.
* `Session.Loaded`: a session with what was loaded in its run.
* `Session.Stale`: the configured file has to be read.
* `Session.Recalls`: file and credentials belong together.

## Main results

* `Session.newly_secretsRead_setup`: a setup reads the configured file when it has to.
* `Session.Loaded.recalls`: every run keeps file and credentials together.
* `Session.remembers_last_loaded`: what a session holds, and what a setup does about it.
-/

namespace PluginHarness

open Attempt Relation World

namespace Session

variable {s s' s₁ : Session × World}

/-- The configured file has to be read: there is one, and it is not the one that is remembered. -/
def Stale (s : Session) : Prop :=
  s.config.secretsFile ≠ "" ∧ s.config.secretsFile ≠ s.secretsFile

instance (s : Session) : Decidable s.Stale := inferInstanceAs (Decidable (_ ∧ _))

/-- What a setup in this state loads: the files that it asks for, with the credentials in them. A
file that cannot be loaded gives nothing. -/
def loads (s : Session × World) : List (String × Secrets) :=
  (newly Event.secretsRead? s.2 (setup s).2.2).filterMap fun file =>
    ((Secrets.load file s.2).1.toOption).map fun secrets => (file, secrets)

/-- A session that was made with the dialer in the environment, and the credentials that were
loaded in its run since, the newest first. -/
inductive Loaded (env : Environment) (dialer : Dialer) :
    List (String × Secrets) → Session × World → Prop
  | fresh (config : Config) (suffix : String) (files : FileTree) :
      Loaded env dialer [] (Session.fresh config dialer suffix, initial env files)
  | setup {past : List (String × Secrets)} {s : Session × World} (h : Loaded env dialer past s) :
      Loaded env dialer (loads s ++ past) (Session.setup s).2
  | teardown {past : List (String × Secrets)} {s : Session × World}
      (h : Loaded env dialer past s) : Loaded env dialer past (Session.teardown s).2
  /-- The configuration is replaced, files are changed, or the connections are closed. -/
  | aside {past : List (String × Secrets)} {s s' : Session × World}
      (h : Loaded env dialer past s) (ha : Aside s s') : Loaded env dialer past s'

variable {env : Environment} {dialer : Dialer} {past : List (String × Secrets)}

/-- A run with a record of what was loaded is a run. -/
theorem Loaded.moves (h : Loaded env dialer past s) :
    ∃ config suffix files,
      ReflTransGen Move (Session.fresh config dialer suffix, initial env files) s := by
  induction h with
  | fresh config suffix files => exact ⟨config, suffix, files, .refl⟩
  | setup _ ih =>
    obtain ⟨config, suffix, files, hrun⟩ := ih
    exact ⟨config, suffix, files, hrun.tail (.setup _)⟩
  | teardown _ ih =>
    obtain ⟨config, suffix, files, hrun⟩ := ih
    exact ⟨config, suffix, files, hrun.tail (.teardown _)⟩
  | aside _ ha ih =>
    obtain ⟨config, suffix, files, hrun⟩ := ih
    exact ⟨config, suffix, files, hrun.tail (.aside ha)⟩

/-! ### What a setup does about credentials -/

/-- The credentials of a session, with the file that they come from. -/
def credentials (s : Session) : String × Secrets := (s.secretsFile, s.secrets)

/-- Once a setup has its credentials, it keeps them and asks for no others. -/
theorem setup_after_secrets (h : loadSecrets s = (.ok (), s₁)) :
    Within [.dialing, .closing, .location, .creation] s₁ (setup s).2 ∧
      Kept (fun s => (s.1.config, s.1.credentials)) s₁ (setup s).2 := by
  rw [setup, bind_of_ok h]
  refine ⟨((connect_within (by simp) (by simp)).bind fun _ =>
    provision_within (by simp) (by simp)) s₁, ?_⟩
  have hconnect : connect.Respects (Kept fun s => (s.1.config, s.1.credentials)) :=
    (connectNode_kept (v := fun s => (s.config, s.credentials)) fun _ _ => rfl).bind fun _ =>
      (connectController_kept (v := fun s => (s.config, s.credentials)) fun _ _ => rfl).bind
        fun _ => respects_pure ()
  exact (hconnect.bind fun _ => provision_kept (v := fun s => (s.config, s.credentials))
    fun _ p _ => by cases p <;> rfl) s₁

/-- A setup without credentials ends there. -/
theorem setup_of_secrets_error {e : Failure} (h : loadSecrets s = (.error e, s₁)) :
    setup s = (.error e, s₁) := bind_of_error h

/-- The stage of the credentials reads the configured file when it has to. -/
theorem newly_secretsRead_loadSecrets (s : Session × World) :
    newly Event.secretsRead? s.2 (loadSecrets s).2.2 =
      if s.1.Stale then [s.1.config.secretsFile] else [] := by
  have hload := Secrets.newly_secretsRead_load s.1.config.secretsFile s.2
  have hcourse := loadSecrets_course s
  generalize loadSecrets s = r at hcourse ⊢
  cases hcourse with
  | absent h => rw [newly_self, if_neg fun hs => hs.1 h]
  | remembered h hf => rw [newly_self, if_neg fun hs => hs.2 hf]
  | loaded h hf hl =>
    rw [hl] at hload
    exact hload.trans (if_pos ⟨h, hf⟩).symm
  | failed h hf hl =>
    rw [hl] at hload
    exact hload.trans (if_pos ⟨h, hf⟩).symm

/-- Nothing but the stage of the credentials reads any. -/
theorem newly_secretsRead_setup (s : Session × World) :
    newly Event.secretsRead? s.2 (setup s).2.2 =
      if s.1.Stale then [s.1.config.secretsFile] else [] := by
  have hread := newly_secretsRead_loadSecrets s
  have hw : Within [.secrets] s (loadSecrets s).2 := loadSecrets_within (by simp) s
  rcases h : loadSecrets s with ⟨e | _, s₁⟩ <;> rw [h] at hread hw
  · rw [setup_of_secrets_error h]
    exact hread
  · obtain ⟨hrest, -⟩ := setup_after_secrets h
    rw [newly_append hw.suffix hrest.suffix,
      hrest.newly_eq_nil Event.isAbout_secretsRead (by simp), List.append_nil, hread]

/-! ### What was loaded -/

theorem loads_of_not_stale (h : ¬ s.1.Stale) : loads s = [] := by
  rw [loads, newly_secretsRead_setup, if_neg h]
  rfl

theorem loads_of_ok (h : s.1.Stale) {secrets : Secrets} {w : World}
    (hl : Secrets.load s.1.config.secretsFile s.2 = (.ok secrets, w)) :
    loads s = [(s.1.config.secretsFile, secrets)] := by
  rw [loads, newly_secretsRead_setup, if_pos h, List.filterMap_cons, hl]
  rfl

theorem loads_of_error (h : s.1.Stale) {e : Failure} {w : World}
    (hl : Secrets.load s.1.config.secretsFile s.2 = (.error e, w)) : loads s = [] := by
  rw [loads, newly_secretsRead_setup, if_pos h, List.filterMap_cons, hl]
  rfl

/-! ### File and credentials -/

/-- File and credentials of a session belong together: there are none, or they are those that were
loaded last. -/
structure Recalls (past : List (String × Secrets)) (s : Session) : Prop where
  empty : s.secretsFile = "" → s.secrets = Secrets.empty
  loaded : s.secretsFile ≠ "" → past.head? = some (s.secretsFile, s.secrets)

variable {env : Environment} {dialer : Dialer} {past : List (String × Secrets)}

theorem Recalls.congr {s s' : Session} (h : Recalls past s)
    (hk : s'.credentials = s.credentials) : Recalls past s' := by
  obtain ⟨hfile, hsecrets⟩ := Prod.mk.inj hk
  refine ⟨fun hf => ?_, fun hf => ?_⟩
  · rw [hsecrets]
    exact h.empty (hfile ▸ hf)
  · rw [hfile, hsecrets]
    exact h.loaded (hfile ▸ hf)

/-- The stage of the credentials keeps file and credentials together, also when it fails. -/
theorem Recalls.afterSecrets (h : Recalls past s.1) :
    Recalls (loads s ++ past) (loadSecrets s).2.1 := by
  have hcourse := loadSecrets_course s
  generalize loadSecrets s = r at hcourse ⊢
  cases hcourse with
  | absent => exact ⟨fun _ => rfl, fun hf => absurd rfl hf⟩
  | remembered _ hf =>
    rw [loads_of_not_stale fun hs => hs.2 hf]
    exact h
  | loaded hne hf hl =>
    rw [loads_of_ok ⟨hne, hf⟩ hl]
    exact ⟨fun hf => absurd hf hne, fun _ => rfl⟩
  | failed hne hf hl =>
    rw [loads_of_error ⟨hne, hf⟩ hl]
    exact h

/-- What a setup does about credentials, it does in the stage of the credentials. -/
theorem setup_credentials (s : Session × World) :
    (setup s).2.1.credentials = (loadSecrets s).2.1.credentials := by
  rcases h : loadSecrets s with ⟨e | _, s₁⟩
  · rw [setup_of_secrets_error h]
  · exact congrArg Prod.snd (setup_after_secrets h).2

theorem Recalls.afterSetup (h : Recalls past s.1) : Recalls (loads s ++ past) (setup s).2.1 :=
  h.afterSecrets.congr (setup_credentials s)

theorem Aside.credentials (h : Aside s s') : s'.1.credentials = s.1.credentials := by
  cases h with
  | configure => rfl
  | elsewhere => rfl
  | close => exact close_kept (v := Session.credentials) (fun _ _ => rfl) (fun _ _ => rfl) s

/-- Every run keeps file and credentials together. -/
theorem Loaded.recalls (h : Loaded env dialer past s) : Recalls past s.1 := by
  induction h with
  | fresh config suffix files => exact ⟨fun _ => rfl, fun hf => absurd rfl hf⟩
  | setup _ ih => exact ih.afterSetup
  | teardown _ ih =>
    exact ih.congr (teardown_kept (v := Session.credentials) (fun _ _ _ => rfl) _)
  | aside _ ha ih => exact ih.congr ha.credentials

/-- The stage of the credentials fails when loading does, and then changes nothing. -/
theorem loadSecrets_error_iff :
    (∃ e s₁, loadSecrets s = (.error e, s₁)) ↔
      s.1.Stale ∧ ∃ e w, Secrets.load s.1.config.secretsFile s.2 = (.error e, w) := by
  have hcourse := loadSecrets_course s
  generalize loadSecrets s = r at hcourse ⊢
  cases hcourse with
  | absent h => simp [Stale, h]
  | remembered h hf => simp [Stale, hf]
  | loaded h hf hl => simp [hl]
  | failed h hf hl => simp [Stale, h, hf, hl]

/-- A file that cannot be loaded leaves the session as it is. -/
theorem loadSecrets_of_load_error (h : s.1.Stale) {e : Failure} {w : World}
    (hl : Secrets.load s.1.config.secretsFile s.2 = (.error e, w)) : loadSecrets s =
      (.error (if e.isSecrets then .within (.precondition .secrets) e else e), (s.1, w)) := by
  have hcourse := loadSecrets_course s
  generalize loadSecrets s = r at hcourse ⊢
  cases hcourse with
  | absent he => exact absurd he h.1
  | remembered _ hf => exact absurd hf h.2
  | loaded _ _ hl' => cases hl.symm.trans hl'
  | failed _ _ hl' =>
    cases hl.symm.trans hl'
    rfl

theorem setup_of_load_error (h : s.1.Stale) {e : Failure} {w : World}
    (hl : Secrets.load s.1.config.secretsFile s.2 = (.error e, w)) : (setup s).2 = (s.1, w) := by
  rw [setup_of_secrets_error (loadSecrets_of_load_error h hl)]

/-- **A session holds what was loaded last.** After any run, a session has no credentials when it
remembers no file, and otherwise those that were loaded last, which was from the file that it
remembers. A setup reads a file exactly when one is configured that is not the remembered one. When
loading it fails, the session stays as it is, and there is no other failure about credentials. With
any setup that comes further, the configured file is the remembered one: its credentials are those
loaded last, or there are none when no file is configured. -/
theorem remembers_last_loaded (h : Loaded env dialer past s) :
    let file := s.1.config.secretsFile
    let reads := file ≠ "" ∧ file ≠ s.1.secretsFile
    (s.1.secretsFile = "" → s.1.secrets = Secrets.empty) ∧
    (s.1.secretsFile ≠ "" → past.head? = some (s.1.secretsFile, s.1.secrets)) ∧
    newly Event.secretsRead? s.2 (setup s).2.2 = (if reads then [file] else []) ∧
    ((∃ e s₁, loadSecrets s = (.error e, s₁)) ↔
      reads ∧ ∃ e w, Secrets.load file s.2 = (.error e, w)) ∧
    (∀ e w, reads → Secrets.load file s.2 = (.error e, w) → (setup s).2 = (s.1, w)) ∧
    ∀ s₁, loadSecrets s = (.ok (), s₁) →
      (setup s).2.1.secretsFile = file ∧
      (file = "" → (setup s).2.1.secrets = Secrets.empty) ∧
      (file ≠ "" → (loads s ++ past).head? = some (file, (setup s).2.1.secrets)) := by
  intro file reads
  have hrecalls := h.recalls
  have hsetup := hrecalls.afterSetup
  refine ⟨hrecalls.empty, hrecalls.loaded, newly_secretsRead_setup s, loadSecrets_error_iff,
    fun e w hreads hl => setup_of_load_error hreads hl, fun s₁ h₁ => ?_⟩
  have hfile : (setup s).2.1.secretsFile = file := by
    have hkept := congrArg Prod.fst (setup_credentials s)
    rw [h₁] at hkept
    exact hkept.trans (congrArg Session.secretsFile (loadSecrets_ok h₁).1)
  refine ⟨hfile, fun hf => hsetup.empty (hfile.trans hf), fun hf => ?_⟩
  rw [← hfile] at hf ⊢
  exact hsetup.loaded hf

/-- A file with a password for creating volumes. -/
def passwordBytes : List UInt8 :=
  [67, 114, 101, 97, 116, 101, 86, 111, 108, 117, 109, 101, 83, 101, 99, 114, 101, 116, 58, 10,
    32, 32, 117, 58, 32, 112, 10]

/-- There is a file `a`, and no other one. -/
def passwordFile : FileTree := ⟨[(["a"], .file passwordBytes)], []⟩

theorem read_passwordFile : passwordFile.read "a" = .ok passwordBytes := by decide +kernel

theorem read_of_no_files :
    (⟨[], []⟩ : FileTree).read "b" = .error (.system (.missing "b")) := by decide +kernel

theorem load_passwordFile {w : World} (h : w.files = passwordFile) :
    ∃ secrets w', Secrets.load "a" w = (.ok secrets, w') ∧
      secrets.get .createVolume = [("u", "p")] := by
  let text := "CreateVolumeSecret:\n  u: p\n"
  have hdecode : Text.decode passwordBytes = .ok text.toList := by decide +kernel
  have hvalue : ((Yaml.readText .standard (Text.unifyNewlines text.toList)).toOption.bind fun d =>
      (Secrets.ofDocument d).toOption).map (·.get .createVolume) = some [("u", "p")] := by
    decide +kernel
  rcases hd : Yaml.readText .standard (Text.unifyNewlines text.toList) with f | d
  · simp [hd, Except.toOption] at hvalue
  rcases hs : Secrets.ofDocument d with e | secrets
  · simp [hd, hs, Except.toOption] at hvalue
  have hfile : Secrets.readFile w.files "a" = .ok d := by
    simp only [Secrets.readFile, h, read_passwordFile, bind, Except.bind, hdecode, Except.mapError]
    exact hd
  obtain ⟨w', hl⟩ := Secrets.load_run "a" w
  rw [hfile, Secrets.given, hs] at hl
  refine ⟨secrets, w', hl, ?_⟩
  simpa [hd, hs, Except.toOption] using hvalue

/-- All files are lost after a file was loaded, and another file is configured. It is asked for and
cannot be loaded, so the session stays with what it has. -/
theorem remembers_last_loaded_of_lost :
    let config : Config := { Config.placeless with address := "node", secretsFile := "a" }
    let s₀ : Session × World := (fresh config .plain "", initial .stubborn passwordFile)
    let s : Session × World :=
      ({ (setup s₀).2.1 with config := { config with secretsFile := "b" } },
        { (setup s₀).2.2 with files := ⟨[], []⟩ })
    Loaded .stubborn .plain (loads s₀) s ∧
      s.1.secretsFile = "a" ∧ s.1.secrets.get .createVolume = [("u", "p")] ∧
      newly Event.secretsRead? s.2 (setup s).2.2 = ["b"] ∧ (setup s).2.1 = s.1 := by
  intro config s₀ s
  obtain ⟨secrets, w₁, hload, hpassword⟩ := load_passwordFile (w := s₀.2) rfl
  have hloads : loads s₀ = [("a", secrets)] := loads_of_ok (by decide +kernel) hload
  have hfresh : Loaded .stubborn .plain [] s₀ := .fresh config "" passwordFile
  have hrun : Loaded .stubborn .plain (loads s₀) s := by
    have hsetup := hfresh.setup
    rw [List.append_nil] at hsetup
    refine (hsetup.aside (.elsewhere _ ?_)).aside (.configure _ _ _)
    exact ⟨rfl, ⟨[], rfl, fun _ he => nomatch he⟩, Nat.le_refl _, fun _ => rfl,
      fun hl => absurd (by simp) hl⟩
  have hfile : s.1.secretsFile = "a" := by
    obtain ⟨-, -, -, hfails, -, hpasses⟩ := remembers_last_loaded hfresh
    rcases hl : loadSecrets s₀ with ⟨e | _, s₁⟩
    · obtain ⟨-, e', w', hl'⟩ := hfails.mp ⟨e, s₁, hl⟩
      cases hload.symm.trans hl'
    · exact (hpasses s₁ hl).1
  obtain ⟨-, hlast, hreads, -, hfailed, -⟩ := remembers_last_loaded hrun
  have hne : s.1.config.secretsFile ≠ "" ∧ s.1.config.secretsFile ≠ s.1.secretsFile := by
    rw [hfile]
    exact ⟨by decide, by decide⟩
  have hsecrets : secrets = s.1.secrets := by
    have hlast := hlast (by rw [hfile]; decide)
    rw [hloads] at hlast
    exact (Prod.mk.inj (Option.some.inj hlast)).2
  obtain ⟨e, w₂, hlost⟩ : ∃ e w₂, Secrets.load "b" s.2 = (.error e, w₂) := by
    have hfile : Secrets.readFile s.2.files "b" = .error (.system (.missing "b")) := by
      show Secrets.readFile ⟨[], []⟩ "b" = _
      rw [Secrets.readFile, read_of_no_files]
      rfl
    obtain ⟨w₂, hl⟩ := Secrets.load_run "b" s.2
    rw [hfile] at hl
    exact ⟨_, w₂, hl⟩
  refine ⟨hrun, hfile, hsecrets ▸ hpassword, hreads.trans (if_pos hne), ?_⟩
  rw [hfailed e w₂ hne hlost]

end Session

end PluginHarness
