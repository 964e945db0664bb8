import PluginHarness.Proofs.Location.Creating
import PluginHarness.Proofs.Setup.Success

/-!
# Setting up again

A scenario may begin where another one was set up already. Then everything is there, and a setup
should leave it alone. Each stage finds what the first setup left for it: the credentials of the
configured file, connections to the configured addresses, and places. For credentials and
connections this is a property of the session, which holds after every setup that ended well.

A place is found in the file system, also when it is equal to the other place or lies above or below
it, since each creation only adds directories. There is one exception. A path whose last name is `.`
may lead to nothing even after it was created, because nothing is made for this name, and that there
is something in the place of the directory above it is no failure. What the other creation adds may
then make the path lead to something that is no directory, and this ends a setup that comes again.

## Main definitions

* `Path.EndsInItself`: the last name of the path is `.`.
* `FileTree.Admits`: the path leads to a directory or to nothing.
* `Session.Prepared`: credentials and connections are as they are configured.
* `Session.Stored`: the stored path of a place is that of a creation.

## Main results

* `Location.createDirectory_again`: a location is created again.
* `Session.prepared_of_setup`, `Session.setup_of_prepared`: a setup leaves a session that the next
  one has nothing to do for but create the places.
* `Session.setup_again`: a setup that comes again changes nothing.
-/

namespace PluginHarness

open Attempt World FileTree

/-- The last name of the path is `.`, so it leads to what the names before it lead to. -/
def Path.EndsInItself (path : String) : Prop := (Path.names path.toList).getLast? = some "."

/-- The path leads to a directory or to nothing. -/
def FileTree.Admits (t : FileTree) (path : String) : Prop :=
  t.isDirectory path = true ∨ t.find path = .error (.system (.missing path))

/-! ### Locations -/

namespace Location

variable {path : String} {w w' v : World}

/-- Creating a location only adds directories. -/
theorem extended_of_createDirectory (h : createDirectory path w = (.ok (), w')) :
    Extended w.files w'.files := by
  rcases createDirectory_ok h with ⟨-, rfl⟩ | ⟨-, hrun⟩
  · exact refl_of Extended w'.files
  · have hextended := makeDirectoriesFrom_extended true (path.length + 1) path w.files
    rwa [show makeDirectoriesFrom (path.length + 1) true path w.files = _ from hrun] at hextended

/-- A location that was created is a directory, unless the last name of its path is `.`. -/
theorem isDirectory_of_createDirectory (hne : path ≠ "") (hlast : ¬ Path.EndsInItself path)
    (h : createDirectory path w = (.ok (), w')) : w'.files.isDirectory path = true := by
  rcases createDirectory_ok h with ⟨hd, rfl⟩ | ⟨hmissing, hrun⟩
  · exact hd
  · obtain ⟨-, hreach⟩ := reach_of_missing hne hmissing
    rcases hsplit : aboveAndLast path.toList with ⟨above, last⟩
    obtain ⟨-, hnil⟩ | ⟨-, hparted⟩ := aboveAndLast_cases hsplit
    · rw [hnil] at hreach
      cases hreach
    · have hitself : last ≠ ['.'] := by
        rintro rfl
        exact hlast (by rw [Path.EndsInItself, hparted.names_eq, List.getLast?_concat])
      have hended := makeDirectoriesFrom_ended hsplit hitself path.length true w.files
      rw [show makeDirectoriesFrom (path.length + 1) true path w.files = _ from hrun] at hended
      rcases hended with ⟨-, hd⟩ | ⟨e, he, -⟩
      · exact hd
      · cases he

/-- **A location is created again,** also after others were created, where its path is admitted.
Then nothing changes. Nothing changes either where it is not admitted, but this is a failure. -/
theorem createDirectory_again (hne : path ≠ "") (h : createDirectory path w = (.ok (), w'))
    (hextended : Extended w'.files v.files) :
    (∃ v', createDirectory path v = (.ok (), v') ∧ Confined [] v v' ∧
      (Path.EndsInItself path → v.files.Admits path)) ∨
    ∃ f, createDirectory path v = (.error f, v) ∧
      ¬ (Path.EndsInItself path → v.files.Admits path) := by
  by_cases hd : v.files.isDirectory path = true
  · exact .inl ⟨v, createDirectory_of_isDirectory hd, refl_of _ v, fun _ => .inl hd⟩
  have hcreated : ¬ w'.files.isDirectory path = true :=
    fun hd' => hd (isDirectory_extended hextended hd')
  by_cases hmissing : v.files.find path = .error (.system (.missing path))
  · refine .inl ?_
    rcases createDirectory_ok h with ⟨hd', rfl⟩ | ⟨-, hrun⟩
    · exact absurd hd' hcreated
    · obtain ⟨r, hagain, -, hr⟩ := makeDirectoriesFrom_again true (path.length + 1) hne hrun trivial
        hextended hmissing
      obtain rfl := hr rfl
      refine ⟨(report "provisioning" .debug ("Created directory " ++ path) v).2, ?_,
        report_respects _ _ _ v, fun _ => .inr hmissing⟩
      rw [createDirectory_of_missing hmissing]
      exact bind_of_ok (onFiles_run hagain)
  · refine .inr ?_
    have hitself : Path.EndsInItself path := by
      by_contra hlast
      exact hcreated (isDirectory_of_createDirectory hne hlast h)
    have hrefused : ¬ (Path.EndsInItself path → v.files.Admits path) := by
      intro hadmits
      exact (hadmits hitself).elim hd hmissing
    rcases hfind : v.files.find path with f | ⟨loc, e⟩
    · exact ⟨_, createDirectory_of_refused hfind fun hf => hmissing (hf ▸ hfind), hrefused⟩
    · rw [isDirectory_of_find hfind] at hd
      rw [createDirectory_of_found hfind, if_neg fun he => hd (by simp [he])]
      exact ⟨_, rfl, hrefused⟩

end Location

namespace Session

variable {s s' : Session × World}

/-! ### Credentials and connections -/

/-- Credentials and connections are as they are configured. -/
structure Prepared (s : Session) : Prop where
  secretsFile_eq : s.secretsFile = s.config.secretsFile
  secrets_eq : s.secretsFile = "" → s.secrets = Secrets.empty
  keeps : s.node.Keeps s.config.address
  shares : s.config.controllerAddress = "" → s.controller.sharing s.node = s.controller
  keeps_controller :
    s.config.controllerAddress ≠ "" → s.controller.Keeps s.config.controllerAddress

/-- What a setup leaves of credentials: those of the configured file, or none. -/
theorem credentials_of_setup (h : setup s = (.ok (), s')) :
    s'.1.secretsFile = s.1.config.secretsFile ∧
      (s'.1.secretsFile = "" → s'.1.secrets = Secrets.empty) := by
  have hkept := setup_credentials s
  have hcourse := loadSecrets_course s
  rw [h] at hkept
  generalize hr : loadSecrets s = r at hkept hcourse
  obtain ⟨hfile, hsecrets⟩ := Prod.mk.inj hkept
  cases hcourse with
  | absent hnone => exact ⟨hfile.trans hnone.symm, fun _ => hsecrets⟩
  | remembered hne hf =>
    exact ⟨hfile.trans hf.symm, fun he => absurd (hf.trans (hfile.symm.trans he)) hne⟩
  | loaded hne => exact ⟨hfile, fun he => absurd (hfile.symm.trans he) hne⟩
  | failed => cases (setup_of_secrets_error hr).symm.trans h

/-- After a setup that ended well, credentials and connections are as they are configured. -/
theorem prepared_of_setup (h : setup s = (.ok (), s')) (hnode : s'.1.node.isBound = true)
    (hcontroller : s.1.config.controllerAddress ≠ "" → s'.1.controller.isBound = true) :
    Prepared s'.1 := by
  obtain ⟨hfile, hsecrets⟩ := credentials_of_setup h
  obtain ⟨hconfig, -⟩ := created_of_setup h
  obtain ⟨c, c', s₂, s₃, hstep, h₃, hprov⟩ := setup_ok h
  obtain ⟨hpaths, -⟩ := provision_ok hprov
  rw [hstep.connected h₃] at hpaths
  have hnode' : s'.1.node = s.1.node.bound c s.1.config.address := by rw [hpaths]; rfl
  have hcontroller' : s'.1.controller = if s.1.config.controllerAddress = ""
      then s.1.controller.sharing (s.1.node.bound c s.1.config.address)
      else s.1.controller.bound c' s.1.config.controllerAddress := by rw [hpaths]; rfl
  constructor
  · rw [hfile, hconfig]
  · exact hsecrets
  · refine ⟨?_, hnode, ?_⟩
    · rw [hnode']
      rfl
    · rw [hnode', hconfig]
      rfl
  · intro hempty
    rw [hconfig] at hempty
    rw [hcontroller', if_pos hempty, hnode']
    rfl
  · intro hne
    rw [hconfig] at hne ⊢
    refine ⟨?_, hcontroller hne, ?_⟩
    · rw [hcontroller', if_neg hne]
      rfl
    · rw [hcontroller', if_neg hne]
      rfl

namespace Prepared

/-- Prepared credentials are left alone. -/
theorem loadSecrets_eq (h : Prepared s.1) : loadSecrets s = (.ok (), s) := by
  have hcourse := loadSecrets_course s
  generalize loadSecrets s = r at hcourse ⊢
  cases hcourse with
  | absent hnone =>
    have hfile := h.secretsFile_eq.trans hnone
    rw [← hfile, ← h.secrets_eq hfile]
  | remembered => rfl
  | loaded _ hf => exact absurd h.secretsFile_eq.symm hf
  | failed _ hf => exact absurd h.secretsFile_eq.symm hf

/-- A prepared connection to the plugin is used again. -/
theorem connectNode_eq (h : Prepared s.1) :
    ∃ w, connectNode s = (.ok s.1.node.connection, (s.1, w)) ∧ Confined [] s.2 w := by
  obtain ⟨w, hrun, hconf⟩ := Endpoint.ensure_of_keeps h.keeps s.2
  refine ⟨w, ?_, hconf⟩
  have hnode : onNode (Endpoint.ensure s.1.config.address) s =
      (.ok s.1.node.connection, (s.1, w)) := by
    simp only [onNode, on_apply, hrun]
  exact explained_of_ok hnode _

/-- A prepared connection to the controller is shared or used again. -/
theorem connectController_eq (h : Prepared s.1) :
    ∃ c w, connectController s = (.ok c, (s.1, w)) ∧ Confined [] s.2 w := by
  by_cases hempty : s.1.config.controllerAddress = ""
  · have hshares := h.shares hempty
    have howned : s.1.controller.owned = false := by
      rw [← hshares]
      rfl
    have hrun : Endpoint.share s.1.node (s.1.controller, s.2) =
        (.ok s.1.node.connection, (s.1.controller.sharing s.1.node, s.2)) := by
      simp only [Endpoint.share, bind_apply, state_apply, howned]
      rfl
    rw [hshares] at hrun
    refine ⟨s.1.node.connection, s.2, ?_, refl_of _ s.2⟩
    rw [connectController_of_empty hempty]
    simp only [onController, on_apply, hrun]
  · obtain ⟨w, hrun, hconf⟩ := Endpoint.ensure_of_keeps (h.keeps_controller hempty) s.2
    refine ⟨s.1.controller.connection, w, ?_, hconf⟩
    have hcontroller : onController (Endpoint.ensure s.1.config.controllerAddress) s =
        (.ok s.1.controller.connection, (s.1, w)) := by
      simp only [onController, on_apply, hrun]
    rw [connectController_of_ne hempty]
    exact explained_of_ok hcontroller _

end Prepared

/-- A setup of a prepared session only has to create the places. -/
theorem setup_of_prepared (h : Prepared s.1) :
    ∃ w, setup s = provision (s.1, w) ∧ Confined [] s.2 w := by
  obtain ⟨w, hnode, hconf⟩ := h.connectNode_eq
  obtain ⟨c, w', hcontroller, hconf'⟩ := Prepared.connectController_eq (s := (s.1, w)) h
  refine ⟨w', ?_, trans_of _ hconf hconf'⟩
  have hconnect : connect s = (.ok (), (s.1, w')) := by
    rw [connect, bind_of_ok hnode, bind_of_ok hcontroller]
    rfl
  rw [setup, bind_of_ok h.loadSecrets_eq, bind_of_ok hconnect]

/-! ### Places -/

/-- The stored path of a place is that of a creation, and only directories were added since. -/
def Stored (s : Session × World) (p : Place) : Prop :=
  ∃ w w', s.1.creation p w = (.ok (s.1.path p), w') ∧ Extended w'.files s.2.files

/-- Where a configured path ends in `.`, it leads to a directory or to nothing. -/
def Admitted (config : Config) (t : FileTree) (p : Place) : Prop :=
  (config.place p).path ≠ "" → Path.EndsInItself (config.place p).path →
    t.Admits (config.place p).path

section Places

variable {d : Document} {p : Place} {w w' v : World}

/-- A place without a path is created by doing nothing. -/
theorem creation_of_empty {s : Session} (h : (s.config.place p).path = "") (w : World) :
    s.creation p w = (.ok noPath, w) := by
  rw [creation, h]
  rfl

/-- What the creation of a place in the file system did. -/
theorem creation_ok {s : Session} (hne : (s.config.place p).path ≠ "")
    (hdefault : s.config.strategy .creation p = .fileSystem)
    (h : s.creation p w = (.ok d, w')) :
    d = .text (s.config.place p).path ∧
      Location.createDirectory (s.config.place p).path w = (.ok (), w') := by
  rw [creation, hdefault] at h
  exact Location.create_fileSystem_ok hne h

variable {s : Session}
  (hdefault : ∀ p, (s.config.place p).path ≠ "" → s.config.strategy .creation p = .fileSystem)

include hdefault

theorem extended_of_creation (h : s.creation p w = (.ok d, w')) :
    Extended w.files w'.files := by
  by_cases hne : (s.config.place p).path = ""
  · cases (creation_of_empty hne w).symm.trans h
    exact refl_of Extended w.files
  · exact Location.extended_of_createDirectory (creation_ok hne (hdefault p hne) h).2

/-- A place is created again as its location is. -/
theorem creation_again (h : s.creation p w = (.ok d, w')) (hextended : Extended w'.files v.files) :
    (∃ v', s.creation p v = (.ok d, v') ∧ Confined [] v v' ∧ Admitted s.config v.files p) ∨
      ∃ f, s.creation p v = (.error f, v) ∧ ¬ Admitted s.config v.files p := by
  by_cases hne : (s.config.place p).path = ""
  · cases (creation_of_empty hne w).symm.trans h
    exact .inl ⟨v, creation_of_empty hne v, refl_of _ v, fun hne' => absurd hne hne'⟩
  · obtain ⟨rfl, hrun⟩ := creation_ok hne (hdefault p hne) h
    rw [creation, hdefault p hne, Location.create_fileSystem hne]
    rcases Location.createDirectory_again hne hrun hextended with
      ⟨v', hagain, hconf, hadmits⟩ | ⟨f, hagain, hadmits⟩
    · rw [hagain]
      exact .inl ⟨v', rfl, hconf, fun _ => hadmits⟩
    · rw [hagain]
      exact .inr ⟨f, rfl, fun hadmitted => hadmits (hadmitted hne)⟩

end Places

theorem stored_of_setup
    (hdefault : ∀ p, (s.1.config.place p).path ≠ "" → s.1.config.strategy .creation p = .fileSystem)
    (h : setup s = (.ok (), s')) (p : Place) : Stored s' p := by
  obtain ⟨hconfig, w, -, w₁, w₂, ht, hg, hs'⟩ := created_of_setup h
  have hcreation (p : Place) := (creation_congr hconfig p).1
  have hfiles : s'.2.files = w₂.files := by rw [hs']; rfl
  cases p
  · refine ⟨w, w₁, ?_, ?_⟩
    · rw [hcreation]
      exact ht
    · have hextended := extended_of_creation hdefault hg
      rwa [hfiles]
  · refine ⟨(World.record (.created .target s'.1.target) w₁).2, w₂, ?_, ?_⟩
    · rw [hcreation]
      exact hg
    · rw [hfiles]
      exact refl_of Extended w₂.files

section Again

variable
  (hdefault : ∀ p, (s.1.config.place p).path ≠ "" → s.1.config.strategy .creation p = .fileSystem)

include hdefault

/-- A stored place is created again, under the same path, where its path is admitted. -/
theorem createPlace_again {p : Place} {v : World} (h : Stored s p) (hfiles : v.files = s.2.files) :
    (∃ v', createPlace p (s.1, v) = (.ok (), (s.1, v')) ∧ Confined [.creation] v v' ∧
      Admitted s.1.config s.2.files p) ∨
    ∃ e, createPlace p (s.1, v) = (.error e, (s.1, v)) ∧ ¬ Admitted s.1.config s.2.files p := by
  obtain ⟨w, w', hcreated, hextended⟩ := h
  rw [← hfiles] at hextended ⊢
  have hrun := createPlace_apply p (s.1, v)
  rcases creation_again hdefault hcreated hextended with
    ⟨v', hagain, hconf, hadmitted⟩ | ⟨f, hagain, hrefused⟩
  · simp only [hagain] at hrun
    have hsame : setPath p (s.1.path p) s.1 = s.1 := by cases p <;> rfl
    have hrecord : Confined [.creation] v' (World.record (.created p (s.1.path p)) v').2 :=
      record_respects (fun t ht => by cases ht; exact .head _) v'
    rw [hsame] at hrun
    exact .inl ⟨_, hrun, trans_of _ (hconf.mono (by simp)) hrecord, hadmitted⟩
  · simp only [hagain] at hrun
    exact .inr ⟨_, hrun, hrefused⟩

/-- Stored places are created again where their paths are admitted. Nothing changes in any case. -/
theorem provision_again (h : ∀ p, Stored s p) :
    ((provision s).1 = .ok () ↔ ∀ p, Admitted s.1.config s.2.files p) ∧
      (provision s).2.1 = s.1 ∧ Confined [.creation] s.2 (provision s).2.2 := by
  let w := (World.reportStep "context" "creating mount and staging directories" s.2).2
  have hw : Confined [.creation] s.2 w := reportStep_respects _ _ s.2
  have hrun : provision s = (createPlace .target >>= fun _ => createPlace .staging) (s.1, w) := rfl
  rw [hrun]
  rcases createPlace_again hdefault (h .target) (hw.files_eq (by simp)) with
    ⟨w₁, htarget, hconf, hadmitted⟩ | ⟨e, htarget, hrefused⟩
  · rw [bind_of_ok htarget]
    have hw₁ := trans_of (Confined [.creation]) hw hconf
    rcases createPlace_again hdefault (h .staging) (hw₁.files_eq (by simp)) with
      ⟨w₂, hstaging, hconf', hadmitted'⟩ | ⟨e, hstaging, hrefused⟩
    · rw [hstaging]
      refine ⟨⟨fun _ p => ?_, fun _ => rfl⟩, rfl, trans_of _ hw₁ hconf'⟩
      cases p
      · exact hadmitted
      · exact hadmitted'
    · rw [hstaging]
      exact ⟨⟨nofun, fun hall => absurd (hall .staging) hrefused⟩, rfl, hw₁⟩
  · rw [bind_of_error htarget]
    exact ⟨⟨nofun, fun hall => absurd (hall .target) hrefused⟩, rfl, hw⟩

end Again

/-- **A setup that comes again changes nothing.** After a setup that ended well, with connections
and without commands and callbacks for the places that have a path, and with the files as they were
left: another setup leaves the session as it is, neither dials nor closes, reads no credentials and
changes no file. It ends well exactly when each path that ends in `.` leads to a directory or to
nothing. -/
theorem setup_again {w : World}
    (hdefault : ∀ p, (s.1.config.place p).path ≠ "" → s.1.config.strategy .creation p = .fileSystem)
    (hok : setup s = (.ok (), s')) (hnode : s'.1.node.isBound = true)
    (hcontroller : s.1.config.controllerAddress ≠ "" → s'.1.controller.isBound = true)
    (hfiles : w.files = s'.2.files) :
    let again := setup (s'.1, w)
    (again.1 = .ok () ↔ ∀ p, (s.1.config.place p).path ≠ "" →
      Path.EndsInItself (s.1.config.place p).path → w.files.Admits (s.1.config.place p).path) ∧
    again.2.1 = s'.1 ∧ Confined [.creation] w again.2.2 := by
  intro again
  have hconfig := (created_of_setup hok).1
  have hprepared : Prepared s'.1 := prepared_of_setup hok hnode hcontroller
  obtain ⟨w', hrun, hconf⟩ := setup_of_prepared (s := (s'.1, w)) hprepared
  have hfiles' : w'.files = w.files := hconf.files_eq (by simp)
  have hstored (p : Place) : Stored (s'.1, w') p := by
    obtain ⟨w₀, w₁, hcreated, hextended⟩ := stored_of_setup hdefault hok p
    exact ⟨w₀, w₁, hcreated, by rwa [hfiles', hfiles]⟩
  rw [← hconfig] at hdefault
  obtain ⟨hiff, hsession, hconf'⟩ := provision_again (s := (s'.1, w')) hdefault hstored
  rw [show (s'.1, w').2.files = w.files from hfiles', show (s'.1, w').1.config = _ from hconfig]
    at hiff
  rw [show again = _ from hrun]
  exact ⟨hiff, hsession, trans_of _ (hconf.mono (by simp)) hconf'⟩

/-- The target ends in `.`, and the staging place is below it. -/
def beneath : Config :=
  { Config.placeless with
    address := "node"
    controllerAddress := "controller"
    target := ⟨"a/.", Config.defaultStep, Config.defaultStep⟩
    staging := ⟨"a/b", Config.defaultStep, Config.defaultStep⟩ }

/-- Both places are there for a second setup, and both connections are used again. -/
theorem setup_again_beneath :
    let s : Session × World := (fresh beneath .plain "", initial .stubborn ⟨[], []⟩)
    (∀ p, s.1.config.strategy .creation p = .fileSystem) ∧
      ∃ s', setup s = (.ok (), s') ∧ s'.1.node.isBound = true ∧ s'.1.controller.isBound = true ∧
        ∃ w, setup s' = (.ok (), (s'.1, w)) ∧ Confined [.creation] s'.2 w := by
  intro s
  have hdefault (p : Place) : s.1.config.strategy .creation p = .fileSystem := by
    cases p <;> decide +kernel
  have hended : (setup s).1.toOption.isSome = true := by decide +kernel
  have hbound : (setup s).2.1.node.isBound = true ∧ (setup s).2.1.controller.isBound = true := by
    decide +kernel
  have hdirectory (p : Place) :
      (setup s).2.2.files.isDirectory (s.1.config.place p).path = true := by
    cases p <;> decide +kernel
  rcases hok : setup s with ⟨_ | _, s'⟩ <;> rw [hok] at hended hbound hdirectory
  · cases hended
  obtain ⟨hends, hsession, hconf⟩ :=
    setup_again (fun p _ => hdefault p) hok hbound.1 (fun _ => hbound.2) rfl
  have hagain := hends.mpr fun p _ _ => .inl (hdirectory p)
  exact ⟨hdefault, s', rfl, hbound.1, hbound.2, (setup s').2.2,
    Prod.ext hagain (Prod.ext hsession rfl), hconf⟩

/-- The target ends in `.`, and the staging place is elsewhere. -/
def aslant : Config :=
  { Config.placeless with
    address := "A"
    target := ⟨"L/.", Config.defaultStep, Config.defaultStep⟩
    staging := ⟨"x", Config.defaultStep, Config.defaultStep⟩ }

/-- A link to a file leads nowhere until there is a directory `x`. -/
def detour : FileTree := ⟨[(["f"], .file []), (["L"], .link "x/../f")], []⟩

/-- The staging place makes the target lead to a file, so a second setup fails. -/
theorem setup_again_aslant :
    let s : Session × World := (fresh aslant .plain "", initial .stubborn detour)
    (∀ p, s.1.config.strategy .creation p = .fileSystem) ∧
      ∃ s', setup s = (.ok (), s') ∧ s'.1.node.isBound = true ∧
        ∃ e s'', setup s' = (.error e, s'') := by
  intro s
  have hdefault (p : Place) : s.1.config.strategy .creation p = .fileSystem := by
    cases p <;> decide +kernel
  have hended : (setup s).1.toOption.isSome = true := by decide +kernel
  have hbound : (setup s).2.1.node.isBound = true := by decide +kernel
  have hfailed : (setup (setup s).2).1.toOption.isSome = false := by decide +kernel
  rcases hok : setup s with ⟨_ | _, s'⟩ <;> rw [hok] at hended hbound hfailed
  · cases hended
  refine ⟨hdefault, s', rfl, hbound, ?_⟩
  rcases hagain : setup s' with ⟨e | _, s''⟩ <;> rw [hagain] at hfailed
  · exact ⟨e, s'', rfl⟩
  · cases hfailed

end Session

end PluginHarness
