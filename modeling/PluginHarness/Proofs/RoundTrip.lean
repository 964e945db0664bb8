import PluginHarness.Proofs.Location.Removing
import PluginHarness.Proofs.Setup.Success
import PluginHarness.Proofs.Teardown

/-!
# A round trip through the file system

Without commands and callbacks, both places are directories that are made and removed in the file
system. Their paths may be related in any way: they may be equal, and either may lie below the other.
So neither place can be reasoned about alone. What is made for the second one may already be there,
and what is removed for the first one may take the second one with it.

The relations between trees take care of this. Each creation only adds directories on the way to its
place, so what one creation made, the other one leaves standing. Each removal empties one location;
a place that is not below it still stands afterwards, and one that is below it is gone, with only
directories left on the way to it. Both cases end well.

## Main definitions

* `FileTree.MeetsNoLink`: no component of the path is a link.
* `FileTree.Emptied`: the locations of both places were emptied.

## Main results

* `Location.createDirectory_spec`, `Location.remove_of_stands`, `Location.remove_of_gone`: one
  creation, and one removal.
* `Session.round_trip`: what a setup and the tidying up after it do to the files.
-/

namespace PluginHarness

open Attempt World FileTree

namespace FileTree

/-- No component of the path is a link. -/
def MeetsNoLink (t : FileTree) (path : String) : Prop :=
  Along NoLink t (t.start path) (Path.names path.toList)

/-- Nothing is left of two places, and everything else is as it was. -/
structure Emptied (t : FileTree) (path : Place → String) (t' : FileTree) : Prop where
  gone : ∀ p, Gone t' (path p) (Path.names (path p).toList)
  get?_of_below : ∀ p l, t.location (path p) <+: l → t'.get? l = none
  get?_of_not_below : ∀ l, (∀ p, ¬ t.location (path p) <+: l) → t'.get? l = t.get? l

end FileTree

/-! ### One place -/

namespace Location

variable {path : String} {names : List String} {w w' : World}

/-- Creating a directory only adds directories on the way to it, and then it is there. -/
theorem createDirectory_spec (hp : Path.Spells path.toList names)
    (hlinks : Along NoLink w.files (w.files.start path) names)
    (h : createDirectory path w = (.ok (), w')) :
    Grown (w.files.start path) names w.files w'.files ∧ Stands w'.files path names := by
  rcases createDirectory_ok h with ⟨hd, rfl⟩ | ⟨-, hrun⟩
  · exact ⟨refl_of _ _, stands_of_isDirectory hp hlinks hd⟩
  · have hgrown := makeDirectories_grown hp hlinks
    rw [hrun] at hgrown
    exact ⟨hgrown, stands_of_makeDirectories hp hlinks hrun⟩

theorem create_fileSystem_spec (hp : Path.Spells path.toList names)
    (hlinks : Along NoLink w.files (w.files.start path) names) {d : Document}
    (h : create .fileSystem path w = (.ok d, w')) :
    d = .text path ∧ Grown (w.files.start path) names w.files w'.files ∧
      Stands w'.files path names := by
  have hne : path ≠ "" := by
    rintro rfl
    exact hp.ne_nil rfl
  obtain ⟨hd, hrun⟩ := create_fileSystem_ok hne h
  exact ⟨hd, createDirectory_spec hp hlinks hrun⟩

/-- A standing directory is removed with everything below it. -/
theorem remove_of_stands (hp : Path.Spells path.toList names) (h : Stands w.files path names) :
    ∃ w', remove .fileSystem (.text path) w = (.ok (), w') ∧
      Cleared (w.files.start path ++ names) w.files w'.files := by
  obtain ⟨w₁, hfiles, hremove⟩ := exists_removeEntry hp w
  rw [← hfiles] at h ⊢
  obtain ⟨t, hrun, hcleared⟩ := removeTree_of_stands hp h
  have hentry := removeEntry_of_directory (h.isDirectory hp) (h.isLink hp) hrun
  exact ⟨_, hremove.trans hentry, hcleared⟩

/-- What is gone counts as removed. -/
theorem remove_of_gone (hp : Path.Spells path.toList names) (h : Gone w.files path names) :
    ∃ w', remove .fileSystem (.text path) w = (.ok (), w') ∧ w'.files = w.files := by
  obtain ⟨w₁, hfiles, hremove⟩ := exists_removeEntry hp w
  rw [← hfiles] at h
  have hentry := removeEntry_of_missing (h.isDirectory_eq hp) (unlink_of_gone hp h)
  exact ⟨w₁, hremove.trans hentry, hfiles⟩

end Location

namespace Session

variable {s s' : Session × World}

/-! ### Setting up -/

/-- What a setup makes in the file system: directories on the way to the target, and then on the way
to the staging place, until both stand. -/
theorem files_of_setup (hdefault : ∀ p, s.1.config.strategy .creation p = .fileSystem)
    (hplain : ∀ p, Path.IsPlain (s.1.config.place p).path)
    (hlinks : ∀ p, s.2.files.MeetsNoLink (s.1.config.place p).path)
    (h : setup s = (.ok (), s')) :
    let path p := (s.1.config.place p).path
    let names p := Path.names (path p).toList
    (∃ t, Grown (s.2.files.start (path .target)) (names .target) s.2.files t ∧
      Grown (s.2.files.start (path .staging)) (names .staging) t s'.2.files) ∧
    ∀ p, s'.1.path p = .text (path p) ∧ Stands s'.2.files (path p) (names p) := by
  intro path names
  obtain ⟨-, w, hconf, w₁, w₂, ht, hg, hs'⟩ := created_of_setup h
  have hw : w.files = s.2.files := hconf.files_eq (by simp)
  rw [creation, hdefault] at ht hg
  have hlinks₀ (p : Place) : Along NoLink w.files (w.files.start (path p)) (names p) := by
    rw [hw]
    exact hlinks p
  obtain ⟨htarget, hgrown₁, hstands₁⟩ :=
    Location.create_fileSystem_spec (hplain .target).spells (hlinks₀ .target) ht
  obtain ⟨hstaging, hgrown₂, hstands₂⟩ :=
    Location.create_fileSystem_spec (hplain .staging).spells
      (w := (World.record (.created .target s'.1.target) w₁).2)
      (start_eq hgrown₁.cwd_eq (path .staging) ▸ hgrown₁.noLink (hlinks₀ .staging)) hg
  have hfiles : s'.2.files = w₂.files := by rw [hs']; rfl
  have hcwd : (World.record (.created .target s'.1.target) w₁).2.files.cwd = s.2.files.cwd :=
    hgrown₁.cwd_eq.trans (congrArg FileTree.cwd hw)
  rw [hw] at hgrown₁
  rw [start_eq hcwd] at hgrown₂
  rw [hfiles]
  refine ⟨⟨_, hgrown₁, hgrown₂⟩, fun p => ?_⟩
  cases p
  · exact ⟨htarget, hstands₁.grown hgrown₂⟩
  · exact ⟨hstaging, hstands₂⟩

/-! ### Tidying up -/

/-- A second place is removed after the first one, also when it is already gone with it. -/
theorem remove_staging {t : FileTree} {path : Place → String}
    (hplain : ∀ p, Path.IsPlain (path p))
    (h : ∀ p, Stands t (path p) (Path.names (path p).toList)) {w : World}
    (hw : Cleared (t.location (path .target)) t w.files) :
    ∃ w', Location.remove .fileSystem (.text (path .staging)) w = (.ok (), w') ∧
      Emptied t path w'.files := by
  have hspells := (hplain .staging).spells
  have htarget := (h .target).gone hw List.prefix_rfl
  by_cases hbelow : t.location (path .target) <+: t.location (path .staging)
  · have hstaging := (h .staging).gone hw hbelow
    obtain ⟨w', hrun, hfiles⟩ := Location.remove_of_gone hspells hstaging
    rw [← hfiles] at htarget hstaging hw
    refine ⟨w', hrun, fun p => ?_, fun p l hl => ?_, fun l hl => ?_⟩
    · cases p
      · exact htarget
      · exact hstaging
    · rw [hw.get?_eq, if_pos]
      cases p
      · exact hl
      · exact hbelow.trans hl
    · rw [hw.get?_eq, if_neg (hl .target)]
  · obtain ⟨w', hrun, hcleared⟩ :=
      Location.remove_of_stands hspells ((h .staging).cleared hw hbelow)
    have hlocation := location_eq hw.cwd_eq (path .staging)
    change Cleared (w.files.location (path .staging)) w.files w'.files at hcleared
    rw [hlocation] at hcleared
    refine ⟨w', hrun, fun p => ?_, fun p l hl => ?_, fun l hl => ?_⟩
    · cases p
      · exact htarget.cleared hcleared
      · exact ((h .staging).cleared hw hbelow).gone hcleared (hlocation ▸ List.prefix_rfl)
    · rw [hcleared.get?_eq, hw.get?_eq]
      cases p
      · rw [if_pos hl, ite_self]
      · exact if_pos hl
    · rw [hcleared.get?_eq, if_neg (hl .staging), hw.get?_eq, if_neg (hl .target)]

/-- Tidying up ends well when both removals do, whatever is reported between them. -/
theorem teardown_of_removed {w₁ : World} (ht : s.1.target.truthy = true)
    (hg : s.1.staging.truthy = true)
    (hrun : Location.remove (s.1.config.strategy .removal .target) s.1.target s.2 = (.ok (), w₁))
    {P : FileTree → Prop} (hrun' : ∀ w, w.files = w₁.files → ∃ w', Location.remove
      (s.1.config.strategy .removal .staging) s.1.staging w = (.ok (), w') ∧ P w'.files) :
    ∃ w', teardown s = (.ok (), (s.1.tidied, w')) ∧ P w'.files := by
  have hord : TidiesOrdinarily s := by
    refine ⟨fun e w h => ?_, fun errors w hremoval e w' h => ?_⟩
    · cases hrun.symm.trans h
    · obtain ⟨w₂, hok, -⟩ := hrun' w (hremoval.of_ok hrun ht).2
      cases hok.symm.trans h
  obtain ⟨errors, errors', w, w', hremoval, hremoval', hteardown⟩ := teardown_course hord
  obtain ⟨rfl, hfiles⟩ := hremoval.of_ok hrun ht
  obtain ⟨w₂, hok, hP⟩ := hrun' w hfiles
  obtain ⟨rfl, hfiles'⟩ := hremoval'.of_ok hok hg
  exact ⟨w', hteardown, hfiles' ▸ hP⟩

/-- Tidying up empties the locations of two places that stand. -/
theorem teardown_of_stands {path : Place → String} (hplain : ∀ p, Path.IsPlain (path p))
    (hdefault : ∀ p, s.1.config.strategy .removal p = .fileSystem)
    (hpath : ∀ p, s.1.path p = .text (path p))
    (h : ∀ p, Stands s.2.files (path p) (Path.names (path p).toList)) :
    ∃ w', teardown s = (.ok (), (s.1.tidied, w')) ∧ Emptied s.2.files path w'.files := by
  have htruthy (p : Place) : (s.1.path p).truthy = true := by
    have hne : path p ≠ "" := fun he => (hplain p).spells.ne_nil (congrArg String.toList he)
    rw [hpath]
    simpa [Document.truthy] using hne
  obtain ⟨w₁, hrun, hcleared⟩ := Location.remove_of_stands (hplain .target).spells (h .target)
  rw [← hdefault .target, ← show s.1.target = _ from hpath .target] at hrun
  refine teardown_of_removed (htruthy .target) (htruthy .staging) hrun fun w hw => ?_
  rw [hdefault, show s.1.staging = _ from hpath .staging]
  exact remove_staging hplain h (hw ▸ hcleared)

/-- **A round trip leaves the files as they were,** apart from the places themselves. With paths
that are plain and meet no link, and without commands and callbacks: after a setup that ends well
both paths are directories, and nothing that was there has changed. The tidying up after it ends
well. Then neither path leads anywhere and nothing is left at or below their locations. Everywhere
else everything is as before the setup, but for directories above the locations: those that were
missing were made and stay. -/
theorem round_trip (hdefault : ∀ a p, s.1.config.strategy a p = .fileSystem)
    (hplain : ∀ p, Path.IsPlain (s.1.config.place p).path)
    (hlinks : ∀ p, s.2.files.MeetsNoLink (s.1.config.place p).path)
    (hok : setup s = (.ok (), s')) :
    let path p := (s.1.config.place p).path
    let location p := s.2.files.location (path p)
    (∀ p, s'.2.files.isDirectory (path p) = true) ∧
    (∀ l e, s.2.files.get? l = some e → s'.2.files.get? l = some e) ∧
    ∀ w, w.files = s'.2.files → ∃ w', teardown (s'.1, w) = (.ok (), (s'.1.tidied, w')) ∧
      (∀ p, w'.files.exists? (path p) = false) ∧
      (∀ p l, location p <+: l → w'.files.get? l = none) ∧
      ∀ l, (∀ p, ¬ location p <+: l) → w'.files.get? l = s'.2.files.get? l ∧
        (s'.2.files.get? l = s.2.files.get? l ∨ s.2.files.get? l = none ∧
          s'.2.files.get? l = some .directory ∧ ∃ p, l <+: location p) := by
  intro path location
  obtain ⟨⟨t, hgrown, hgrown'⟩, hplaces⟩ := files_of_setup (hdefault .creation) hplain hlinks hok
  have hconfig := (created_of_setup hok).1
  refine ⟨fun p => (hplaces p).2.isDirectory (hplain p).spells,
    fun l e he => hgrown'.get?_of_some (hgrown.get?_of_some he), fun w hw => ?_⟩
  obtain ⟨w', hteardown, hempty⟩ := teardown_of_stands (s := (s'.1, w)) hplain
    (fun p => by rw [hconfig, hdefault]) (fun p => (hplaces p).1) (fun p => hw ▸ (hplaces p).2)
  rw [hw] at hempty
  have hlocation (p : Place) : s'.2.files.location (path p) = location p :=
    location_eq (hgrown'.cwd_eq.trans hgrown.cwd_eq) (path p)
  refine ⟨w', hteardown, fun p => (hempty.gone p).exists?_eq (hplain p).spells,
    fun p l hl => hempty.get?_of_below p l (hlocation p ▸ hl), fun l hl =>
      ⟨hempty.get?_of_not_below l fun p => hlocation p ▸ hl p, ?_⟩⟩
  rcases hgrown.get?_eq l with heq | ⟨hnone, hsome, front, hfront, -, rfl⟩
  · rcases hgrown'.get?_eq l with heq' | ⟨hnone, hsome, front, hfront, -, rfl⟩
    · exact .inl (heq'.trans heq)
    · exact .inr ⟨heq ▸ hnone, hsome, .staging, (List.prefix_append_right_inj _).mpr hfront⟩
  · exact .inr ⟨hnone, hgrown'.get?_of_some hsome, .target,
      (List.prefix_append_right_inj _).mpr hfront⟩

/-- The staging place is below the target, and its path starts elsewhere. -/
def nested : Config :=
  { Config.placeless with
    address := "node"
    target := ⟨"/a/b", Config.defaultStep, Config.defaultStep⟩
    staging := ⟨"b/c", Config.defaultStep, Config.defaultStep⟩ }

/-- There is a file `keep` in the directory `a`, which relative paths start from. -/
def keeping : FileTree := ⟨[(["a"], .directory), (["a", "keep"], .file [1])], ["a"]⟩

theorem meetsNoLink_keeping (p : Place) : keeping.MeetsNoLink (nested.place p).path := by
  have hdirectory : NoLink (keeping.get? ["a"]) := IsDirectory.noLink rfl
  have hfree (more : List String) : NoLink (keeping.get? ("a" :: "b" :: more)) :=
    IsFree.noLink (.inr rfl)
  cases p
  · have hnames : Path.names "/a/b".toList = ["a", "b"] := by decide +kernel
    have hstart : keeping.start "/a/b" = [] := by decide +kernel
    show Along NoLink keeping (keeping.start "/a/b") (Path.names "/a/b".toList)
    rw [hnames, hstart, along_cons, along_cons]
    exact ⟨hdirectory, hfree [], along_nil⟩
  · have hnames : Path.names "b/c".toList = ["b", "c"] := by decide +kernel
    have hstart : keeping.start "b/c" = ["a"] := by decide +kernel
    show Along NoLink keeping (keeping.start "b/c") (Path.names "b/c".toList)
    rw [hnames, hstart, along_cons, along_cons]
    exact ⟨hfree [], hfree ["c"], along_nil⟩

/-- Removing the target takes the staging place with it; the file beside them stays. -/
theorem round_trip_nested :
    let s : Session × World := (fresh nested .plain "", initial .stubborn keeping)
    (∀ a p, s.1.config.strategy a p = .fileSystem) ∧
      (∀ p, Path.IsPlain (s.1.config.place p).path) ∧
      (∀ p, s.2.files.MeetsNoLink (s.1.config.place p).path) ∧
      ∃ s' w', setup s = (.ok (), s') ∧ s'.2.files.isDirectory "b/c" = true ∧
        teardown s' = (.ok (), (s'.1.tidied, w')) ∧ w'.files.get? ["a", "b", "c"] = none ∧
        w'.files.get? ["a", "keep"] = some (.file [1]) := by
  intro s
  have hdefault (a : Action) (p : Place) : s.1.config.strategy a p = .fileSystem := by
    cases a <;> cases p <;> decide +kernel
  have hplain (p : Place) : Path.IsPlain (s.1.config.place p).path := by
    cases p <;> decide +kernel
  have hended : (setup s).1.toOption.isSome = true := by decide +kernel
  rcases hok : setup s with ⟨_ | _, s'⟩ <;> rw [hok] at hended
  · cases hended
  obtain ⟨hdirectory, hkept, hteardown⟩ := round_trip hdefault hplain meetsNoLink_keeping hok
  obtain ⟨w', hrun, -, hgone, hstays⟩ := hteardown s'.2 rfl
  have hlocation (p : Place) : s.2.files.location (s.1.config.place p).path =
      if p = .target then ["a", "b"] else ["a", "b", "c"] := by
    cases p <;> decide +kernel
  dsimp only at hgone hstays
  simp only [hlocation] at hgone hstays
  refine ⟨hdefault, hplain, meetsNoLink_keeping, s', w', rfl, hdirectory .staging, hrun,
    hgone .target _ (by decide), ?_⟩
  rw [(hstays _ fun p => by cases p <;> decide).1]
  exact hkept _ _ rfl

end Session

end PluginHarness
