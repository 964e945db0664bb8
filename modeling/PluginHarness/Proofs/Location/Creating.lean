import PluginHarness.Proofs.Files.Making
import PluginHarness.Proofs.Frame

/-!
# Creating a location in the file system

A location that is there already is left alone when it is a directory and refused otherwise. One
that is missing is made together with what is missing above it. For a plain path this is all or
nothing: there are only two ways in which making a missing directory can fail, and in both of them
nothing was made before. Either there is a link in its place that leads nowhere, or the same holds
of one of the directories above it.

## Main results

* `Location.createDirectory_of_found`, `createDirectory_of_refused`, `createDirectory_of_missing`:
  one creation, by what the path leads to.
* `Location.createDirectory_ok`: what was done by a creation that ended well.
* `Location.creates_or_leaves_alone`: a location is created or nothing changes.
-/

namespace PluginHarness

open Attempt World FileTree

theorem FileTree.refused?_of_locate {t : FileTree} {followLast : Bool} {path : String}
    {found : List String × Entry} (h : t.locate followLast path = .ok found) :
    refused? path = none := by
  rw [locate] at h
  cases hr : refused? path with
  | none => rfl
  | some f =>
    rw [hr] at h
    cases h

/-- A path is refused for a null character, or the operating system says what is wrong with it. -/
theorem FileTree.locate_error {t : FileTree} {followLast : Bool} {path : String} {f : Fault}
    (h : t.locate followLast path = .error f) :
    if '\x00' ∈ path.toList then f = .embeddedNull else (Failure.fault f).isSystem = true := by
  rw [locate] at h
  by_cases hnull : '\x00' ∈ path.toList
  · rw [if_pos hnull]
    rw [refused?, if_pos (by simpa using hnull)] at h
    exact (Except.error.inj h).symm
  · rw [if_neg hnull]
    rw [refused?, if_neg (by simpa using hnull)] at h
    split at h
    · next hr =>
      split at hr
      · cases hr
        cases h
        rfl
      · split at hr
        · cases hr
          cases h
          rfl
        · cases hr
    · split at h <;> cases h
      rfl

namespace Location

variable {path : String} {w w' : World} {loc : List String} {e : Entry}

/-! ### One creation -/

theorem createDirectory_of_found (h : w.files.find path = .ok (loc, e)) :
    createDirectory path w =
      (if e = .directory then .ok () else .error (.fault (.occupied path)), w) := by
  rw [createDirectory, bind_of_ok (state_apply w), h]
  cases e <;> rfl

theorem createDirectory_of_refused {f : Fault} (h : w.files.find path = .error f)
    (hne : f ≠ .system (.missing path)) : createDirectory path w = (.error (.fault f), w) := by
  rw [createDirectory, bind_of_ok (state_apply w), h]
  cases f with
  | system f => exact congrFun (if_neg fun hf => hne (congrArg Fault.system hf)) w
  | _ => rfl

theorem createDirectory_of_missing (h : w.files.find path = .error (.system (.missing path))) :
    createDirectory path w = (do
      World.onFiles (FileTree.makeDirectories path)
      World.report "provisioning" .debug ("Created directory " ++ path)) w := by
  rw [createDirectory, bind_of_ok (state_apply w), h]
  exact congrFun (if_pos rfl) w

theorem createDirectory_of_failed {f : Failure} {t : FileTree}
    (h : w.files.find path = .error (.system (.missing path)))
    (hrun : makeDirectories path w.files = (.error f, t)) :
    createDirectory path w = (.error f, { w with files := t }) := by
  rw [createDirectory_of_missing h, bind_of_error (onFiles_run hrun)]

theorem createDirectory_of_made {t : FileTree}
    (h : w.files.find path = .error (.system (.missing path)))
    (hrun : makeDirectories path w.files = (.ok (), t)) :
    ∃ w', createDirectory path w = (.ok (), w') ∧ w'.files = t := by
  rw [createDirectory_of_missing h, bind_of_ok (onFiles_run hrun)]
  exact ⟨_, rfl, rfl⟩

theorem create_fileSystem (hne : path ≠ "") (w : World) :
    create .fileSystem path w = ((createDirectory path w).1.map fun _ => .text path,
      (createDirectory path w).2) := by
  rw [create, if_neg hne]
  show (createDirectory path >>= fun _ => pure (Document.text path)) w = _
  rcases h : createDirectory path w with ⟨f | _, w'⟩
  · rw [bind_of_error h]
    rfl
  · rw [bind_of_ok h]
    rfl

theorem create_fileSystem_ok {d : Document} (hne : path ≠ "")
    (h : create .fileSystem path w = (.ok d, w')) :
    d = .text path ∧ createDirectory path w = (.ok (), w') := by
  rw [create_fileSystem hne] at h
  rcases hrun : createDirectory path w with ⟨f | _, w₁⟩ <;> rw [hrun] at h <;> cases h
  exact ⟨rfl, rfl⟩

/-- A directory is left alone. -/
theorem createDirectory_of_isDirectory (h : w.files.isDirectory path = true) :
    createDirectory path w = (.ok (), w) := by
  rcases hfind : w.files.find path with f | ⟨loc, e⟩
  · rw [isDirectory_of_missing hfind] at h
    cases h
  · rw [isDirectory_of_find hfind] at h
    rw [createDirectory_of_found hfind, if_pos (by simpa using h)]

/-- A location that is created was a directory already, or is made. -/
theorem createDirectory_ok (h : createDirectory path w = (.ok (), w')) :
    w.files.isDirectory path = true ∧ w' = w ∨
      w.files.find path = .error (.system (.missing path)) ∧
        makeDirectories path w.files = (.ok (), w'.files) := by
  rcases hfind : w.files.find path with f | ⟨loc, e⟩
  · by_cases hmissing : f = .system (.missing path)
    · subst hmissing
      refine .inr ⟨rfl, ?_⟩
      rcases hrun : makeDirectories path w.files with ⟨e | _, t⟩
      · cases (createDirectory_of_failed hfind hrun).symm.trans h
      · obtain ⟨w₁, hrun', rfl⟩ := createDirectory_of_made hfind hrun
        cases hrun'.symm.trans h
        rfl
    · cases (createDirectory_of_refused hfind hmissing).symm.trans h
  · rw [createDirectory_of_found hfind] at h
    by_cases he : e = .directory
    · subst he
      rw [if_pos rfl] at h
      cases h
      refine .inl ⟨?_, rfl⟩
      rw [isDirectory_of_find hfind]
      rfl
    · rw [if_neg he] at h
      cases h

/-! ### All or nothing -/

/-- A directory is made, or nothing changes. -/
theorem createDirectory_cases (htree : w.files.IsTree) (hplain : Path.IsPlain path)
    (hshort : Short (Path.names path.toList)) :
    (∃ f, createDirectory path w = (.error f, w) ∧
      if '\x00' ∈ path.toList then f = .fault .embeddedNull else f.isSystem = true) ∨
    ∃ w', createDirectory path w = (.ok (), w') ∧ w'.files.isDirectory path = true ∧
      Made path w.files w'.files := by
  have hspells := hplain.spells
  have hne : path ≠ "" := by
    rintro rfl
    exact hspells.ne_nil rfl
  rcases hfind : w.files.find path with f | ⟨loc, e⟩
  · by_cases hmissing : f = .system (.missing path)
    · subst hmissing
      have hnull : '\x00' ∉ path.toList :=
        (refused?_eq_none_iff.mp (reach_of_missing hne hfind).1).1
      rcases makeDirectoriesFrom_cases true (path.length + 1) hne hspells.isName hshort htree
        hfind (Path.length_names_le path.toList) with
        ⟨f, hrun, hsystem⟩ | ⟨t, hrun, hmade, loc, hfound, -⟩
      · refine .inl ⟨f, createDirectory_of_failed hfind hrun, ?_⟩
        rwa [if_neg hnull]
      · obtain ⟨w', hrun', rfl⟩ := createDirectory_of_made hfind hrun
        refine .inr ⟨w', hrun', ?_, hmade⟩
        rw [isDirectory_of_find hfound]
        rfl
    · refine .inl ⟨.fault f, createDirectory_of_refused hfind hmissing, ?_⟩
      have hfault := locate_error hfind
      split at hfault
      · next hnull => rw [if_pos hnull, hfault]
      · next hnull => rwa [if_neg hnull]
  · have hrun := createDirectory_of_found hfind
    by_cases he : e = .directory
    · subst he
      refine .inr ⟨w, hrun, ?_, made_refl path w.files⟩
      rw [isDirectory_of_find hfind]
      rfl
    · rw [if_neg he] at hrun
      have hnull := (refused?_eq_none_iff.mp (refused?_of_locate hfind)).1
      refine .inl ⟨_, hrun, ?_⟩
      rw [if_neg hnull]
      rfl

/-- **A location is created or nothing changes.** For a plain path, whatever links are met: a
creation that fails leaves all files as they were, and it fails with an error of the operating
system, or because the path has a null character. One that ends well gives the path itself, which
leads to a directory then; nothing that was there has changed, and all that is new are directories,
each of them the path or one above it. Creating it again gives the path again and changes nothing. A
path that leads to something else than a directory is refused. -/
theorem creates_or_leaves_alone {r : Except Failure Document} (htree : w.files.IsTree)
    (hplain : Path.IsPlain path) (hshort : Short (Path.names path.toList))
    (h : create .fileSystem path w = (r, w')) :
    (∀ f, r = .error f → w'.files = w.files ∧
      if '\x00' ∈ path.toList then f = .fault .embeddedNull else f.isSystem = true) ∧
    (∀ d, r = .ok d → d = .text path ∧ w'.files.isDirectory path = true ∧
      Made path w.files w'.files ∧ ∀ w₁, w₁.files = w'.files →
        create .fileSystem path w₁ = (.ok (.text path), w₁)) ∧
    ∀ loc e, w.files.find path = .ok (loc, e) → e ≠ .directory →
      r = .error (.fault (.occupied path)) := by
  have hne : path ≠ "" := by
    rintro rfl
    exact hplain.spells.ne_nil rfl
  rw [create_fileSystem hne] at h
  refine ⟨?_, ?_, ?_⟩
  · rintro f rfl
    rcases createDirectory_cases htree hplain hshort with ⟨f', hrun, hfault⟩ | ⟨w₁, hrun, -⟩ <;>
      rw [hrun] at h <;> cases h
    exact ⟨rfl, hfault⟩
  · rintro d rfl
    rcases createDirectory_cases htree hplain hshort with ⟨f', hrun, -⟩ | ⟨w₁, hrun, hd, hmade⟩ <;>
      rw [hrun] at h <;> cases h
    refine ⟨rfl, hd, hmade, fun w₁ hw₁ => ?_⟩
    rw [create_fileSystem hne, createDirectory_of_isDirectory (hw₁ ▸ hd)]
    rfl
  · intro loc e hfind he
    rw [createDirectory_of_found hfind, if_neg he] at h
    cases h
    rfl

/-- A directory with a file in it, a link to the directory, and a link that leads nowhere. -/
def linked : FileTree :=
  ⟨[(["a"], .directory), (["a", "keep"], .file [1]), (["b"], .link "a"), (["c"], .link "lost")], []⟩

/-- A location is made through the one link and refused through the other one. -/
theorem creates_or_leaves_alone_linked :
    let w := initial .stubborn linked
    w.files.IsTree ∧ (∀ path ∈ ["b/d/e", "c/d"], Path.IsPlain path ∧
      Short (Path.names path.toList)) ∧
      (∃ w', create .fileSystem "b/d/e" w = (.ok (.text "b/d/e"), w') ∧
        w'.files.isDirectory "b/d/e" = true ∧ w'.files.get? ["a", "keep"] = some (.file [1])) ∧
      ∃ f w', create .fileSystem "c/d" w = (.error f, w') ∧ w'.files = linked ∧
        f.isSystem = true := by
  intro w
  have htree : w.files.IsTree := isTree_of_entries (by decide +kernel)
  have hpaths : ∀ path ∈ ["b/d/e", "c/d"], Path.IsPlain path ∧ Short (Path.names path.toList) := by
    decide +kernel
  refine ⟨htree, hpaths, ?_, ?_⟩
  · obtain ⟨hplain, hshort⟩ := hpaths "b/d/e" (by decide)
    have hended : (create .fileSystem "b/d/e" w).1.toOption.isSome = true := by decide +kernel
    rcases hrun : create .fileSystem "b/d/e" w with ⟨_ | d, w'⟩ <;> rw [hrun] at hended
    · cases hended
    obtain ⟨rfl, hdirectory, hmade, -⟩ :=
      (creates_or_leaves_alone htree hplain hshort hrun).2.1 d rfl
    exact ⟨w', rfl, hdirectory, hmade.extended.get?_of_some rfl⟩
  · obtain ⟨hplain, hshort⟩ := hpaths "c/d" (by decide)
    have hfailed : (create .fileSystem "c/d" w).1.toOption.isSome = false := by decide +kernel
    rcases hrun : create .fileSystem "c/d" w with ⟨f | _, w'⟩ <;> rw [hrun] at hfailed
    · obtain ⟨hfiles, hfault⟩ := (creates_or_leaves_alone htree hplain hshort hrun).1 f rfl
      rw [if_neg (by decide +kernel)] at hfault
      exact ⟨f, w', rfl, hfiles, hfault⟩
    · cases hfailed

/-- A null character is not an error of the operating system. -/
theorem create_null_character :
    let w := initial .stubborn ⟨[], []⟩
    w.files.IsTree ∧ Path.IsPlain "a\x00b" ∧ Short (Path.names "a\x00b".toList) ∧
      create .fileSystem "a\x00b" w = (.error (.fault .embeddedNull), w) ∧
      (Failure.fault .embeddedNull).isSystem = false :=
  ⟨isTree_of_entries (by decide), by decide +kernel, by decide +kernel, rfl, rfl⟩

end Location

end PluginHarness
