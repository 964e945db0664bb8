import PluginHarness.Proofs.Location.Creating

/-!
# Removing a location from the file system

What is removed is decided by what is at the end of the path, and a link there is not followed. So a
directory goes with everything below it, a file or a link goes alone, and where nothing is, nothing
is done. When no link is above the path, its location can be read off its names, and in all three
cases the location is cleared and everything else stays.

## Main results

* `FileTree.locate_of_slot`, `locate_of_slot_error`: what a path leads to, read off its slot.
* `Location.removeEntry_cases`: a removal fails, or finds nothing, or clears the location.
* `Location.removes_nothing_else`: what a removal does to the files.
-/

namespace PluginHarness

open Attempt World FileTree PluginHarness.Path

namespace FileTree

section Slots

variable {t t' : FileTree} {path : String} {front loc : List String} {n : String}
  {followLast : Bool}

/-- A walk along one name ends at the entry, unless this is a link that is followed. -/
theorem walk_name (hn : IsName n) (hsize : n.utf8ByteSize ≤ maxNameBytes)
    (h : followLast = false ∨ NoLink (t.get? (loc ++ [n]))) (links : Nat) :
    t.walk followLast links loc [n] = match t.get? (loc ++ [n]) with
      | none => .error .missing
      | some e => .ok (loc ++ [n], e) := by
  rw [walk_eq_onward, walkNames_cons _ _ hn, if_neg (Nat.not_lt.mpr hsize)]
  rcases hget : t.get? (loc ++ [n]) with _ | _ | content | target
  · rfl
  · rfl
  · rfl
  · rcases h with rfl | h
    · rfl
    · exact absurd hget (h target)

theorem locate_eq_reach (t : FileTree) (followLast : Bool) (hp : Spells path.toList (front ++ [n]))
    (hr : refused? path = none) :
    ∃ links, t.locate followLast path =
      match goOn (fun loc => t.walk followLast links loc [n]) (t.reach path front) with
      | .ok found => .ok found
      | .error f => .error (.system (f.system path)) := by
  obtain ⟨links, hwalk⟩ :=
    walk_append followLast (List.cons_ne_nil n []) maxLinks (t.start path) front
  refine ⟨links, ?_⟩
  rw [locate, hr, hp.parts_eq, hwalk]
  rfl

theorem locate_of_reach (followLast : Bool) (hp : Spells path.toList (front ++ [n]))
    (hr : refused? path = none) (hreach : t.reach path front = .ok (loc, .directory)) :
    ∃ links, t.locate followLast path = match t.walk followLast links loc [n] with
      | .ok found => .ok found
      | .error f => .error (.system (f.system path)) := by
  obtain ⟨links, hlocate⟩ := locate_eq_reach t followLast hp hr
  refine ⟨links, ?_⟩
  rw [hlocate, hreach]
  rfl

/-- What a path leads to is what is in its slot. -/
theorem locate_of_slot (followLast : Bool) (hp : Spells path.toList (front ++ [n]))
    (hslot : t.slot path = .ok (loc, .name n))
    (h : followLast = false ∨ NoLink (t.get? (loc ++ [n]))) :
    t.locate followLast path = match t.get? (loc ++ [n]) with
      | none => .error (.system (.missing path))
      | some e => .ok (loc ++ [n], e) := by
  obtain ⟨hr, loc', hreach, hlast⟩ := reach_of_slot hp.names_eq hslot
  obtain ⟨heq, -, -, -, hsize⟩ := lastName_eq_name hlast
  subst heq
  obtain ⟨links, hlocate⟩ := locate_of_reach followLast hp hr hreach
  rw [hlocate, walk_name (hp.isName n (by simp)) hsize h]
  cases t.get? (loc' ++ [n]) <;> rfl

/-- A path without a slot leads to nothing, for the same reason. -/
theorem locate_of_slot_error {f : Fault} (hp : Spells path.toList (front ++ [n]))
    (hslot : t.slot path = .error f) : t.locate followLast path = .error f := by
  cases hr : refused? path with
  | some f' =>
    rw [slot, hr] at hslot
    rw [locate, hr]
    cases hslot
    rfl
  | none =>
    have hn : IsName n := hp.isName n (by simp)
    obtain ⟨links, hlocate⟩ := locate_eq_reach t followLast hp hr
    rw [slot_eq_reach hr hp.names_eq] at hslot
    rcases hreach : t.reach path front with f' | ⟨loc, e⟩ <;> rw [hreach] at hslot hlocate
    · cases hslot
      exact hlocate
    · cases e with
      | directory =>
        dsimp only at hslot
        rw [lastName, if_neg hn.ne_itself, if_neg hn.ne_above] at hslot
        split at hslot
        · next hsize =>
          cases hslot
          obtain ⟨links, hlocate⟩ := locate_of_reach followLast hp hr hreach
          rw [hlocate, walk_eq_onward, walkNames_cons _ _ hn, if_pos hsize]
          rfl
        · cases hslot
      | file =>
        cases hslot
        exact hlocate
      | link =>
        cases hslot
        exact hlocate

/-- A walk that meets no link and finds nothing does so at a location that is free. -/
theorem exists_free_of_walkNames
    (follow : List String → List String → Except WalkFault (List String × Entry))
    {here names : List String} (hnames : ∀ n ∈ names, IsName n) (hlinks : Along NoLink t here names)
    (h : walkNames t followLast follow here names = .error .missing) :
    ∃ front, front <+: names ∧ front ≠ [] ∧ t.get? (here ++ front) = none := by
  induction names generalizing here with
  | nil => cases h
  | cons n rest ih =>
    obtain ⟨hlink, hlinks⟩ := along_cons.mp hlinks
    rw [walkNames_cons _ _ (hnames n (.head _))] at h
    split at h
    · cases h
    · split at h
      · next hget => exact ⟨[n], by simp, by simp, hget⟩
      · obtain ⟨front, hfront, -, hnone⟩ := ih (fun m hm => hnames m (.tail _ hm)) hlinks h
        refine ⟨n :: front, by simpa using hfront, by simp, ?_⟩
        rw [List.append_cons]
        exact hnone
      · split at h <;> cases h
      · next target hget => exact absurd hget (hlink target)

/-! ### Removing one entry -/

/-- Where nothing is, nothing has to be cleared. -/
theorem cleared_of_free (h : ∀ l, loc <+: l → t.get? l = none) : Cleared loc t t := by
  refine ⟨rfl, fun l => ?_⟩
  split
  · next hbelow => exact h l hbelow
  · rfl

theorem cleared_self (htree : t.IsTree) (h : t.get? loc = none) : Cleared loc t t := by
  refine cleared_of_free ?_
  rintro l ⟨more, rfl⟩
  by_cases hmore : more = []
  · rw [hmore, List.append_nil, h]
  · exact htree.get?_below hmore (by simp [h])

theorem cleared_drop (htree : t.IsTree) (hne : loc ≠ []) (h : t.get? loc ≠ some .directory) :
    Cleared loc t (t.drop loc) := by
  refine ⟨rfl, fun l => ?_⟩
  rw [get?_drop hne]
  by_cases hl : l = loc
  · rw [if_pos hl, hl, if_pos List.prefix_rfl]
  · rw [if_neg hl]
    split
    · next hbelow =>
      obtain ⟨more, rfl⟩ := hbelow
      exact htree.get?_below (by simpa using hl) h
    · rfl

/-- Anything but a directory is removed alone. -/
theorem unlink_of_entry (hp : Spells path.toList (front ++ [n]))
    (hslot : t.slot path = .ok (loc, .name n)) {e : Entry} (hget : t.get? (loc ++ [n]) = some e)
    (he : e ≠ .directory) : unlink path t = (.ok (), t.drop (loc ++ [n])) := by
  obtain ⟨init, c, hpath, hc⟩ := hp.exists_last
  have hslash : (path.toList.getLast? == some '/') = false := by simpa [hpath] using hc
  rw [unlink, hslot]
  dsimp only
  rw [hget, hslash]
  cases e with
  | directory => exact absurd rfl he
  | file => rfl
  | link => rfl

/-- Anything but a directory is not taken for one, unless it is a link. -/
theorem isDirectory_or_isLink (hp : Spells path.toList (front ++ [n]))
    (hslot : t.slot path = .ok (loc, .name n)) {e : Entry} (hget : t.get? (loc ++ [n]) = some e)
    (he : e ≠ .directory) : t.isDirectory path = false ∨ t.isLink path = true := by
  cases e with
  | directory => exact absurd rfl he
  | file content =>
    have hfind := locate_of_slot true hp hslot (.inr (by
      rw [hget]
      rintro target ⟨⟩))
    rw [hget] at hfind
    exact .inl (isDirectory_of_find hfind)
  | link target =>
    have hfind := locate_of_slot false hp hslot (.inl rfl)
    rw [hget] at hfind
    refine .inr ?_
    rw [FileTree.isLink, findEntry, hfind]
    rfl

theorem unlink_of_free (hslot : t.slot path = .ok (loc, .name n))
    (hget : t.get? (loc ++ [n]) = none) :
    unlink path t = (.error (.fault (.system (.missing path))), t) := by
  rw [unlink, hslot]
  dsimp only
  rw [hget]

theorem unlink_of_slot_error {f : Fault} (hslot : t.slot path = .error f) :
    unlink path t = (.error (.fault f), t) := by
  rw [unlink, hslot]

theorem reach_of_slot_missing (hp : Spells path.toList (front ++ [n]))
    (h : t.slot path = .error (.system (.missing path))) :
    t.reach path front = .error .missing := by
  have hne : path ≠ "" := by
    rintro rfl
    exact hp.ne_nil rfl
  cases hr : refused? path with
  | some f =>
    rw [slot, hr] at h
    cases h
    exact absurd hr (refused?_ne_missing hne)
  | none =>
    rw [slot_eq_reach hr hp.names_eq] at h
    rcases hreach : t.reach path front with f | ⟨loc, e⟩ <;> rw [hreach] at h
    · cases f <;> first | rfl | cases h
    · cases e with
      | directory =>
        dsimp only at h
        rw [lastName] at h
        split_ifs at h
        cases h
      | file => cases h
      | link => cases h

/-- Where the slot of a path is missing, nothing is at its location. -/
theorem free_of_slot_missing (htree : t.IsTree) (hp : Spells path.toList (front ++ [n]))
    (hlinks : Along NoLink t (t.start path) front)
    (h : t.slot path = .error (.system (.missing path))) :
    ∀ l, t.start path ++ (front ++ [n]) <+: l → t.get? l = none := by
  have hreach := reach_of_slot_missing hp h
  obtain ⟨follow, hwalk⟩ := walk_eq t true maxLinks
  rw [reach, hwalk] at hreach
  obtain ⟨before, ⟨rest, rfl⟩, -, hnone⟩ := exists_free_of_walkNames follow
    (fun m hm => hp.isName m (by simp [hm])) hlinks hreach
  rintro l ⟨more, rfl⟩
  have hbelow : t.get? (t.start path ++ before ++ (rest ++ ([n] ++ more))) = none :=
    htree.get?_below (by simp) (by simp [hnone])
  simpa using hbelow

/-- A cleared location is missing as long as the directories above it are there. -/
theorem findEntry_of_cleared (hp : Spells path.toList (front ++ [n])) (hr : refused? path = none)
    (hshort : Short (front ++ [n])) (hdirectories : Along IsDirectory t (t.start path) front)
    (h : Cleared (t.start path ++ (front ++ [n])) t t') :
    t'.findEntry path = .error (.system (.missing path)) := by
  have hstart := start_eq h.cwd_eq path
  have habove : Along IsDirectory t' (t'.start path) front := by
    rw [hstart]
    refine hdirectories.imp fun before hbefore _ he => ?_
    rw [h.get?_eq, if_neg]
    · exact he
    · intro hprefix
      have hlength := hprefix.length_le
      have hlength' := hbefore.length_le
      simp only [List.length_append, List.length_singleton] at hlength
      omega
  have hslot := slot_of_directories hp hr hshort habove
  have hnone : t'.get? (t'.start path ++ front ++ [n]) = none := by
    rw [hstart, List.append_assoc, h.get?_eq, if_pos List.prefix_rfl]
  rw [findEntry, locate_of_slot false hp hslot (.inl rfl), hnone]

end Slots

end FileTree

namespace Location

section Entry

variable {path : String} {w : World} {t : FileTree}

theorem removeEntry_of_directory {r : Except Failure Unit} (hd : w.files.isDirectory path = true)
    (hl : w.files.isLink path = false) (hrun : removeTree path w.files = (r, t)) :
    removeEntry path w = (r, { w with files := t }) := by
  rw [removeEntry, bind_of_ok (state_apply w), hd, hl]
  exact onFiles_run hrun

theorem removeEntry_of_unlinked (h : w.files.isDirectory path = false ∨ w.files.isLink path = true)
    (hrun : unlink path w.files = (.ok (), t)) :
    removeEntry path w = (.ok (), { w with files := t }) := by
  rw [removeEntry, bind_of_ok (state_apply w), if_neg (by rcases h with h | h <;> simp [h])]
  exact handle_of_ok _ (onFiles_run hrun)

theorem removeEntry_of_missing (h : w.files.isDirectory path = false)
    (hrun : unlink path w.files = (.error (.fault (.system (.missing path))), w.files)) :
    removeEntry path w = (.ok (), w) := by
  rw [removeEntry, bind_of_ok (state_apply w), if_neg (by simp [h]),
    handle_of_error _ (onFiles_run hrun)]
  dsimp only
  rw [if_pos rfl]
  rfl

theorem removeEntry_of_failed (h : w.files.isDirectory path = false) {f : Fault}
    (hne : f ≠ .system (.missing path))
    (hrun : unlink path w.files = (.error (.fault f), w.files)) :
    removeEntry path w = (.error (.fault f), w) := by
  rw [removeEntry, bind_of_ok (state_apply w), if_neg (by simp [h]),
    handle_of_error _ (onFiles_run hrun)]
  cases f with
  | system f =>
    dsimp only
    rw [if_neg fun hf => hne (congrArg Fault.system hf)]
  | _ => rfl

variable {front : List String} {n : String}

/-- Where nothing is, nothing is done. -/
theorem removeEntry_of_nothing (hp : Spells path.toList (front ++ [n]))
    (h : w.files.findEntry path = .error (.system (.missing path))) :
    removeEntry path w = (.ok (), w) := by
  rcases hslot : w.files.slot path with f | ⟨loc, last⟩
  · obtain rfl : f = .system (.missing path) :=
      Except.error.inj ((locate_of_slot_error hp hslot).symm.trans h)
    exact removeEntry_of_missing (isDirectory_of_missing (locate_of_slot_error hp hslot))
      (unlink_of_slot_error hslot)
  · obtain rfl : last = .name n := by
      have hn : IsName n := hp.isName n (by simp)
      obtain ⟨-, loc', -, hlast⟩ := reach_of_slot hp.names_eq hslot
      rw [lastName, if_neg hn.ne_itself, if_neg hn.ne_above] at hlast
      split at hlast <;> cases hlast
      rfl
    have hnone : w.files.get? (loc ++ [n]) = none := by
      rw [findEntry, locate_of_slot false hp hslot (.inl rfl)] at h
      rcases hget : w.files.get? (loc ++ [n]) with _ | e
      · rfl
      · rw [hget] at h
        cases h
    have hfind := locate_of_slot true hp hslot
      (.inr (hnone ▸ IsFree.noLink (.inr rfl)))
    rw [hnone] at hfind
    exact removeEntry_of_missing (isDirectory_of_missing hfind) (unlink_of_free hslot hnone)

/-- What is in the slot of a path is removed, and then nothing is left at its location. -/
theorem removeEntry_of_slot (htree : w.files.IsTree) (hp : Spells path.toList (front ++ [n]))
    (hr : refused? path = none) (hshort : Short (front ++ [n]))
    (hdirectories : Along IsDirectory w.files (w.files.start path) front) :
    ∃ t, removeEntry path w = (.ok (), { w with files := t }) ∧
      Cleared (w.files.start path ++ (front ++ [n])) w.files t := by
  have hslot := slot_of_directories hp hr hshort hdirectories
  have hloc : w.files.start path ++ front ++ [n] = w.files.start path ++ (front ++ [n]) :=
    List.append_assoc _ _ _
  rcases hget : w.files.get? (w.files.start path ++ (front ++ [n])) with _ | e
  · have hfind : w.files.findEntry path = .error (.system (.missing path)) := by
      rw [findEntry, locate_of_slot false hp hslot (.inl rfl), hloc, hget]
    exact ⟨w.files, removeEntry_of_nothing hp hfind, cleared_self htree hget⟩
  · by_cases he : e = .directory
    · subst he
      have hstands : Stands w.files path (front ++ [n]) :=
        ⟨hr, hshort, along_concat.mpr ⟨hdirectories, hget⟩⟩
      obtain ⟨t, hrun, hcleared⟩ := removeTree_of_stands hp hstands
      have hrun' := removeEntry_of_directory (hstands.isDirectory hp) (hstands.isLink hp) hrun
      exact ⟨t, hrun', hcleared⟩
    · have hrun := unlink_of_entry hp hslot (hloc ▸ hget) he
      rw [hloc] at hrun
      exact ⟨_, removeEntry_of_unlinked (isDirectory_or_isLink hp hslot (hloc ▸ hget) he) hrun,
        cleared_drop htree (by simp) (by rw [hget]; simpa using he)⟩

/-- A removal fails and changes nothing, or it clears the location. -/
theorem removeEntry_cases (htree : w.files.IsTree) (hp : Spells path.toList (front ++ [n]))
    (hlinks : Along NoLink w.files (w.files.start path) front) :
    (∃ f, removeEntry path w = (.error (.fault f), w) ∧ w.files.findEntry path = .error f ∧
      f ≠ .system (.missing path)) ∨
    ∃ t, removeEntry path w = (.ok (), { w with files := t }) ∧
      Cleared (w.files.start path ++ (front ++ [n])) w.files t ∧
      t.findEntry path = .error (.system (.missing path)) := by
  rcases hslot : w.files.slot path with f | found
  · have hfind : w.files.findEntry path = .error f := locate_of_slot_error hp hslot
    by_cases hmissing : f = .system (.missing path)
    · subst hmissing
      exact .inr ⟨w.files, removeEntry_of_nothing hp hfind,
        cleared_of_free (free_of_slot_missing htree hp hlinks hslot), hfind⟩
    · exact .inl ⟨f, removeEntry_of_failed (isDirectory_of_missing (locate_of_slot_error hp hslot))
        hmissing (unlink_of_slot_error hslot), hfind, hmissing⟩
  · obtain ⟨hr, hshort, hdirectories⟩ := directories_of_slot hp hlinks hslot
    obtain ⟨t, hrun, hcleared⟩ := removeEntry_of_slot htree hp hr hshort hdirectories
    exact .inr ⟨t, hrun, hcleared, findEntry_of_cleared hp hr hshort hdirectories hcleared⟩

theorem exists_removeEntry {names : List String} (hp : Spells path.toList names) (w : World) :
    ∃ w₁, w₁.files = w.files ∧ remove .fileSystem (.text path) w = removeEntry path w₁ := by
  have hne : path ≠ "" := by
    rintro rfl
    exact hp.ne_nil rfl
  have htruthy : (Document.text path).truthy = true := by simpa [Document.truthy] using hne
  exact ⟨{ w with history := .removing .fileSystem (.text path) :: w.history }, rfl,
    remove_apply htruthy .fileSystem w⟩

theorem remove_of_nothing (hp : Spells path.toList (front ++ [n]))
    (h : w.files.findEntry path = .error (.system (.missing path))) :
    ∃ w', remove .fileSystem (.text path) w = (.ok (), w') ∧ w'.files = w.files := by
  obtain ⟨w₁, hfiles, hrun⟩ := exists_removeEntry hp w
  rw [← hfiles] at h
  exact ⟨w₁, hrun.trans (removeEntry_of_nothing hp h), hfiles⟩

end Entry

/-- **Removing a location removes nothing else.** For a plain path with no link above it, which may
be one itself: a removal that fails leaves all files as they were. One that ends well leaves nothing
at the location of the path and below it, and everything else as it was, so what a link there led to
stays. Whatever is at the path is removed; where nothing is, also because something above it is
missing, that is no failure and nothing is changed. So a second removal ends well and changes
nothing. -/
theorem removes_nothing_else {path : String} {w w' : World} {r : Except Failure Unit}
    (htree : w.files.IsTree) (hplain : IsPlain path)
    (hlinks : Along NoLink w.files (w.files.start path) (names path.toList).dropLast)
    (h : remove .fileSystem (.text path) w = (r, w')) :
    (∀ f, r = .error f → w'.files = w.files) ∧
    (r = .ok () → w'.files.findEntry path = .error (.system (.missing path)) ∧
      Cleared (w.files.location path) w.files w'.files ∧
      ∀ w₁, w₁.files = w'.files → ∃ w₂, remove .fileSystem (.text path) w₁ = (.ok (), w₂) ∧
        w₂.files = w'.files) ∧
    (∀ found, w.files.findEntry path = .ok found → r = .ok ()) ∧
    (w.files.findEntry path = .error (.system (.missing path)) →
      r = .ok () ∧ w'.files = w.files) := by
  have hp := hplain.spells
  obtain ⟨front, n, hnames⟩ : ∃ front n, names path.toList = front ++ [n] := by
    obtain ⟨front, n, -, hnames, -⟩ := exists_above hp
    exact ⟨front, n, hnames⟩
  rw [hnames] at hp
  rw [hnames, List.dropLast_concat] at hlinks
  obtain ⟨w₁, hfiles, hremove⟩ := exists_removeEntry hp w
  rw [hremove] at h
  rw [location, hnames]
  rw [← hfiles] at htree hlinks ⊢
  rcases removeEntry_cases htree hp hlinks with
    ⟨f, hrun, hfind, hne⟩ | ⟨t, hrun, hcleared, hfind⟩
  · cases hrun.symm.trans h
    refine ⟨fun _ _ => rfl, ?_, ?_, ?_⟩
    · intro hok
      cases hok
    · intro found hfound
      cases hfind.symm.trans hfound
    · intro hmissing
      exact absurd (Except.error.inj (hfind.symm.trans hmissing)) hne
  · cases hrun.symm.trans h
    refine ⟨?_, ?_, fun _ _ => rfl, ?_⟩
    · intro f hf
      cases hf
    · intro _
      refine ⟨hfind, hcleared, fun w₂ hw₂ => ?_⟩
      have hfind₂ : w₂.files.findEntry path = .error (.system (.missing path)) := by
        rw [hw₂]
        exact hfind
      obtain ⟨w₃, hrun₃, hfiles₃⟩ := remove_of_nothing hp hfind₂
      exact ⟨w₃, hrun₃, hfiles₃.trans hw₂⟩
    · intro hmissing
      have hsame := hrun.symm.trans (removeEntry_of_nothing hp hmissing)
      exact ⟨rfl, congrArg (fun ended => ended.2.files) hsame⟩

/-- In the directory `a/d` there is a link to the directory `keep`. -/
def pointing : FileTree :=
  ⟨[(["keep"], .directory), (["keep", "f"], .file [1]), (["a"], .directory),
    (["a", "d"], .directory), (["a", "d", "out"], .link "../../keep")], []⟩

/-- The link is removed with its directory, and what it leads to stays. -/
theorem removes_nothing_else_pointing :
    let w := initial .stubborn pointing
    w.files.IsTree ∧ IsPlain "a/d" ∧
      Along NoLink w.files (w.files.start "a/d") (names "a/d".toList).dropLast ∧
      ∃ w', remove .fileSystem (.text "a/d") w = (.ok (), w') ∧
        w'.files.get? ["a", "d", "out"] = none ∧
        w'.files.get? ["keep", "f"] = some (.file [1]) := by
  intro w
  have htree : w.files.IsTree := isTree_of_entries (by decide +kernel)
  have hplain : IsPlain "a/d" := by decide +kernel
  have hnames : names "a/d".toList = ["a", "d"] := by decide +kernel
  have hstart : w.files.start "a/d" = [] := by decide +kernel
  have hlinks : Along NoLink w.files (w.files.start "a/d") (names "a/d".toList).dropLast := by
    rw [hnames, hstart]
    exact along_cons.mpr ⟨IsDirectory.noLink rfl, along_nil⟩
  have hlocation : w.files.location "a/d" = ["a", "d"] := by
    rw [location, hstart, hnames]
    rfl
  refine ⟨htree, hplain, hlinks, ?_⟩
  rcases hrun : remove .fileSystem (.text "a/d") w with ⟨r, w'⟩
  obtain ⟨-, hcleared, hthere, -⟩ := removes_nothing_else htree hplain hlinks hrun
  obtain rfl := hthere (["a", "d"], .directory) (by rfl)
  obtain ⟨-, hcleared, -⟩ := hcleared rfl
  rw [hlocation] at hcleared
  refine ⟨w', rfl, ?_, ?_⟩
  · rw [hcleared.get?_eq, if_pos (by decide)]
  · rw [hcleared.get?_eq, if_neg (by decide)]
    rfl

end Location

end PluginHarness
