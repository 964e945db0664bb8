import PluginHarness.Proofs.Files.Walk

/-!
# Making directories through links

Making directories never needs to know where a path lead to, only how its walk ended. `reach` is the
walk of some names of a path; what a path leads to, its slot, and what is above it are all read off
a reach. A directory that is made turns the free location at the end of a path into a directory, and
whatever is missing on the way is made before it.

## Main definitions

* `FileTree.reach`: where names lead to from the start of a path.
* `FileTree.Made`: directories were added, each of them at the path or above it.

## Main results

* `FileTree.makeDirectoriesFrom_extended`: making directories only adds directories.
* `FileTree.makeDirectoriesFrom_cases`: where a path is missing, it is made, or nothing changes.
* `FileTree.makeDirectoriesFrom_again`: making directories again changes nothing more.
-/

namespace PluginHarness.FileTree

open Attempt PluginHarness.Path

/-- Where names lead to from the start of a path. -/
def reach (t : FileTree) (path : String) (names : List String) :
    Except WalkFault (List String × Entry) :=
  t.walk true maxLinks (t.start path) names

/-! ### Reaching -/

section Reach

variable {t t' : FileTree} {path : String} {names more front : List String} {n : String}
  {loc : List String} {f : WalkFault}

@[simp] theorem reach_nil (t : FileTree) (path : String) :
    t.reach path [] = .ok (t.start path, .directory) := rfl

theorem reach_append (t : FileTree) (path : String) (hmore : more ≠ []) (names : List String) :
    ∃ links, t.reach path (names ++ more) =
      goOn (fun loc => t.walk true links loc more) (t.reach path names) :=
  walk_append true hmore maxLinks (t.start path) names

/-- The name `.` asks for a directory. -/
theorem reach_itself (t : FileTree) (path : String) (names : List String) :
    t.reach path (names ++ ["."]) =
      goOn (fun loc => .ok (loc, .directory)) (t.reach path names) := by
  obtain ⟨links, h⟩ := reach_append t path (List.cons_ne_nil "." []) names
  rw [h]
  congr 1
  funext loc
  cases links <;> rfl

theorem reach_extended (h : Extended t t') (hne : t.reach path names ≠ .error .missing) :
    t'.reach path names = t.reach path names := by
  rw [reach, start_eq h.cwd_eq]
  exact walk_extended true h maxLinks _ _ hne

/-! ### Paths -/

theorem find_eq_reach (hr : refused? path = none) :
    t.find path = match t.reach path (Path.parts path) with
      | .ok found => .ok found
      | .error f => .error (.system (f.system path)) := by
  rw [find, locate, hr]
  rfl

theorem parts_cases (path : String) : Path.parts path = Path.names path.toList ∨
    Path.parts path = Path.names path.toList ++ ["."] := by
  rw [Path.parts]
  by_cases hslash : (path.toList.getLast? == some '/') = true
  · rw [if_pos hslash]
    exact .inr rfl
  · rw [if_neg hslash, List.append_nil]
    exact .inl rfl

theorem find_of_reach_directory (hr : refused? path = none)
    (h : t.reach path (Path.names path.toList) = .ok (loc, .directory)) :
    t.find path = .ok (loc, .directory) := by
  rcases parts_cases path with hparts | hparts
  · rw [find_eq_reach hr, hparts, h]
  · rw [find_eq_reach hr, hparts, reach_itself, h]
    rfl

theorem refused?_eq_none_iff :
    refused? path = none ↔
      '\x00' ∉ path.toList ∧ path.utf8ByteSize < pathBytesLimit ∧ path ≠ "" := by
  rw [refused?]
  split
  · next hnull => simpa using fun h => absurd (by simpa using hnull) h
  · next hnull =>
    split
    · next hlong => simp [Nat.not_lt.mpr hlong]
    · next hlong => simpa [Nat.lt_of_not_le hlong] using fun _ => by simpa using hnull

theorem refused?_ne_missing (hne : path ≠ "") :
    refused? path ≠ some (.system (.missing path)) := by
  rw [refused?]
  split
  · simp
  · split
    · intro h
      cases h
    · simp [hne]

/-- A path is missing where its walk finds nothing. -/
theorem reach_of_missing (hne : path ≠ "") (h : t.find path = .error (.system (.missing path))) :
    refused? path = none ∧ t.reach path (Path.names path.toList) = .error .missing := by
  have hr : refused? path = none := by
    rw [find, locate] at h
    cases hr : refused? path with
    | none => rfl
    | some fault =>
      rw [hr] at h
      obtain rfl := Except.error.inj h
      exact absurd hr (refused?_ne_missing hne)
  refine ⟨hr, ?_⟩
  rw [find_eq_reach hr] at h
  rcases parts_cases path with hparts | hparts
  · rw [hparts] at h
    rcases hreach : t.reach path (Path.names path.toList) with f | found <;> rw [hreach] at h
    · cases f <;> first | rfl | cases h
    · cases h
  · rw [hparts, reach_itself] at h
    rcases hreach : t.reach path (Path.names path.toList) with f | ⟨loc, e⟩ <;> rw [hreach] at h
    · cases f <;> first | rfl | cases h
    · cases e <;> cases h

/-! ### Slots -/

/-- What a path has in the directory that its other names lead to. -/
def lastName (path : String) (loc : List String) (n : String) :
    Except Fault (List String × LastName) :=
  if n = "." then .ok (loc, .itself)
  else if n = ".." then .ok (loc, .above)
  else if maxNameBytes < n.utf8ByteSize then .error (.system (.nameTooLong path))
  else .ok (loc, .name n)

theorem slot_eq_reach (hr : refused? path = none) (hnames : Path.names path.toList = front ++ [n]) :
    t.slot path = match t.reach path front with
      | .error f => .error (.system (f.system path))
      | .ok (loc, .directory) => lastName path loc n
      | .ok _ => .error (.system (.notDirectory path)) := by
  have hreach : t.walk true maxLinks (t.start path) (front ++ ["."]) =
      goOn (fun loc => .ok (loc, .directory)) (t.reach path front) := reach_itself t path front
  rw [slot, hr, hnames]
  dsimp only
  rw [List.dropLast_concat, List.getLast?_concat, hreach]
  rcases t.reach path front with f | ⟨loc, e⟩
  · rfl
  · cases e with
    | directory =>
      simp only [goOn, lastName]
      split
      · next h => cases h
      · next h =>
        cases h
        rfl
      · next h =>
        cases h
        rfl
      · next hitself habove h =>
        cases h
        rw [if_neg hitself, if_neg habove]
    | file => rfl
    | link => rfl

theorem slot_of_no_name (hr : refused? path = none) (hnames : Path.names path.toList = []) :
    t.slot path = .ok (t.start path, .itself) := by
  have hreach : t.walk true maxLinks (t.start path) ([].dropLast ++ ["."]) =
      .ok (t.start path, .directory) := reach_itself t path []
  rw [slot, hr, hnames]
  dsimp only
  rw [hreach]
  rfl

/-- A slot is in the directory that the other names lead to. -/
theorem reach_of_slot (hnames : Path.names path.toList = front ++ [n])
    {found : List String × LastName} (h : t.slot path = .ok found) :
    refused? path = none ∧ ∃ loc, t.reach path front = .ok (loc, .directory) ∧
      lastName path loc n = .ok found := by
  cases hr : refused? path with
  | some fault =>
    rw [slot, hr] at h
    cases h
  | none =>
    refine ⟨rfl, ?_⟩
    rw [slot_eq_reach hr hnames] at h
    rcases hreach : t.reach path front with f | ⟨loc, e⟩ <;> rw [hreach] at h
    · cases h
    · cases e with
      | directory => exact ⟨loc, rfl, h⟩
      | file => cases h
      | link => cases h

/-! ### Above -/

variable {above last : List Char}

theorem refused?_above (h : Parted path.toList above last) (hne : above ≠ [])
    (hr : refused? path = none) : refused? (String.ofList above) = none := by
  obtain ⟨rest, hrest⟩ := h.isPrefix
  have hpath : path = String.ofList above ++ String.ofList rest := by
    apply String.ext
    simp [hrest]
  obtain ⟨hnull, hsize, -⟩ := refused?_eq_none_iff.mp hr
  refine refused?_eq_none_iff.mpr ⟨?_, ?_, ?_⟩
  · rw [String.toList_ofList]
    exact fun hmem => hnull (h.isPrefix.subset hmem)
  · rw [hpath, String.utf8ByteSize_append] at hsize
    omega
  · exact fun he => hne (by simpa using congrArg String.toList he)

theorem start_above (h : Parted path.toList above last) :
    t.start (String.ofList above) = t.start path := by
  rw [start, start, String.toList_ofList, h.isAbsolute_eq]

/-- What is above a path leads where its names do. -/
theorem find_above (h : Parted path.toList above last) (hne : above ≠ [])
    (hr : refused? path = none) :
    t.find (String.ofList above) = match t.reach path (Path.names above) with
      | .ok found => .ok found
      | .error f => .error (.system (f.system (String.ofList above))) := by
  have hreach (names : List String) :
      t.reach (String.ofList above) names = t.reach path names := by
    rw [reach, reach, start_above h]
  rw [find_eq_reach (refused?_above h hne hr), hreach, Path.parts, String.toList_ofList]
  by_cases hslash : (above.getLast? == some '/') = true
  · rw [if_pos hslash, h.names_eq_nil (by simpa using hslash)]
    rfl
  · rw [if_neg hslash, List.append_nil]

theorem reach_of_find_above (h : Parted path.toList above last) (hne : above ≠ [])
    (hr : refused? path = none) {found : List String × Entry}
    (hfound : t.find (String.ofList above) = .ok found) :
    t.reach path (Path.names above) = .ok found := by
  rw [find_above h hne hr] at hfound
  rcases hreach : t.reach path (Path.names above) with f | found' <;> rw [hreach] at hfound
  · cases hfound
  · cases hfound
    rfl

end Reach

/-! ### One directory -/

section One

variable {t t' : FileTree} {path : String} {front loc : List String} {n : String}

/-- Only a location below the root can be free. -/
theorem ne_nil_of_get?_eq_none (h : t.get? loc = none) : loc ≠ [] := by
  rintro rfl
  cases h

theorem extended_put (h : t.get? loc = none) : Extended t (t.put loc .directory) := by
  refine ⟨rfl, fun l => ?_⟩
  rw [get?_put (ne_nil_of_get?_eq_none h)]
  split
  · next heq =>
    subst heq
    exact .inr ⟨h, rfl⟩
  · exact .inl rfl

theorem lastName_eq_name {dir : List String} {m : String}
    (h : lastName path loc n = .ok (dir, .name m)) :
    loc = dir ∧ n = m ∧ n ≠ "." ∧ n ≠ ".." ∧ n.utf8ByteSize ≤ maxNameBytes := by
  rw [lastName] at h
  split at h
  · cases h
  · next hitself =>
    split at h
    · cases h
    · next habove =>
      split at h
      · cases h
      · next hsize =>
        cases h
        exact ⟨rfl, rfl, hitself, habove, Nat.not_lt.mp hsize⟩

/-- The directory that was put at the end of a path is what the path leads to. -/
theorem find_put (hnames : Path.names path.toList = front ++ [n])
    (hslot : t.slot path = .ok (loc, .name n)) (hnone : t.get? (loc ++ [n]) = none) :
    (t.put (loc ++ [n]) .directory).find path = .ok (loc ++ [n], .directory) := by
  obtain ⟨hr, loc', hreach, hlast⟩ := reach_of_slot hnames hslot
  obtain ⟨heq, -, hitself, habove, hsize⟩ := lastName_eq_name hlast
  rw [heq] at hreach
  refine find_of_reach_directory hr ?_
  obtain ⟨links, hwalk⟩ := reach_append (t.put (loc ++ [n]) .directory) path
    (List.cons_ne_nil n []) front
  have hstays : (t.put (loc ++ [n]) .directory).reach path front = t.reach path front :=
    reach_extended (extended_put hnone) (by rw [hreach]; exact nofun)
  rw [hnames, hwalk, hstays, hreach]
  show walk _ true links loc [n] = _
  rw [walk_eq_onward, walkNames, if_neg (by simpa using hitself), if_neg (by simpa using habove),
    if_neg (Nat.not_lt.mpr hsize)]
  dsimp only
  rw [get?_put (by simp), if_pos rfl]
  rfl

/-- Something is in the slot of a path. -/
def Occupied (t : FileTree) : List String × LastName → Prop
  | (loc, .name n) => t.get? (loc ++ [n]) ≠ none
  | _ => True

theorem Occupied.extended (h : Extended t t') {found : List String × LastName}
    (ho : t.Occupied found) : t'.Occupied found := by
  rcases found with ⟨loc, n | _ | _⟩
  · obtain ⟨e, he⟩ := Option.ne_none_iff_exists'.mp ho
    show t'.get? (loc ++ [n]) ≠ none
    rw [h.get?_of_some he]
    exact Option.some_ne_none e
  · trivial
  · trivial

theorem makeDirectory_of_error {f : Fault} (h : t.slot path = .error f) :
    makeDirectory path t = (.error (.fault f), t) := by
  rw [makeDirectory, h]

theorem makeDirectory_of_occupied {found : List String × LastName} (h : t.slot path = .ok found)
    (ho : t.Occupied found) :
    makeDirectory path t = (.error (.fault (.system (.alreadyExists path))), t) := by
  rcases found with ⟨loc, n | _ | _⟩
  · have hsome : (t.get? (loc ++ [n])).isSome = true := Option.isSome_iff_ne_none.mpr ho
    rw [makeDirectory, h]
    exact if_pos hsome
  · rw [makeDirectory, h]
  · rw [makeDirectory, h]

theorem makeDirectory_of_free (h : t.slot path = .ok (loc, .name n))
    (hnone : t.get? (loc ++ [n]) = none) :
    makeDirectory path t = (.ok (), t.put (loc ++ [n]) .directory) := by
  rw [makeDirectory, h]
  dsimp only
  rw [hnone]
  rfl

/-- A slot is not found, or it is occupied, or it is free. -/
theorem slot_cases (t : FileTree) (path : String) :
    (∃ f, t.slot path = .error f) ∨ (∃ found, t.slot path = .ok found ∧ t.Occupied found) ∨
      ∃ loc n, t.slot path = .ok (loc, .name n) ∧ t.get? (loc ++ [n]) = none := by
  rcases hslot : t.slot path with f | ⟨loc, n | _ | _⟩
  · exact .inl ⟨f, rfl⟩
  · by_cases hnone : t.get? (loc ++ [n]) = none
    · exact .inr (.inr ⟨loc, n, rfl, hnone⟩)
    · exact .inr (.inl ⟨_, rfl, hnone⟩)
  · exact .inr (.inl ⟨_, rfl, trivial⟩)
  · exact .inr (.inl ⟨_, rfl, trivial⟩)

theorem makeDirectory_extended (path : String) (t : FileTree) :
    Extended t (makeDirectory path t).2 := by
  rcases slot_cases t path with ⟨f, h⟩ | ⟨found, h, ho⟩ | ⟨loc, n, h, hnone⟩
  · rw [makeDirectory_of_error h]
    exact refl_of _ t
  · rw [makeDirectory_of_occupied h ho]
    exact refl_of _ t
  · rw [makeDirectory_of_free h hnone]
    exact extended_put hnone

theorem isDirectory_of_find {e : Entry} (h : t.find path = .ok (loc, e)) :
    t.isDirectory path = (e == .directory) := by
  rw [FileTree.isDirectory, h]
  rfl

theorem isDirectory_of_missing {f : Fault} (h : t.find path = .error f) :
    t.isDirectory path = false := by
  rw [FileTree.isDirectory, h]
  rfl

/-- A directory that was made is there. -/
theorem isDirectory_of_makeDirectory (h : makeDirectory path t = (.ok (), t')) :
    t'.isDirectory path = true := by
  rcases slot_cases t path with ⟨f, hslot⟩ | ⟨found, hslot, ho⟩ | ⟨loc, n, hslot, hnone⟩
  · cases (makeDirectory_of_error hslot).symm.trans h
  · cases (makeDirectory_of_occupied hslot ho).symm.trans h
  · cases (makeDirectory_of_free hslot hnone).symm.trans h
    rcases List.eq_nil_or_concat (Path.names path.toList) with hnames | ⟨front, m, hnames⟩
    · cases hr : refused? path with
      | none => cases (slot_of_no_name hr hnames).symm.trans hslot
      | some f =>
        rw [slot, hr] at hslot
        cases hslot
    · rw [List.concat_eq_append] at hnames
      obtain ⟨-, _, -, hlast⟩ := reach_of_slot hnames hslot
      obtain ⟨-, rfl, -⟩ := lastName_eq_name hlast
      rw [isDirectory_of_find (find_put hnames hslot hnone)]
      rfl

theorem makeDirectory_error_state {e : Failure} (h : makeDirectory path t = (.error e, t')) :
    t' = t := by
  rcases slot_cases t path with ⟨f, hslot⟩ | ⟨found, hslot, ho⟩ | ⟨loc, n, hslot, hnone⟩
  · cases (makeDirectory_of_error hslot).symm.trans h
    rfl
  · cases (makeDirectory_of_occupied hslot ho).symm.trans h
    rfl
  · cases (makeDirectory_of_free hslot hnone).symm.trans h

/-! ### The last directory -/

theorem makeLast_of_ok (mayExist : Bool) (h : makeDirectory path t = (.ok (), t')) :
    makeLast mayExist path t = (.ok (), t') := handle_of_ok _ h

/-- A failure stays unless the directory is there. -/
theorem makeLast_of_error (mayExist : Bool) {e : Failure} (h : makeDirectory path t = (.error e, t))
    (hd : t.isDirectory path = false) : makeLast mayExist path t = (.error e, t) := by
  rw [makeLast, handle_of_error _ h]
  split
  · next hs =>
    split at hs
    · cases hs
      rw [bind_of_ok (state_apply t), hd]
      rfl
    · cases hs
  · rfl

theorem isDirectory_of_makeLast {mayExist : Bool} (h : makeLast mayExist path t = (.ok (), t')) :
    t'.isDirectory path = true := by
  rcases hm : makeDirectory path t with ⟨e | _, t₁⟩
  · obtain rfl := makeDirectory_error_state hm
    cases hd : t₁.isDirectory path
    · cases (makeLast_of_error mayExist hm hd).symm.trans h
    · have hstate := makeLast_state mayExist path t₁
      rw [h, hm] at hstate
      obtain rfl : t' = t₁ := hstate
      exact hd
  · cases (makeLast_of_ok mayExist hm).symm.trans h
    exact isDirectory_of_makeDirectory hm

end One

/-! ### Directories with what is above them -/

section Many

variable {t t' t'' : FileTree} {path : String} {above last : List Char}

theorem makeLast_extended (mayExist : Bool) (path : String) (t : FileTree) :
    Extended t (makeLast mayExist path t).2 := by
  rw [makeLast_state]
  exact makeDirectory_extended path t

/-- Whatever comes of it, making directories only adds directories. -/
theorem makeDirectoriesFrom_extended (mayExist : Bool) (depth : Nat) :
    ∀ (path : String) (t : FileTree),
      Extended t (makeDirectoriesFrom depth mayExist path t).2 := by
  induction depth with
  | zero =>
    intro path t
    exact refl_of _ t
  | succ depth ih =>
    intro path t
    rcases hsplit : aboveAndLast path.toList with ⟨above, last⟩
    rw [makeDirectoriesFrom_succ hsplit]
    split
    · have habove := ih (String.ofList above) t
      rw [← makeAbove_state] at habove
      rcases hrun : makeAbove depth mayExist (String.ofList above) t with ⟨e | _, t₁⟩ <;>
        rw [hrun] at habove
      · rw [bind_of_error hrun]
        exact habove
      · rw [bind_of_ok hrun]
        split
        · exact habove
        · exact trans_of _ habove (makeLast_extended mayExist path t₁)
    · exact makeLast_extended mayExist path t

/-- The path itself, or one that ends at one of its slashes. -/
def IsAncestor (above path : String) : Prop :=
  above = path ∨ ∃ rest, path.toList = above.toList ++ '/' :: rest

theorem IsAncestor.trans {above between : String} (h : IsAncestor above between)
    (h' : IsAncestor between path) : IsAncestor above path := by
  rcases h' with rfl | ⟨rest', hrest'⟩
  · exact h
  · refine .inr ?_
    rcases h with rfl | ⟨rest, hrest⟩
    · exact ⟨rest', hrest'⟩
    · exact ⟨rest ++ '/' :: rest', by rw [hrest', hrest, List.append_assoc, List.cons_append]⟩

/-- Directories were added, each of them as the path or as one above it; nothing else changed. -/
structure Made (path : String) (t t' : FileTree) : Prop where
  cwd_eq : t'.cwd = t.cwd
  get?_eq : ∀ loc, t'.get? loc = t.get? loc ∨ t.get? loc = none ∧ t'.get? loc = some .directory ∧
    ∃ above, IsAncestor above path ∧ t'.find above = .ok (loc, .directory)

theorem Made.extended (h : Made path t t') : Extended t t' := by
  refine ⟨h.cwd_eq, fun loc => (h.get?_eq loc).imp_right ?_⟩
  rintro ⟨hnone, hsome, -⟩
  exact ⟨hnone, hsome⟩

theorem made_refl (path : String) (t : FileTree) : Made path t t := ⟨rfl, fun _ => .inl rfl⟩

/-- One directory more, at the end of the path. -/
theorem Made.put {between : String} {loc : List String} (h : Made between t t')
    (hbetween : IsAncestor between path) (hnone : t'.get? loc = none)
    (hfind : (t'.put loc .directory).find path = .ok (loc, .directory)) :
    Made path t (t'.put loc .directory) := by
  have hne := ne_nil_of_get?_eq_none hnone
  refine ⟨h.cwd_eq, fun l => ?_⟩
  by_cases hl : loc = l
  · subst hl
    refine .inr ⟨?_, ?_, path, .inl rfl, hfind⟩
    · rcases h.get?_eq loc with heq | ⟨hfree, -⟩
      · rw [← heq, hnone]
      · exact hfree
    · rw [get?_put hne, if_pos rfl]
  · rw [get?_put hne, if_neg hl]
    rcases h.get?_eq l with heq | ⟨hfree, hmade, above, habove, hfound⟩
    · exact .inl heq
    · exact .inr ⟨hfree, hmade, above, habove.trans hbetween,
        find_extended (extended_put hnone) hfound⟩

/-- The path leads to a directory with nothing in it. -/
def LeadsToEmpty (t : FileTree) (path : String) : Prop :=
  ∃ loc, t.find path = .ok (loc, .directory) ∧ ∀ more, more ≠ [] → t.get? (loc ++ more) = none

/-- Where the directory above is found, the slot of a name is in it. -/
theorem slot_of_reach {front loc : List String} {n : String} (hr : refused? path = none)
    (hnames : Path.names path.toList = front ++ [n]) (hn : IsName n)
    (hsize : n.utf8ByteSize ≤ maxNameBytes) (h : t.reach path front = .ok (loc, .directory)) :
    t.slot path = .ok (loc, .name n) := by
  rw [slot_eq_reach hr hnames, h]
  dsimp only
  rw [lastName, if_neg hn.ne_itself, if_neg hn.ne_above, if_neg (Nat.not_lt.mpr hsize)]

/-- The last directory is made in a free slot. -/
theorem makeLast_of_free (mayExist : Bool) {between : String} {front loc : List String} {n : String}
    (h : Made between t t') (hbetween : IsAncestor between path)
    (hnames : Path.names path.toList = front ++ [n]) (hslot : t'.slot path = .ok (loc, .name n))
    (hfree : ∀ more, t'.get? (loc ++ [n] ++ more) = none) :
    ∃ t'', makeLast mayExist path t' = (.ok (), t'') ∧ Made path t t'' ∧ t''.LeadsToEmpty path := by
  have hnone : t'.get? (loc ++ [n]) = none := by
    have h := hfree []
    rwa [List.append_nil] at h
  have hfind := find_put hnames hslot hnone
  refine ⟨_, makeLast_of_ok mayExist (makeDirectory_of_free hslot hnone),
    h.put hbetween hnone hfind, loc ++ [n], hfind, fun more hmore => ?_⟩
  rw [get?_put (by simp), if_neg (by simpa using hmore), hfree]

/-- Where a path is missing, what is above it is missing, or it is a directory. -/
theorem above_of_missing (hne : path ≠ "")
    (hmissing : t.find path = .error (.system (.missing path)))
    (h : Parted path.toList above last) :
    (Path.names above ≠ [] ∧ above ≠ [] ∧ t.reach path (Path.names above) = .error .missing ∧
      t.find (String.ofList above) = .error (.system (.missing (String.ofList above)))) ∨
    ∃ loc, t.reach path (Path.names above) = .ok (loc, .directory) ∧
      (above = [] ∨ t.find (String.ofList above) = .ok (loc, .directory)) := by
  obtain ⟨hr, hreach⟩ := reach_of_missing hne hmissing
  obtain ⟨links, hwalk⟩ := reach_append t path (List.cons_ne_nil (String.ofList last) [])
    (Path.names above)
  rw [← h.names_eq, hreach] at hwalk
  rcases hfront : t.reach path (Path.names above) with f | ⟨loc, e⟩ <;> rw [hfront] at hwalk
  · obtain rfl : f = .missing := (Except.error.inj hwalk).symm
    have hnames : Path.names above ≠ [] := by
      intro hnil
      rw [hnil] at hfront
      cases hfront
    have habove : above ≠ [] := by
      rintro rfl
      exact hnames rfl
    refine .inl ⟨hnames, habove, rfl, ?_⟩
    rw [find_above h habove hr, hfront]
    rfl
  · obtain rfl : e = .directory := by
      cases e <;> first | rfl | cases hwalk
    refine .inr ⟨loc, rfl, ?_⟩
    by_cases habove : above = []
    · exact .inl habove
    · refine .inr ?_
      rw [find_above h habove hr, hfront]

theorem makeAbove_of_error {depth : Nat} {mayExist : Bool} {above : String} {e : Failure}
    (h : makeDirectoriesFrom depth mayExist above t = (.error e, t')) :
    makeAbove depth mayExist above t = (if saysExists e then .ok () else .error e, t') := by
  rw [makeAbove, handle_of_error _ h]
  cases saysExists e <;> rfl

/-- In a directory that is there, what is missing is made, unless there is something in its place. -/
theorem makeLast_of_above (mayExist : Bool) {front loc : List String} {n : String} (htree : t.IsTree)
    (hne : path ≠ "") (hmissing : t.find path = .error (.system (.missing path)))
    (hnames : Path.names path.toList = front ++ [n]) (hn : IsName n)
    (hsize : n.utf8ByteSize ≤ maxNameBytes) (hfront : t.reach path front = .ok (loc, .directory)) :
    (∃ e, makeLast mayExist path t = (.error e, t) ∧ e.isSystem = true) ∨
      ∃ t', makeLast mayExist path t = (.ok (), t') ∧ Made path t t' ∧ t'.LeadsToEmpty path := by
  have hslot := slot_of_reach (reach_of_missing hne hmissing).1 hnames hn hsize hfront
  by_cases hnone : t.get? (loc ++ [n]) = none
  · refine .inr (makeLast_of_free mayExist (made_refl path t) (.inl rfl) hnames hslot ?_)
    intro more
    by_cases hmore : more = []
    · rw [hmore, List.append_nil, hnone]
    · exact htree.get?_below hmore (by simp [hnone])
  · exact .inl ⟨_, makeLast_of_error mayExist (makeDirectory_of_occupied hslot hnone)
      (isDirectory_of_missing hmissing), rfl⟩

/-- In a directory that was made for it, a path is made, as nothing can be in its place. -/
theorem makeLast_of_made (mayExist : Bool) (hr : refused? path = none)
    (hparted : Parted path.toList above last) (hne : above ≠ []) (hnames : Path.names above ≠ [])
    (hn : IsName (String.ofList last)) (hsize : (String.ofList last).utf8ByteSize ≤ maxNameBytes)
    (hmade : Made (String.ofList above) t t') (hempty : t'.LeadsToEmpty (String.ofList above)) :
    ∃ t'', makeLast mayExist path t' = (.ok (), t'') ∧ Made path t t'' ∧ t''.LeadsToEmpty path := by
  obtain ⟨loc, hfind, hbelow⟩ := hempty
  obtain ⟨rest, hrest⟩ := hparted.exists_rest hnames
  have hreach := reach_of_find_above hparted hne hr hfind
  refine makeLast_of_free mayExist hmade (.inr ⟨rest, by simpa using hrest⟩) hparted.names_eq
    (slot_of_reach hr hparted.names_eq hn hsize hreach) fun more => ?_
  rw [List.append_assoc]
  exact hbelow _ (by simp)

/-- **A missing directory is made or nothing changes.** -/
theorem makeDirectoriesFrom_cases (mayExist : Bool) (depth : Nat) :
    ∀ {path : String} {t : FileTree}, path ≠ "" → (∀ n ∈ Path.names path.toList, IsName n) →
      Short (Path.names path.toList) → t.IsTree → t.find path = .error (.system (.missing path)) →
      (Path.names path.toList).length ≤ depth →
      (∃ e, makeDirectoriesFrom depth mayExist path t = (.error e, t) ∧ e.isSystem = true) ∨
        ∃ t', makeDirectoriesFrom depth mayExist path t = (.ok (), t') ∧ Made path t t' ∧
          t'.LeadsToEmpty path := by
  induction depth with
  | zero =>
    intro path t hne hisName hshort htree hmissing hdepth
    obtain ⟨-, hreach⟩ := reach_of_missing hne hmissing
    rw [List.eq_nil_of_length_eq_zero (Nat.le_zero.mp hdepth)] at hreach
    cases hreach
  | succ depth ih =>
    intro path t hne hisName hshort htree hmissing hdepth
    obtain ⟨hr, hreach⟩ := reach_of_missing hne hmissing
    rcases hsplit : aboveAndLast path.toList with ⟨above, last⟩
    obtain ⟨-, hnil⟩ | ⟨hlast, hparted⟩ := aboveAndLast_cases hsplit
    · rw [hnil] at hreach
      cases hreach
    have hnames := hparted.names_eq
    rw [hnames] at hisName hshort hdepth
    have hn : IsName (String.ofList last) := hisName _ (by simp)
    have hsize : (String.ofList last).utf8ByteSize ≤ maxNameBytes := hshort _ (by simp)
    have hitself : last ≠ ['.'] := by
      rintro rfl
      exact hn.ne_itself rfl
    rw [makeDirectoriesFrom_succ hsplit]
    rcases above_of_missing hne hmissing hparted with
      ⟨hnamesAbove, habove, hfront, hmissing'⟩ | ⟨loc, hfront, habove⟩
    · -- what is missing above the path is made first, and nothing is in it then
      rw [if_pos ⟨habove, hlast, by rw [exists?, hmissing']; rfl⟩, if_neg hitself]
      rcases ih (by simpa using habove) (by simpa using fun n hn => hisName n (by simp [hn]))
        (by simpa [Short] using fun n hn => hshort n (by simp [hn])) htree hmissing'
        (by simpa using hdepth) with ⟨e, hrun, hsystem⟩ | ⟨t₁, hrun, hmade, hempty⟩
      · have hrun' := makeAbove_of_error hrun
        by_cases hthere : saysExists e = true
        · -- there is a link in the place of what is missing, so nothing can be made in it
          rw [if_pos hthere] at hrun'
          rw [bind_of_ok hrun']
          have hslot : t.slot path = .error (.system (.missing path)) := by
            rw [slot_eq_reach hr hnames, hfront]
            rfl
          exact .inl ⟨_, makeLast_of_error mayExist (makeDirectory_of_error hslot)
            (isDirectory_of_missing hmissing), rfl⟩
        · rw [if_neg hthere] at hrun'
          exact .inl ⟨e, bind_of_error hrun', hsystem⟩
      · rw [bind_of_ok (show makeAbove depth mayExist (String.ofList above) t = (.ok (), t₁) from
          handle_of_ok _ hrun)]
        exact .inr (makeLast_of_made mayExist hr hparted habove hnamesAbove hn hsize hmade hempty)
    · rw [if_neg]
      · exact makeLast_of_above mayExist htree hne hmissing hnames hn hsize hfront
      · rintro ⟨hne', -, hexists⟩
        rw [exists?, habove.resolve_left hne'] at hexists
        cases hexists

/-! ### Making directories again -/

/-- Nothing failed but what says that something is there. -/
def Settled : Except Failure Unit → Prop
  | .ok _ => True
  | .error e => saysExists e = true

/-- What making a directory leaves at the path: a directory, or something else in its place. -/
def Ended (path : String) (r : Except Failure Unit) (t : FileTree) : Prop :=
  r = .ok () ∧ t.isDirectory path = true ∨
    ∃ e, r = .error e ∧
      (saysExists e = true → ∃ found, t.slot path = .ok found ∧ t.Occupied found)

theorem saysExists_of_refused {f : Fault} (h : refused? path = some f) :
    saysExists (.fault f) = false := by
  rw [refused?] at h
  split at h
  · cases h
    rfl
  · split at h
    · cases h
      rfl
    · split at h <;> cases h
      rfl

theorem saysExists_of_slot {f : Fault} (h : t.slot path = .error f) :
    saysExists (.fault f) = false := by
  rw [slot] at h
  cases hr : refused? path with
  | some f' =>
    rw [hr] at h
    cases h
    exact saysExists_of_refused hr
  | none =>
    rw [hr] at h
    dsimp only at h
    split at h
    · next f' _ =>
      cases h
      cases f' <;> rfl
    · split at h
      · cases h
      · cases h
      · cases h
      · split at h <;> cases h
        rfl

theorem makeDirectory_of_makeLast {mayExist : Bool} {e : Failure}
    (h : makeLast mayExist path t = (.error e, t')) : makeDirectory path t = (.error e, t') := by
  rcases hm : makeDirectory path t with ⟨e' | _, t₁⟩
  · rw [makeLast, handle_of_error _ hm] at h
    split at h
    · next hs =>
      split at hs
      · cases hs
        rw [bind_of_ok (state_apply t₁)] at h
        split at h <;> cases h
        rfl
      · cases hs
    · exact h
  · cases (makeLast_of_ok mayExist hm).symm.trans h

theorem makeLast_ended (mayExist : Bool) (path : String) (t : FileTree) :
    Ended path (makeLast mayExist path t).1 (makeLast mayExist path t).2 := by
  rcases hrun : makeLast mayExist path t with ⟨e | _, t'⟩
  · refine .inr ⟨e, rfl, fun hthere => ?_⟩
    have hm := makeDirectory_of_makeLast hrun
    obtain rfl := makeDirectory_error_state hm
    rcases slot_cases t' path with ⟨f, hslot⟩ | ⟨found, hslot, ho⟩ | ⟨loc, n, hslot, hnone⟩
    · cases (makeDirectory_of_error hslot).symm.trans hm
      rw [saysExists_of_slot hslot] at hthere
      cases hthere
    · exact ⟨found, hslot, ho⟩
    · cases (makeDirectory_of_free hslot hnone).symm.trans hm
  · exact .inl ⟨rfl, isDirectory_of_makeLast hrun⟩

theorem makeAbove_settled {depth : Nat} {mayExist : Bool} {above : String}
    {r : Except Failure Unit} (h : makeDirectoriesFrom depth mayExist above t = (r, t'))
    (hr : Settled r) : makeAbove depth mayExist above t = (.ok (), t') := by
  rcases r with e | _
  · rw [makeAbove_of_error h, if_pos (show saysExists e = true from hr)]
  · exact handle_of_ok _ h

/-- What is above a path is settled, or it fails for another reason. -/
theorem makeAbove_cases (depth : Nat) (mayExist : Bool) (above : String) (t : FileTree) :
    (∃ r t', makeDirectoriesFrom depth mayExist above t = (r, t') ∧ Settled r ∧
      makeAbove depth mayExist above t = (.ok (), t')) ∨
    ∃ e t', makeAbove depth mayExist above t = (.error e, t') ∧ saysExists e = false := by
  rcases hrun : makeDirectoriesFrom depth mayExist above t with ⟨r, t'⟩
  by_cases hr : Settled r
  · exact .inl ⟨r, t', rfl, hr, makeAbove_settled hrun hr⟩
  · rcases r with e | _
    · have hthere : saysExists e = false := by simpa [Settled] using hr
      refine .inr ⟨e, t', ?_, hthere⟩
      rw [makeAbove_of_error hrun, hthere]
      rfl
    · exact absurd trivial hr

theorem makeDirectoriesFrom_ended (hsplit : aboveAndLast path.toList = (above, last))
    (hitself : last ≠ ['.']) (depth : Nat) (mayExist : Bool) (t : FileTree) :
    Ended path (makeDirectoriesFrom (depth + 1) mayExist path t).1
      (makeDirectoriesFrom (depth + 1) mayExist path t).2 := by
  rw [makeDirectoriesFrom_succ hsplit, if_neg hitself]
  split
  · rcases makeAbove_cases depth mayExist (String.ofList above) t with
      ⟨r, t₁, -, -, hrun⟩ | ⟨e, t₁, hrun, hthere⟩
    · rw [bind_of_ok hrun]
      exact makeLast_ended mayExist path t₁
    · rw [bind_of_error hrun]
      refine .inr ⟨e, rfl, fun h => ?_⟩
      rw [hthere] at h
      cases h
  · exact makeLast_ended mayExist path t

theorem exists?_of_extended (h : Extended t t') {f : Fault} (hmissing : t'.find path = .error f) :
    t.exists? path = false := by
  rw [exists?]
  rcases hfind : t.find path with f' | found
  · rfl
  · cases (find_extended h hfind).symm.trans hmissing

/-- Where something is in the place of a path that leads to nothing, no directory is made. -/
theorem makeDirectoriesFrom_of_occupied {found : List String × LastName}
    (hsplit : aboveAndLast path.toList = (above, last)) (hparted : Parted path.toList above last)
    (hne : path ≠ "") (hmissing : t.find path = .error (.system (.missing path)))
    (hslot : t.slot path = .ok found) (ho : t.Occupied found) (depth : Nat) (mayExist : Bool) :
    ∃ e, makeDirectoriesFrom (depth + 1) mayExist path t = (.error e, t) ∧ saysExists e = true := by
  obtain ⟨-, loc, hfront, -⟩ := reach_of_slot hparted.names_eq hslot
  rw [makeDirectoriesFrom_succ hsplit, if_neg]
  · exact ⟨_, makeLast_of_error mayExist (makeDirectory_of_occupied hslot ho)
      (isDirectory_of_missing hmissing), rfl⟩
  · rintro ⟨habove, -, hexists⟩
    rw [exists?, find_above hparted habove (reach_of_missing hne hmissing).1, hfront] at hexists
    cases hexists

/-- **Making directories again,** also after others were added, changes nothing more. It ends as the
first time where the path still leads to nothing. -/
theorem makeDirectoriesFrom_again (mayExist : Bool) (depth : Nat) :
    ∀ {path : String} {t t₁ t₂ : FileTree} {r : Except Failure Unit}, path ≠ "" →
      makeDirectoriesFrom depth mayExist path t = (r, t₁) → Settled r → Extended t₁ t₂ →
      t₂.find path = .error (.system (.missing path)) →
      ∃ r', makeDirectoriesFrom depth mayExist path t₂ = (r', t₂) ∧ Settled r' ∧
        (r = .ok () → r' = .ok ()) := by
  induction depth with
  | zero =>
    intro path t t₁ t₂ r _ _ _ _ _
    exact ⟨.ok (), rfl, trivial, fun _ => rfl⟩
  | succ depth ih =>
    intro path t t₁ t₂ r hne hrun hsettled hextended hmissing
    obtain ⟨-, hreach⟩ := reach_of_missing hne hmissing
    rcases hsplit : aboveAndLast path.toList with ⟨above, last⟩
    obtain ⟨-, hnil⟩ | ⟨hlast, hparted⟩ := aboveAndLast_cases hsplit
    · rw [hnil] at hreach
      cases hreach
    have hstages := makeDirectoriesFrom_extended mayExist (depth + 1) path t
    rw [hrun] at hstages
    by_cases hitself : last = ['.']
    · -- nothing is made for the name itself, so what is above it is made again
      rcases above_of_missing hne hmissing hparted with
        ⟨-, habove, -, hmissing'⟩ | ⟨loc, hfront, -⟩
      · have hexists := exists?_of_extended (refl_of Extended t₂) hmissing'
        have hexists' := exists?_of_extended (trans_of _ hstages hextended) hmissing'
        rw [makeDirectoriesFrom_succ hsplit, if_pos ⟨habove, hlast, hexists'⟩, if_pos hitself]
          at hrun
        rw [makeDirectoriesFrom_succ hsplit, if_pos ⟨habove, hlast, hexists⟩, if_pos hitself]
        rcases makeAbove_cases depth mayExist (String.ofList above) t with
          ⟨r₀, t₀, hrun₀, hsettled₀, hok⟩ | ⟨e, t₀, herror, hthere⟩
        · rw [bind_of_ok hok] at hrun
          cases hrun
          obtain ⟨r₂, hrun₂, hsettled₂, -⟩ :=
            ih (by simpa using habove) hrun₀ hsettled₀ hextended hmissing'
          rw [bind_of_ok (makeAbove_settled hrun₂ hsettled₂)]
          exact ⟨.ok (), rfl, trivial, fun _ => rfl⟩
        · rw [bind_of_error herror] at hrun
          cases hrun
          rw [Settled, hthere] at hsettled
          cases hsettled
      · rw [hparted.names_eq, hitself, show String.ofList ['.'] = "." from rfl, reach_itself,
          hfront] at hreach
        cases hreach
    · have hended := makeDirectoriesFrom_ended hsplit hitself depth mayExist t
      rw [hrun] at hended
      rcases hended with ⟨-, hd⟩ | ⟨e, rfl, hthere⟩
      · cases (isDirectory_of_missing hmissing).symm.trans (isDirectory_extended hextended hd)
      · -- what was in the way of the directory is still there
        obtain ⟨found, hslot, ho⟩ := hthere hsettled
        obtain ⟨e', hrun₂, hthere₂⟩ := makeDirectoriesFrom_of_occupied hsplit hparted hne hmissing
          (slot_extended hextended hslot) (ho.extended hextended) depth mayExist
        exact ⟨.error e', hrun₂, hthere₂, nofun⟩

end Many

end PluginHarness.FileTree
