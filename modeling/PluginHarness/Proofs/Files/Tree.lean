import PluginHarness.Proofs.Attempt
import PluginHarness.Proofs.Entries
import PluginHarness.Proofs.Files.Path

/-!
# Making and removing directories at plain paths

The walk of a plain path that meets no link goes through the locations of its names, one below the
other, and what it gives depends on what is at these locations alone. `Along` speaks of them, and a
walk comes to a directory if and only if all of them are directories.

What making directories does to a tree is a relation between the tree before and after it, as for
any attempt: `Grown` allows directories to appear at locations on the way that were free, and nothing
else. It is a preorder and holds whatever the outcome, so also of what was made before a failure.
Removing is an equation instead: `Cleared` leaves nothing at a location and below it, and everything
else as it was.

A location may have vanished together with one above it. Then a walk to it ends where the first
name is missing, and so does the walk to its directory when that is gone as well. Both count as
nothing being there.

## Main definitions

* `FileTree.Along`: what is at each location on the way.
* `FileTree.location`: where a path leads to when no link is met.
* `FileTree.Stands`: a path leads to a directory, through directories.
* `FileTree.Grown`, `FileTree.Cleared`: directories were made on the way; a location was emptied.

## Main results

* `FileTree.makeDirectories_grown`, `FileTree.stands_of_makeDirectories`: making directories.
* `FileTree.removeTree_of_stands`, `FileTree.unlink_of_gone`: removing what is there, and what is
  not.
-/

namespace PluginHarness.FileTree

open Attempt PluginHarness.Path

/-! ### Locations on the way -/

/-- What is said of each location from below `here` to the last name. -/
def Along (P : Option Entry → Prop) (t : FileTree) (here names : List String) : Prop :=
  ∀ front, front <+: names → front ≠ [] → P (t.get? (here ++ front))

/-- There is no link. -/
def NoLink (e : Option Entry) : Prop := ∀ target, e ≠ some (.link target)

/-- There is a directory. -/
def IsDirectory (e : Option Entry) : Prop := e = some .directory

/-- There is a directory or nothing. -/
def IsFree (e : Option Entry) : Prop := e = some .directory ∨ e = none

theorem IsDirectory.noLink {e : Option Entry} (h : IsDirectory e) : NoLink e := by
  rintro target rfl
  cases h

theorem IsFree.noLink {e : Option Entry} (h : IsFree e) : NoLink e := by
  rintro target rfl
  rcases h with h | h <;> cases h

section Along

variable {P Q : Option Entry → Prop} {t t' : FileTree} {here names : List String} {n : String}

@[simp] theorem along_nil : Along P t here [] :=
  fun _ hfront hne => absurd (List.prefix_nil.mp hfront) hne

theorem along_cons :
    Along P t here (n :: names) ↔ P (t.get? (here ++ [n])) ∧ Along P t (here ++ [n]) names := by
  constructor
  · intro h
    refine ⟨h [n] (by simp) (by simp), fun front hfront hne => ?_⟩
    have hn := h (n :: front) (by simpa using hfront) (by simp)
    rwa [List.append_cons] at hn
  · rintro ⟨hn, hrest⟩ front hfront hne
    obtain ⟨m, rest, rfl⟩ := List.exists_cons_of_ne_nil hne
    obtain ⟨rfl, hprefix⟩ := List.cons_prefix_cons.mp hfront
    by_cases hempty : rest = []
    · rw [hempty]
      exact hn
    · rw [List.append_cons]
      exact hrest rest hprefix hempty

theorem along_concat :
    Along P t here (names ++ [n]) ↔ Along P t here names ∧ P (t.get? (here ++ (names ++ [n]))) := by
  induction names generalizing here with
  | nil => simp [along_cons]
  | cons m rest ih =>
    rw [List.cons_append, along_cons, along_cons, ih, and_assoc, List.append_assoc]
    rfl

theorem Along.imp (h : Along P t here names) (hPQ : ∀ front, front <+: names → front ≠ [] →
    P (t.get? (here ++ front)) → Q (t'.get? (here ++ front))) : Along Q t' here names :=
  fun front hfront hne => hPQ front hfront hne (h front hfront hne)

theorem Along.of_prefix {more : List String} (h : Along P t here more) (hp : names <+: more) :
    Along P t here names :=
  fun front hfront hne => h front (hfront.trans hp) hne

end Along

/-- The names are not too long. -/
def Short (names : List String) : Prop := ∀ n ∈ names, n.utf8ByteSize ≤ maxNameBytes

instance (names : List String) : Decidable (Short names) :=
  inferInstanceAs (Decidable (∀ n ∈ names, n.utf8ByteSize ≤ maxNameBytes))

/-! ### Walking -/

section Walk

variable {t : FileTree} (followLast : Bool)
  (follow : List String → List String → Except WalkFault (List String × Entry))
  {here names more loc : List String} {e : Entry}

theorem walkNames_cons {n : String} (hn : IsName n) (names : List String) :
    walkNames t followLast follow here (n :: names) =
      if maxNameBytes < n.utf8ByteSize then .error .nameTooLong
      else match t.get? (here ++ [n]) with
        | none => .error .missing
        | some .directory => walkNames t followLast follow (here ++ [n]) names
        | some (.file content) =>
          if names.isEmpty then .ok (here ++ [n], .file content) else .error .notDirectory
        | some (.link target) =>
          if names.isEmpty && !followLast then .ok (here ++ [n], .link target)
          else follow (if Path.isAbsolute target.toList then [] else here)
            (Path.parts target ++ names) := by
  have hitself : (n == ".") = false := by simpa using hn.ne_itself
  have habove : (n == "..") = false := by simpa using hn.ne_above
  rw [walkNames, hitself, habove]
  rfl

/-- A walk goes through directories. -/
theorem walkNames_of_directories (hnames : ∀ n ∈ names, IsName n) (hshort : Short names)
    (h : Along IsDirectory t here names) (more : List String) :
    walkNames t followLast follow here (names ++ more) =
      walkNames t followLast follow (here ++ names) more := by
  induction names generalizing here with
  | nil => simp
  | cons n rest ih =>
    obtain ⟨hn, hrest⟩ := along_cons.mp h
    have hsize : ¬ maxNameBytes < n.utf8ByteSize := Nat.not_lt.mpr (hshort n (.head _))
    rw [List.cons_append, walkNames_cons _ _ (hnames n (.head _)), if_neg hsize, hn]
    dsimp only
    rw [ih (fun m hm => hnames m (.tail _ hm)) (fun m hm => hshort m (.tail _ hm)) hrest,
      ← List.append_cons]

/-- A walk that comes to a directory without meeting a link went through directories. -/
theorem directories_of_walkNames (hnames : ∀ n ∈ names, IsName n)
    (hlinks : Along NoLink t here names) (he : more ≠ [] ∨ e = .directory)
    (h : walkNames t followLast follow here (names ++ more) = .ok (loc, e)) :
    Short names ∧ Along IsDirectory t here names := by
  induction names generalizing here with
  | nil => exact ⟨by simp [Short], along_nil⟩
  | cons n rest ih =>
    obtain ⟨hlink, hlinks⟩ := along_cons.mp hlinks
    rw [List.cons_append, walkNames_cons _ _ (hnames n (.head _))] at h
    split at h
    · cases h
    · next hsize =>
      split at h
      · cases h
      · next hget =>
        obtain ⟨hshort, hrest⟩ := ih (fun m hm => hnames m (.tail _ hm)) hlinks h
        refine ⟨fun m hm => ?_, along_cons.mpr ⟨hget, hrest⟩⟩
        rcases List.mem_cons.mp hm with rfl | hm
        · exact Nat.not_lt.mp hsize
        · exact hshort m hm
      · split at h
        · next hempty =>
          cases h
          rcases he with hmore | he
          · simp [hmore] at hempty
          · cases he
        · cases h
      · next target hget => exact absurd hget (hlink target)

/-- A walk in which a directory is missing and nothing else is in the way ends there. -/
theorem walkNames_of_gone (hnames : ∀ n ∈ names, IsName n) (hshort : Short names)
    (hfree : Along IsFree t here names) (h : ¬ Along IsDirectory t here names)
    (more : List String) :
    walkNames t followLast follow here (names ++ more) = .error .missing := by
  induction names generalizing here with
  | nil => exact absurd along_nil h
  | cons n rest ih =>
    obtain ⟨hn, hfree⟩ := along_cons.mp hfree
    have hsize : ¬ maxNameBytes < n.utf8ByteSize := Nat.not_lt.mpr (hshort n (.head _))
    rw [List.cons_append, walkNames_cons _ _ (hnames n (.head _)), if_neg hsize]
    rcases hn with hget | hget
    · rw [hget]
      exact ih (fun m hm => hnames m (.tail _ hm)) (fun m hm => hshort m (.tail _ hm)) hfree
        fun hrest => h (along_cons.mpr ⟨hget, hrest⟩)
    · rw [hget]

end Walk

/-! ### What a path leads to -/

theorem walk_eq (t : FileTree) (followLast : Bool) (links : Nat) :
    ∃ follow, walk t followLast links = walkNames t followLast follow := by
  cases links <;> exact ⟨_, rfl⟩

theorem start_eq {t t' : FileTree} (h : t'.cwd = t.cwd) (path : String) :
    t'.start path = t.start path := by
  rw [start, start, h]

/-- Where the path leads to when no link is met. -/
def location (t : FileTree) (path : String) : List String :=
  t.start path ++ Path.names path.toList

theorem location_eq {t t' : FileTree} (h : t'.cwd = t.cwd) (path : String) :
    t'.location path = t.location path := by
  rw [location, location, start_eq h]

/-- The path leads to a directory, through directories. -/
structure Stands (t : FileTree) (path : String) (names : List String) : Prop where
  walked : refused? path = none
  short : Short names
  directories : Along IsDirectory t (t.start path) names

section Paths

variable {t : FileTree} {path : String} {names : List String}

theorem Stands.locate_eq (h : Stands t path names) (hp : Spells path.toList names)
    (followLast : Bool) :
    t.locate followLast path = .ok (t.start path ++ names, .directory) := by
  obtain ⟨follow, hwalk⟩ := walk_eq t followLast maxLinks
  have hrun := walkNames_of_directories followLast follow hp.isName
    h.short h.directories []
  rw [List.append_nil] at hrun
  rw [locate, h.walked, hwalk, hp.parts_eq, hrun]
  rfl

theorem Stands.isDirectory (h : Stands t path names) (hp : Spells path.toList names) :
    t.isDirectory path = true := by
  rw [FileTree.isDirectory, find, h.locate_eq hp]
  rfl

theorem Stands.isLink (h : Stands t path names) (hp : Spells path.toList names) :
    t.isLink path = false := by
  rw [FileTree.isLink, findEntry, h.locate_eq hp]
  rfl

theorem stands_of_isDirectory (hp : Spells path.toList names)
    (hlinks : Along NoLink t (t.start path) names) (h : t.isDirectory path = true) :
    Stands t path names := by
  obtain ⟨follow, hwalk⟩ := walk_eq t true maxLinks
  unfold FileTree.isDirectory find locate at h
  cases hr : refused? path with
  | some f => simp [hr, Except.toOption] at h
  | none =>
    rw [hr, hwalk, hp.parts_eq, ← List.append_nil names] at h
    dsimp only at h
    rcases hw : walkNames t true follow (t.start path) (names ++ []) with f | ⟨loc, e⟩ <;>
      rw [hw] at h
    · cases h
    · obtain ⟨hshort, hdirectories⟩ := directories_of_walkNames _ _ hp.isName hlinks
        (.inr (by simpa [Except.toOption] using h)) hw
      exact ⟨hr, hshort, hdirectories⟩

/-! ### Slots -/

variable {front : List String} {n : String}

theorem slot_eq (hp : Spells path.toList (front ++ [n])) (hr : refused? path = none) :
    t.slot path = match t.walk true maxLinks (t.start path) (front ++ ["."]) with
      | .error f => .error (.system (f.system path))
      | .ok (directory, _) =>
        if maxNameBytes < n.utf8ByteSize then .error (.system (.nameTooLong path))
        else .ok (directory, .name n) := by
  have hn : IsName n := hp.isName n (by simp)
  rw [slot, hr, hp.names_eq]
  dsimp only
  rw [List.dropLast_concat, List.getLast?_concat]
  rcases t.walk true maxLinks (t.start path) (front ++ ["."]) with f | ⟨directory, _⟩
  · rfl
  · dsimp only
    split
    · next h => cases h
    · next h => exact absurd (Option.some.inj h) hn.ne_itself
    · next h => exact absurd (Option.some.inj h) hn.ne_above
    · next h =>
      cases h
      rfl

/-- The name of a path has its slot in the directory of the names before it. -/
theorem slot_of_directories (hp : Spells path.toList (front ++ [n])) (hr : refused? path = none)
    (hshort : Short (front ++ [n])) (h : Along IsDirectory t (t.start path) front) :
    t.slot path = .ok (t.start path ++ front, .name n) := by
  obtain ⟨follow, hwalk⟩ := walk_eq t true maxLinks
  have hnames : ∀ m ∈ front, IsName m := fun m hm => hp.isName m (by simp [hm])
  have hsize : ¬ maxNameBytes < n.utf8ByteSize := Nat.not_lt.mpr (hshort n (by simp))
  have hdot : walkNames t true follow (t.start path ++ front) ["."] =
      .ok (t.start path ++ front, .directory) := rfl
  rw [slot_eq hp hr, hwalk,
    walkNames_of_directories _ _ hnames (fun m hm => hshort m (by simp [hm])) h, hdot]
  exact if_neg hsize

/-- A slot is only found through directories. -/
theorem directories_of_slot (hp : Spells path.toList (front ++ [n]))
    (hlinks : Along NoLink t (t.start path) front) {found : List String × LastName}
    (h : t.slot path = .ok found) :
    refused? path = none ∧ Short (front ++ [n]) ∧ Along IsDirectory t (t.start path) front := by
  obtain ⟨follow, hwalk⟩ := walk_eq t true maxLinks
  cases hr : refused? path with
  | some f => simp [slot, hr] at h
  | none =>
    rw [slot_eq hp hr, hwalk] at h
    rcases hw : walkNames t true follow (t.start path) (front ++ ["."]) with f | ⟨loc, e⟩ <;>
      rw [hw] at h
    · cases h
    · dsimp only at h
      split at h
      · cases h
      · next hsize =>
        obtain ⟨hshort, hdirectories⟩ := directories_of_walkNames _ _
          (fun m hm => hp.isName m (by simp [hm])) hlinks (.inl (by simp)) hw
        exact ⟨rfl, List.forall_mem_append.mpr ⟨hshort, by simpa using hsize⟩, hdirectories⟩

end Paths

/-! ### Entries -/

theorem get?_put {t : FileTree} {loc : List String} (h : loc ≠ []) (e : Entry)
    (l : List String) : (t.put loc e).get? l = if loc = l then some e else t.get? l := by
  by_cases hl : l = []
  · simp [get?, hl, h]
  · simp [get?, put, hl, Entries.get?_insert]

theorem get?_drop {t : FileTree} {loc : List String} (h : loc ≠ []) (l : List String) :
    (t.drop loc).get? l = if l = loc then none else t.get? l := by
  by_cases hl : l = []
  · simp [get?, hl, Ne.symm h]
  · simp [get?, drop, hl, Entries.erase, Entries.get?_filter fun k => !(k == loc)]

theorem get?_dropBelow {t : FileTree} {loc : List String} (l : List String) (h : loc ≠ []) :
    (t.dropBelow loc).get? l = if loc <+: l ∧ l ≠ loc then none else t.get? l := by
  by_cases hl : l = []
  · simp [get?, hl, h]
  · simp only [get?, dropBelow, Entries.get?_filter fun k => !(loc.isPrefixOf k) || k == loc,
      ← List.isPrefixOf_iff_prefix]
    cases loc.isPrefixOf l <;> by_cases heq : l = loc <;> simp [hl, heq]

theorem hasBelow_dropBelow (t : FileTree) (loc : List String) :
    (t.dropBelow loc).hasBelow loc = false := by
  simp only [hasBelow, dropBelow, List.any_eq_false, List.mem_filter]
  rintro e ⟨-, he⟩
  cases hp : loc.isPrefixOf e.1 <;> simp_all

/-! ### Making directories -/

/-- On the way from `here` along the names there may be directories that were not there before;
nothing else changed. -/
structure Grown (here names : List String) (t t' : FileTree) : Prop where
  cwd_eq : t'.cwd = t.cwd
  get?_eq : ∀ loc, t'.get? loc = t.get? loc ∨ t.get? loc = none ∧
    t'.get? loc = some .directory ∧ ∃ front, front <+: names ∧ front ≠ [] ∧ loc = here ++ front

section Grown

variable {here names : List String} {t t' : FileTree}

instance : IsPreorder FileTree (Grown here names) where
  refl t := ⟨rfl, fun _ => .inl rfl⟩
  trans t₁ t₂ t₃ h h' := by
    refine ⟨h'.cwd_eq.trans h.cwd_eq, fun loc => ?_⟩
    rcases h.get?_eq loc with heq | ⟨hnone, hsome, hway⟩ <;>
      rcases h'.get?_eq loc with heq' | ⟨hnone', hsome', hway'⟩
    · exact .inl (heq'.trans heq)
    · exact .inr ⟨heq ▸ hnone', hsome', hway'⟩
    · exact .inr ⟨hnone, heq'.trans hsome, hway⟩
    · rw [hsome] at hnone'
      cases hnone'

theorem Grown.mono {more : List String} (h : Grown here names t t') (hp : names <+: more) :
    Grown here more t t' := by
  refine ⟨h.cwd_eq, fun loc => (h.get?_eq loc).imp_right ?_⟩
  rintro ⟨hnone, hsome, front, hfront, hne, rfl⟩
  exact ⟨hnone, hsome, front, hfront.trans hp, hne, rfl⟩

theorem Grown.get?_of_some (h : Grown here names t t') {loc : List String} {e : Entry}
    (he : t.get? loc = some e) : t'.get? loc = some e := by
  rcases h.get?_eq loc with heq | ⟨hnone, -, -⟩
  · rw [heq, he]
  · rw [he] at hnone
    cases hnone

/-- Directories stay, and no link appears. -/
theorem Grown.directories (h : Grown here names t t') {here' names' : List String}
    (hd : Along IsDirectory t here' names') : Along IsDirectory t' here' names' :=
  hd.imp fun _ _ _ he => h.get?_of_some he

theorem Grown.noLink (h : Grown here names t t') {here' names' : List String}
    (hl : Along NoLink t here' names') : Along NoLink t' here' names' := by
  refine hl.imp fun front _ _ he => ?_
  rcases h.get?_eq (here' ++ front) with heq | ⟨-, hsome, -⟩
  · rw [heq]
    exact he
  · rw [hsome]
    exact IsDirectory.noLink rfl

theorem Stands.grown {path : String} {names' : List String} (hs : Stands t path names')
    (h : Grown here names t t') : Stands t' path names' :=
  ⟨hs.walked, hs.short, start_eq h.cwd_eq path ▸ h.directories hs.directories⟩

end Grown

section Making

variable {t : FileTree} {path : String} {names front : List String} {n : String}

/-- Making a directory fails and changes nothing, or makes the last one on the way. -/
theorem makeDirectory_cases (hp : Spells path.toList (front ++ [n]))
    (hlinks : Along NoLink t (t.start path) front) :
    (∃ e, makeDirectory path t = (.error e, t)) ∨
      makeDirectory path t = (.ok (), t.put (t.start path ++ (front ++ [n])) .directory) ∧
        t.get? (t.start path ++ (front ++ [n])) = none ∧ refused? path = none ∧
        Short (front ++ [n]) ∧ Along IsDirectory t (t.start path) front := by
  rcases hslot : t.slot path with f | found
  · exact .inl ⟨.fault f, by rw [makeDirectory, hslot]⟩
  obtain ⟨hr, hshort, hdirectories⟩ := directories_of_slot hp hlinks hslot
  have hfound := slot_of_directories hp hr hshort hdirectories
  rcases hget : t.get? (t.start path ++ (front ++ [n])) with _ | e
  · exact .inr ⟨by simp [makeDirectory, hfound, hget], rfl, hr, hshort, hdirectories⟩
  · exact .inl ⟨.fault (.system (.alreadyExists path)), by simp [makeDirectory, hfound, hget]⟩

theorem grown_put {here names : List String} (hnames : names ≠ [])
    (h : t.get? (here ++ names) = none) :
    Grown here names t (t.put (here ++ names) .directory) := by
  refine ⟨rfl, fun loc => ?_⟩
  rw [get?_put (by simp [hnames])]
  split
  · next heq =>
    subst heq
    exact .inr ⟨h, rfl, names, List.prefix_rfl, hnames, rfl⟩
  · exact .inl rfl

/-- Whatever comes of it, making one directory only adds it. -/
theorem makeDirectory_grown (hp : Spells path.toList (front ++ [n]))
    (hlinks : Along NoLink t (t.start path) front) :
    Grown (t.start path) (front ++ [n]) t (makeDirectory path t).2 := by
  rcases makeDirectory_cases hp hlinks with ⟨e, h⟩ | ⟨h, hnone, -⟩
  · rw [h]
    exact refl_of _ t
  · rw [h]
    exact grown_put (by simp) hnone

/-- A directory that was made is there. -/
theorem stands_of_makeDirectory (hp : Spells path.toList (front ++ [n]))
    (hlinks : Along NoLink t (t.start path) front) {t' : FileTree}
    (h : makeDirectory path t = (.ok (), t')) : Stands t' path (front ++ [n]) := by
  have hgrown := makeDirectory_grown hp hlinks
  rw [h] at hgrown
  rcases makeDirectory_cases hp hlinks with ⟨e, h'⟩ | ⟨h', -, hr, hshort, hdirectories⟩
  · cases h'.symm.trans h
  · obtain rfl : _ = t' := congrArg Prod.snd (h'.symm.trans h)
    refine ⟨hr, hshort, along_concat.mpr ⟨hgrown.directories hdirectories, ?_⟩⟩
    show get? _ (t.start path ++ _) = _
    rw [get?_put (by simp), if_pos rfl]

/-- The last step of making directories: the directory itself, which may be there already. -/
def makeLast (mayExist : Bool) (path : String) : Attempt FileTree Unit :=
  (makeDirectory path).handle fun e =>
    if mayExist && e.isSystem then
      some do
        let t ← Attempt.state
        if t.isDirectory path then return () else Attempt.fail e
    else none

/-- The directories above a path; that they are there already is no failure. -/
def makeAbove (depth : Nat) (mayExist : Bool) (above : String) : Attempt FileTree Unit :=
  (makeDirectoriesFrom depth mayExist above).handle fun e =>
    if saysExists e then some (Attempt.pure ()) else none

/-- What is missing above a path is made first, and then its last part, unless that is `.`. -/
theorem makeDirectoriesFrom_succ {above last : List Char}
    (h : aboveAndLast path.toList = (above, last)) (depth : Nat) (mayExist : Bool)
    (t : FileTree) :
    makeDirectoriesFrom (depth + 1) mayExist path t =
      if above ≠ [] ∧ last ≠ [] ∧ t.exists? (String.ofList above) = false then
        (makeAbove depth mayExist (String.ofList above) >>= fun _ =>
          if last = ['.'] then Attempt.pure () else makeLast mayExist path) t
      else makeLast mayExist path t := by
  rw [makeDirectoriesFrom, h]
  dsimp only
  rw [bind_of_ok (state_apply t)]
  by_cases hc : above ≠ [] ∧ last ≠ [] ∧ t.exists? (String.ofList above) = false
  · rw [if_pos hc, if_pos (by simpa [and_assoc] using hc)]
    by_cases hitself : last = ['.']
    · subst hitself
      rfl
    · rw [if_neg hitself, show (last == ['.']) = false by simpa using hitself]
      rfl
  · rw [if_neg hc, if_neg (by simpa [and_assoc] using hc)]
    rfl

theorem makeDirectoriesFrom_apply {above : List Char} (hn : IsName n)
    (h : aboveAndLast path.toList = (above, n.toList)) (depth : Nat) (mayExist : Bool)
    (t : FileTree) :
    makeDirectoriesFrom (depth + 1) mayExist path t =
      if above ≠ [] ∧ t.exists? (String.ofList above) = false then
        (makeAbove depth mayExist (String.ofList above) >>= fun _ => makeLast mayExist path) t
      else makeLast mayExist path t := by
  have hitself : ¬ n.toList = ['.'] := fun he => hn.ne_itself (String.ext (by simpa using he))
  rw [makeDirectoriesFrom_succ h, if_neg hitself]
  simp only [ne_eq, hn.ne_empty, not_false_eq_true, true_and]

theorem makeLast_state (mayExist : Bool) (path : String) (t : FileTree) :
    (makeLast mayExist path t).2 = (makeDirectory path t).2 := by
  rcases h : makeDirectory path t with ⟨e | _, t'⟩
  · rw [makeLast, handle_of_error _ h]
    split
    · next hs =>
      split at hs <;> cases hs
      rw [bind_of_ok (state_apply t')]
      split <;> rfl
    · rfl
  · rw [makeLast, handle_of_ok _ h]

theorem makeAbove_state (depth : Nat) (mayExist : Bool) (above : String) (t : FileTree) :
    (makeAbove depth mayExist above t).2 = (makeDirectoriesFrom depth mayExist above t).2 := by
  rcases h : makeDirectoriesFrom depth mayExist above t with ⟨e | _, t'⟩
  · rw [makeAbove, handle_of_error _ h]
    cases saysExists e <;> rfl
  · rw [makeAbove, handle_of_ok _ h]

theorem stands_of_makeLast (hp : Spells path.toList (front ++ [n]))
    (hlinks : Along NoLink t (t.start path) (front ++ [n])) {mayExist : Bool} {t' : FileTree}
    (h : makeLast mayExist path t = (.ok (), t')) : Stands t' path (front ++ [n]) := by
  have habove := hlinks.of_prefix (List.prefix_append front [n])
  rcases hm : makeDirectory path t with ⟨e | _, t₁⟩
  · obtain rfl : t = t₁ := by
      rcases makeDirectory_cases hp habove with ⟨e', h'⟩ | ⟨h', -⟩
      · exact congrArg Prod.snd (h'.symm.trans hm)
      · cases h'.symm.trans hm
    rw [makeLast, handle_of_error _ hm] at h
    split at h
    · next hs =>
      split at hs <;> cases hs
      rw [bind_of_ok (state_apply t)] at h
      split at h <;> cases h
      next hd => exact stands_of_isDirectory hp hlinks hd
    · cases h
  · rw [makeLast, handle_of_ok _ hm] at h
    cases h
    exact stands_of_makeDirectory hp habove hm

theorem exists?_root (t : FileTree) : t.exists? (String.ofList ['/']) = true := by
  obtain ⟨follow, hwalk⟩ := walk_eq t true maxLinks
  have hr : refused? (String.ofList ['/']) = none := by decide +kernel
  have hparts : parts (String.ofList ['/']) = ["."] := by decide +kernel
  rw [exists?, find, locate, hr, hwalk, hparts]
  rfl

/-- Making directories only adds them on the way, and when it ends well the last one is there. -/
theorem makeDirectoriesFrom_spec (mayExist : Bool) (depth : Nat) :
    ∀ {path : String} {names : List String} {t : FileTree}, Spells path.toList names →
      Along NoLink t (t.start path) names →
      Grown (t.start path) names t (makeDirectoriesFrom depth mayExist path t).2 ∧
        ∀ t', 0 < depth → makeDirectoriesFrom depth mayExist path t = (.ok (), t') →
          Stands t' path names := by
  induction depth with
  | zero => exact fun _ _ => ⟨refl_of _ _, fun _ h => absurd h (Nat.lt_irrefl 0)⟩
  | succ depth ih =>
    intro path names t hp hlinks
    obtain ⟨front, n, above, rfl, hn, hsplit, habove⟩ := exists_above hp
    -- the last directory is made in a tree that grew above it, or not at all
    have last {t₁ : FileTree} (hgrown : Grown (t.start path) front t t₁) :
        Grown (t.start path) (front ++ [n]) t (makeLast mayExist path t₁).2 ∧
          ∀ t', makeLast mayExist path t₁ = (.ok (), t') → Stands t' path (front ++ [n]) := by
      have hlinks₁ : Along NoLink t₁ (t₁.start path) (front ++ [n]) := by
        rw [start_eq hgrown.cwd_eq]
        exact hgrown.noLink hlinks
      refine ⟨?_, fun t' h => stands_of_makeLast hp hlinks₁ h⟩
      have hstep := makeDirectory_grown hp (hlinks₁.of_prefix (List.prefix_append front [n]))
      rw [start_eq hgrown.cwd_eq] at hstep
      rw [makeLast_state]
      exact trans_of _ (hgrown.mono (List.prefix_append front [n])) hstep
    rw [makeDirectoriesFrom_apply hn hsplit]
    split
    · next hc =>
      obtain ⟨hspells, habs⟩ : Spells above front ∧ isAbsolute above = isAbsolute path.toList := by
        rcases habove with rfl | rfl | h
        · exact absurd rfl hc.1
        · rw [exists?_root] at hc
          cases hc.2
        · exact h
      have hstart : t.start (String.ofList above) = t.start path := by
        rw [start, start, String.toList_ofList, habs]
      have hgrown := (ih (by rwa [String.toList_ofList]) (t := t)
        (hstart ▸ hlinks.of_prefix (List.prefix_append front [n]))).1
      rw [hstart, ← makeAbove_state] at hgrown
      rcases hrun : makeAbove depth mayExist (String.ofList above) t with ⟨e | _, t₁⟩ <;>
        rw [hrun] at hgrown
      · rw [bind_of_error hrun]
        exact ⟨hgrown.mono (List.prefix_append front [n]), fun _ _ h => nomatch h⟩
      · rw [bind_of_ok hrun]
        exact ⟨(last hgrown).1, fun t' _ h => (last hgrown).2 t' h⟩
    · exact ⟨(last (refl_of _ t)).1, fun t' _ h => (last (refl_of _ t)).2 t' h⟩

variable {t' : FileTree}

theorem makeDirectories_grown (hp : Spells path.toList names)
    (hlinks : Along NoLink t (t.start path) names) :
    Grown (t.start path) names t (makeDirectories path t).2 :=
  (makeDirectoriesFrom_spec true (path.length + 1) hp hlinks).1

theorem stands_of_makeDirectories (hp : Spells path.toList names)
    (hlinks : Along NoLink t (t.start path) names) (h : makeDirectories path t = (.ok (), t')) :
    Stands t' path names :=
  (makeDirectoriesFrom_spec true (path.length + 1) hp hlinks).2 t' (Nat.succ_pos _) h

end Making

/-! ### Removing -/

/-- Nothing is at the location and below it, and everything else stayed. -/
structure Cleared (loc : List String) (t t' : FileTree) : Prop where
  cwd_eq : t'.cwd = t.cwd
  get?_eq : ∀ l, t'.get? l = if loc <+: l then none else t.get? l

/-- Nothing is at the end of a path, and only directories are on the way to it. -/
structure Gone (t : FileTree) (path : String) (names : List String) : Prop where
  walked : refused? path = none
  short : Short names
  free : Along IsFree t (t.start path) names
  get?_eq : t.get? (t.start path ++ names) = none

section Removing

variable {t t' : FileTree} {path : String} {names loc : List String}

/-- What is not at a cleared location or below it stands as before. -/
theorem Stands.cleared (h : Stands t path names) (hc : Cleared loc t t')
    (hl : ¬ loc <+: t.start path ++ names) : Stands t' path names := by
  refine ⟨h.walked, h.short, start_eq hc.cwd_eq path ▸ h.directories.imp
    fun front hfront _ he => ?_⟩
  have habove : ¬ loc <+: t.start path ++ front := fun hloc =>
    hl (hloc.trans ((List.prefix_append_right_inj _).mpr hfront))
  rw [hc.get?_eq, if_neg habove]
  exact he

/-- What is at a cleared location or below it is gone. -/
theorem Stands.gone (h : Stands t path names) (hc : Cleared loc t t')
    (hl : loc <+: t.start path ++ names) : Gone t' path names := by
  refine ⟨h.walked, h.short, start_eq hc.cwd_eq path ▸ h.directories.imp
    fun front _ _ he => ?_, ?_⟩
  · rw [hc.get?_eq]
    split
    · exact .inr rfl
    · exact .inl he
  · rw [start_eq hc.cwd_eq path, hc.get?_eq, if_pos hl]

/-- What is gone stays so when another location is cleared. -/
theorem Gone.cleared (h : Gone t path names) (hc : Cleared loc t t') : Gone t' path names := by
  refine ⟨h.walked, h.short, start_eq hc.cwd_eq path ▸ h.free.imp fun front _ _ he => ?_, ?_⟩
  · rw [hc.get?_eq]
    split
    · exact .inr rfl
    · exact he
  · rw [start_eq hc.cwd_eq path, hc.get?_eq, h.get?_eq, ite_self]

theorem Gone.not_directories (h : Gone t path names) (hne : names ≠ []) :
    ¬ Along IsDirectory t (t.start path) names := by
  intro hd
  have hlast : t.get? (t.start path ++ names) = some .directory := hd names List.prefix_rfl hne
  rw [h.get?_eq] at hlast
  cases hlast

theorem Gone.find_eq (h : Gone t path names) (hp : Spells path.toList names) :
    t.find path = .error (.system (.missing path)) := by
  obtain ⟨follow, hwalk⟩ := walk_eq t true maxLinks
  have hrun := walkNames_of_gone true follow hp.isName h.short h.free
    (h.not_directories hp.names_ne_nil) []
  rw [List.append_nil] at hrun
  rw [find, locate, h.walked, hwalk, hp.parts_eq, hrun]
  rfl

theorem Gone.exists?_eq (h : Gone t path names) (hp : Spells path.toList names) :
    t.exists? path = false := by
  rw [exists?, h.find_eq hp]
  rfl

theorem Gone.isDirectory_eq (h : Gone t path names) (hp : Spells path.toList names) :
    t.isDirectory path = false := by
  rw [FileTree.isDirectory, h.find_eq hp]
  rfl

/-- Removing what is gone fails like removing what was never there. -/
theorem unlink_of_gone (hp : Spells path.toList names) (h : Gone t path names) :
    unlink path t = (.error (.fault (.system (.missing path))), t) := by
  obtain ⟨front, n, -, rfl, -⟩ := exists_above hp
  by_cases hd : Along IsDirectory t (t.start path) front
  · rw [unlink, slot_of_directories hp h.walked h.short hd]
    dsimp only
    rw [List.append_assoc, h.get?_eq]
  · obtain ⟨follow, hwalk⟩ := walk_eq t true maxLinks
    have hrun := walkNames_of_gone true follow
      (fun m hm => hp.isName m (by simp [hm])) (fun m hm => h.short m (by simp [hm]))
      (h.free.of_prefix (List.prefix_append front [n])) hd ["."]
    rw [unlink, slot_eq hp h.walked, hwalk, hrun]
    rfl

/-- A standing directory is removed with everything below it. -/
theorem removeTree_of_stands (hp : Spells path.toList names) (h : Stands t path names) :
    ∃ t', removeTree path t = (.ok (), t') ∧ Cleared (t.start path ++ names) t t' := by
  have hloc : t.start path ++ names ≠ [] := by simp [hp.names_ne_nil]
  -- the directories on the way are above the one that is removed
  have habove : Along IsDirectory (t.dropBelow (t.start path ++ names)) (t.start path) names := by
    refine h.directories.imp fun front hfront _ he => ?_
    rw [get?_dropBelow _ hloc, if_neg]
    · exact he
    · rintro ⟨hbelow, hne⟩
      exact hne (by rw [hfront.eq_of_length_le
        ((List.prefix_append_right_inj _).mp hbelow).length_le])
  obtain ⟨front, n, -, rfl, -⟩ := exists_above hp
  have hslot := slot_of_directories (t := t.dropBelow (t.start path ++ (front ++ [n]))) hp h.walked
    h.short (habove.of_prefix (List.prefix_append front [n]))
  have hget := habove _ List.prefix_rfl (by simp)
  refine ⟨(t.dropBelow (t.start path ++ (front ++ [n]))).drop (t.start path ++ (front ++ [n])),
    ?_, rfl, fun l => ?_⟩
  · rw [removeTree, findEntry, h.locate_eq hp]
    dsimp only
    rw [removeDirectory, hslot]
    dsimp only
    rw [show (t.dropBelow _).start path ++ front ++ [n] = t.start path ++ (front ++ [n]) from
      List.append_assoc _ _ _, hget, hasBelow_dropBelow]
    rfl
  · rw [get?_drop hloc, get?_dropBelow _ hloc]
    by_cases heq : l = t.start path ++ (front ++ [n])
    · rw [if_pos heq, heq, if_pos List.prefix_rfl]
    · simp [heq]

end Removing

end PluginHarness.FileTree
