import PluginHarness.Proofs.Files.Tree

/-!
# Walks through links

Where links may be met, the location that a walk comes to cannot be read off the names. What can be
said is how walks hang together. A walk along names and more names goes on where the walk along the
first names ended, with the links that are left to it; and it fails with them.

The other law is about trees that grow. Making directories turns free locations into directories and
does nothing else, whatever the paths were. A walk only sees this where it found nothing, so every
walk that did not end at a missing name goes on to end as it did.

## Main definitions

* `FileTree.IsTree`: whatever is at a location is in a directory.
* `FileTree.Extended`: directories may have been added, and nothing else changed.

## Main results

* `FileTree.walk_append`: a walk along names and more names.
* `FileTree.walk_extended`: a walk that misses nothing is the same in an extended tree.
* `FileTree.locate_extended`, `FileTree.slot_extended`: the same for paths.
-/

namespace PluginHarness.FileTree

open Attempt PluginHarness.Path

/-! ### Trees -/

/-- Whatever is at a location is in a directory. -/
def IsTree (t : FileTree) : Prop :=
  ∀ loc name e, t.get? (loc ++ [name]) = some e → t.get? loc = some .directory

/-- Below what is no directory there is nothing. -/
theorem IsTree.get?_below {t : FileTree} (h : t.IsTree) {more : List String} (hmore : more ≠ []) :
    ∀ {loc : List String}, t.get? loc ≠ some .directory → t.get? (loc ++ more) = none := by
  induction more with
  | nil => exact absurd rfl hmore
  | cons name rest ih =>
    intro loc hloc
    have hnone : t.get? (loc ++ [name]) = none :=
      Option.eq_none_iff_forall_ne_some.mpr fun e he => hloc (h loc name e he)
    by_cases hempty : rest = []
    · rw [hempty]
      exact hnone
    · rw [List.append_cons]
      refine ih hempty fun he => ?_
      rw [hnone] at he
      cases he

/-- It is enough to look at the entries that are listed. -/
theorem isTree_of_entries {t : FileTree}
    (h : ∀ e ∈ t.entries, t.get? e.1.dropLast = some .directory) : t.IsTree := by
  intro loc name e hget
  have hkey : loc ++ [name] ∈ Entries.keys t.entries := by
    by_contra hnone
    simp [get?, Entries.get?_eq_none_of_not_mem hnone] at hget
  obtain ⟨entry, hentry, hname⟩ := List.mem_map.mp hkey
  have hparent := h entry hentry
  rwa [hname, List.dropLast_concat] at hparent

/-! ### Walking on -/

section Walk

variable {t t' : FileTree} (followLast : Bool)

/-- How a walk goes on at a link. -/
def onward (t : FileTree) (followLast : Bool) :
    (links : Nat) → List String → List String → Except WalkFault (List String × Entry)
  | 0 => fun _ _ => .error .linkLoop
  | links + 1 => walk t followLast links

theorem walk_eq_onward (t : FileTree) (links : Nat) :
    walk t followLast links = walkNames t followLast (onward t followLast links) := by
  cases links <;> rfl

/-- Where a walk along more names goes on, given how the walk along the first names ended. -/
def goOn (further : List String → Except WalkFault (List String × Entry)) :
    Except WalkFault (List String × Entry) → Except WalkFault (List String × Entry)
  | .error e => .error e
  | .ok (loc, .directory) => further loc
  | .ok _ => .error .notDirectory

theorem walkNames_append {more : List String} (hmore : more ≠ []) {links : Nat}
    (honward : ∀ here names, ∃ links', onward t followLast links here (names ++ more) =
      goOn (fun loc => walk t followLast links' loc more) (onward t true links here names)) :
    ∀ names here, ∃ links',
      walkNames t followLast (onward t followLast links) here (names ++ more) =
        goOn (fun loc => walk t followLast links' loc more)
          (walkNames t true (onward t true links) here names) := by
  intro names
  induction names with
  | nil =>
    intro here
    refine ⟨links, ?_⟩
    rw [List.nil_append, ← walk_eq_onward]
    rfl
  | cons name rest ih =>
    intro here
    rw [List.cons_append, walkNames, walkNames]
    by_cases hitself : (name == ".") = true
    · rw [if_pos hitself, if_pos hitself]
      exact ih here
    rw [if_neg hitself, if_neg hitself]
    by_cases habove : (name == "..") = true
    · rw [if_pos habove, if_pos habove]
      exact ih here.dropLast
    rw [if_neg habove, if_neg habove]
    by_cases hsize : maxNameBytes < name.utf8ByteSize
    · rw [if_pos hsize, if_pos hsize]
      exact ⟨0, rfl⟩
    rw [if_neg hsize, if_neg hsize]
    dsimp only
    rcases t.get? (here ++ [name]) with _ | _ | content | target
    · exact ⟨0, rfl⟩
    · exact ih (here ++ [name])
    · -- a file ends a walk, so nothing is walked from it
      refine ⟨0, ?_⟩
      have hrest : (rest ++ more).isEmpty = false := by simp [hmore]
      dsimp only
      rw [hrest, if_neg Bool.false_ne_true]
      split <;> rfl
    · have hrest : (rest ++ more).isEmpty = false := by simp [hmore]
      dsimp only
      rw [hrest, Bool.false_and, Bool.not_true, Bool.and_false, ← List.append_assoc]
      exact honward _ _

/-- **A walk along names and more names** goes on where the walk along the first names ended. -/
theorem walk_append {more : List String} (hmore : more ≠ []) (links : Nat) :
    ∀ here names, ∃ links', walk t followLast links here (names ++ more) =
      goOn (fun loc => walk t followLast links' loc more) (walk t true links here names) := by
  -- the number of links that may be followed decreases where one is followed
  induction links with
  | zero =>
    intro here names
    rw [walk_eq_onward, walk_eq_onward]
    refine walkNames_append followLast hmore (fun here names => ?_) names here
    exact ⟨0, rfl⟩
  | succ links ih =>
    intro here names
    rw [walk_eq_onward, walk_eq_onward]
    refine walkNames_append followLast hmore (fun here names => ?_) names here
    exact ih here names

/-! ### Trees that grow -/

/-- Where nothing was there may be a directory; nothing else changed. -/
structure Extended (t t' : FileTree) : Prop where
  cwd_eq : t'.cwd = t.cwd
  get?_eq : ∀ loc, t'.get? loc = t.get? loc ∨
    t.get? loc = none ∧ t'.get? loc = some .directory

instance : IsPreorder FileTree Extended where
  refl t := ⟨rfl, fun _ => .inl rfl⟩
  trans t₁ t₂ t₃ h h' := by
    refine ⟨h'.cwd_eq.trans h.cwd_eq, fun loc => ?_⟩
    rcases h.get?_eq loc with heq | ⟨hnone, hsome⟩ <;>
      rcases h'.get?_eq loc with heq' | ⟨hnone', hsome'⟩
    · exact .inl (heq'.trans heq)
    · exact .inr ⟨heq ▸ hnone', hsome'⟩
    · exact .inr ⟨hnone, heq'.trans hsome⟩
    · rw [hsome] at hnone'
      cases hnone'

theorem Extended.get?_of_some (h : Extended t t') {loc : List String} {e : Entry}
    (he : t.get? loc = some e) : t'.get? loc = some e := by
  rcases h.get?_eq loc with heq | ⟨hnone, -⟩
  · rw [heq, he]
  · rw [he] at hnone
    cases hnone

theorem walkNames_extended (h : Extended t t') {links : Nat}
    (honward : ∀ here names, onward t followLast links here names ≠ .error .missing →
      onward t' followLast links here names = onward t followLast links here names) :
    ∀ names here, walkNames t followLast (onward t followLast links) here names ≠ .error .missing →
      walkNames t' followLast (onward t' followLast links) here names =
        walkNames t followLast (onward t followLast links) here names := by
  intro names
  induction names with
  | nil =>
    intro here _
    rfl
  | cons name rest ih =>
    intro here
    rw [walkNames, walkNames]
    by_cases hitself : (name == ".") = true
    · rw [if_pos hitself, if_pos hitself]
      exact ih here
    rw [if_neg hitself, if_neg hitself]
    by_cases habove : (name == "..") = true
    · rw [if_pos habove, if_pos habove]
      exact ih here.dropLast
    rw [if_neg habove, if_neg habove]
    by_cases hsize : maxNameBytes < name.utf8ByteSize
    · rw [if_pos hsize, if_pos hsize]
      exact fun _ => rfl
    rw [if_neg hsize, if_neg hsize]
    dsimp only
    rcases hget : t.get? (here ++ [name]) with _ | e
    · exact fun hmissing => absurd rfl hmissing
    rw [h.get?_of_some hget]
    cases e with
    | directory => exact ih (here ++ [name])
    | file content => exact fun _ => rfl
    | link target =>
      dsimp only
      split
      · exact fun _ => rfl
      · exact honward _ _

/-- **A walk that misses nothing** is the same in an extended tree. -/
theorem walk_extended (h : Extended t t') (links : Nat) :
    ∀ here names, walk t followLast links here names ≠ .error .missing →
      walk t' followLast links here names = walk t followLast links here names := by
  induction links with
  | zero =>
    intro here names
    rw [walk_eq_onward, walk_eq_onward]
    exact walkNames_extended followLast h (fun _ _ _ => rfl) names here
  | succ links ih =>
    intro here names
    rw [walk_eq_onward, walk_eq_onward]
    refine walkNames_extended followLast h (fun here names => ?_) names here
    exact ih here names

/-! ### Paths -/

/-- The same for what a path leads to. -/
theorem locate_extended (h : Extended t t') {path : String}
    (hne : t.locate followLast path ≠ .error (.system (.missing path))) :
    t'.locate followLast path = t.locate followLast path := by
  rw [locate, locate] at *
  cases hr : refused? path with
  | some f => rfl
  | none =>
    rw [hr] at hne
    dsimp only at hne ⊢
    rw [start_eq h.cwd_eq, walk_extended followLast h]
    intro hmissing
    rw [hmissing] at hne
    exact hne rfl

theorem find_extended (h : Extended t t') {path : String} {found : List String × Entry}
    (hfound : t.find path = .ok found) : t'.find path = .ok found := by
  rw [find, locate_extended true h, ← find, hfound]
  rw [← find, hfound]
  intro hne
  cases hne

theorem isDirectory_extended (h : Extended t t') {path : String}
    (hdir : t.isDirectory path = true) : t'.isDirectory path = true := by
  rcases hfound : t.find path with f | found
  · simp [FileTree.isDirectory, hfound, Except.toOption] at hdir
  · rw [FileTree.isDirectory, find_extended h hfound, ← hfound, ← FileTree.isDirectory]
    exact hdir

/-- The same for the slot of a path. -/
theorem slot_extended (h : Extended t t') {path : String} {found : List String × LastName}
    (hfound : t.slot path = .ok found) : t'.slot path = .ok found := by
  rw [slot] at hfound ⊢
  cases hr : refused? path with
  | some f =>
    rw [hr] at hfound
    cases hfound
  | none =>
    rw [hr] at hfound
    dsimp only at hfound ⊢
    rw [start_eq h.cwd_eq, walk_extended true h]
    · exact hfound
    · intro hmissing
      rw [hmissing] at hfound
      cases hfound

end Walk

end PluginHarness.FileTree
