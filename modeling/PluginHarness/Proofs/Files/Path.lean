import Mathlib.Data.List.Basic
import Mathlib.Data.List.DropRight
import Mathlib.Tactic.Common
import PluginHarness.Files.Change

/-!
# Paths and their names

A path is plain when nothing stands between two of its slashes but names of entries: it has no empty
component and none that is `.` or `..`. Such a path is written in one way from the names that it has,
and it shrinks from its end: what is above it is empty, the root, or another plain path. `Spells`
says this as an induction principle, and the functions that take a path apart follow it.

Any other path has names too, and slashes that mean nothing. What is above its last name has the
other names (`Parted`), and a slash at its end only when there are none.

## Main definitions

* `Path.IsPlain`: no component is empty, `.` or `..`.
* `Path.Spells`: a plain path with its names.
* `Path.Parted`: the last name of any path and what is above it.

## Main results

* `Path.IsPlain.spells`: a plain path spells its names.
* `Path.Spells.parts_eq`: these are the names that are walked.
* `FileTree.exists_above`, `FileTree.aboveAndLast_cases`: what is above a plain path, and above any
  path.
-/

namespace PluginHarness.Path

/-- The name of an entry in a directory. -/
structure IsName (n : String) : Prop where
  ne_empty : n.toList ≠ []
  noSlash : '/' ∉ n.toList
  ne_itself : n ≠ "."
  ne_above : n ≠ ".."

/-- What stands between the slashes of a path; the slash at the front of an absolute path separates
nothing. -/
def components (path : List Char) : List (List Char) :=
  if isAbsolute path then (segments path).tail else segments path

/-- No component of the path is empty, `.` or `..`. -/
def IsPlain (path : String) : Prop :=
  ∀ c ∈ components path.toList, c ≠ [] ∧ c ≠ ['.'] ∧ c ≠ ['.', '.']

instance (path : String) : Decidable (IsPlain path) :=
  inferInstanceAs (Decidable (∀ c ∈ components path.toList, c ≠ [] ∧ c ≠ ['.'] ∧ c ≠ ['.', '.']))

/-- The path has these names, from its start. -/
inductive Spells : List Char → List String → Prop
  | first {n : String} (absolute : Bool) (hn : IsName n) :
      Spells ((if absolute then ['/'] else []) ++ n.toList) [n]
  | beneath {path : List Char} {names : List String} {n : String} (h : Spells path names)
      (hn : IsName n) : Spells (path ++ '/' :: n.toList) (names ++ [n])

/-! ### Segments -/

theorem segments_ne_nil : ∀ path : List Char, segments path ≠ []
  | [] => by simp [segments]
  | c :: rest => by
    rw [segments]
    split
    · simp
    · split <;> simp

theorem segments_cons {c : Char} (hc : c ≠ '/') (rest : List Char) :
    segments (c :: rest) = (segments rest).modifyHead (c :: ·) := by
  rw [segments, if_neg hc]
  cases h : segments rest with
  | nil => exact absurd h (segments_ne_nil rest)
  | cons first others => rfl

theorem segments_of_noSlash {n : List Char} (h : '/' ∉ n) : segments n = [n] := by
  induction n with
  | nil => rfl
  | cons c rest ih =>
    obtain ⟨hc, hrest⟩ := not_or.mp (mt List.mem_cons.mpr h)
    rw [segments_cons (Ne.symm hc), ih hrest]
    rfl

theorem segments_append (more : List Char) :
    ∀ path : List Char, segments (path ++ '/' :: more) = segments path ++ segments more
  | [] => by simp [segments]
  | c :: rest => by
    by_cases hc : c = '/'
    · simp [segments, hc, segments_append more rest]
    · rw [List.cons_append, segments_cons hc, segments_cons hc, segments_append more rest]
      cases hs : segments rest with
      | nil => exact absurd hs (segments_ne_nil rest)
      | cons first others => rfl

theorem length_segments_le (path : List Char) : (segments path).length ≤ path.length + 1 := by
  induction path with
  | nil => exact Nat.le_refl 1
  | cons c rest ih =>
    by_cases hc : c = '/'
    · rw [segments, if_pos hc]
      exact Nat.succ_le_succ ih
    · rw [segments_cons hc, List.length_modifyHead]
      exact Nat.le_succ_of_le ih

/-- There are no more names than slashes around them. -/
theorem length_names_le (path : List Char) : (names path).length ≤ path.length + 1 := by
  rw [names, List.length_map]
  exact (List.length_filter_le _ _).trans (length_segments_le path)

/-- The names before a slash and those behind it. -/
theorem names_append (path more : List Char) :
    names (path ++ '/' :: more) = names path ++ names more := by
  rw [names, segments_append, List.filter_append, List.map_append]
  rfl

theorem names_of_noSlash {n : List Char} (h : '/' ∉ n) (hne : n ≠ []) :
    names n = [String.ofList n] := by
  simp [names, segments_of_noSlash h, hne]

theorem isAbsolute_append {path : List Char} (h : path ≠ []) (more : List Char) :
    isAbsolute (path ++ more) = isAbsolute path := by
  cases path with
  | nil => exact absurd rfl h
  | cons c rest => rfl

theorem components_append {path n : List Char} (hp : path ≠ []) (hn : '/' ∉ n) :
    components (path ++ '/' :: n) = components path ++ [n] := by
  rw [components, components, isAbsolute_append hp, segments_append, segments_of_noSlash hn]
  split
  · rw [List.tail_append_of_ne_nil (segments_ne_nil path)]
  · rfl

/-- A list is without a slash, or something is behind its last slash. -/
theorem lastSlash_cases (path : List Char) :
    '/' ∉ path ∨ ∃ above last, path = above ++ '/' :: last ∧ '/' ∉ last := by
  by_cases h : '/' ∈ path
  · obtain ⟨before, after, hsplit, hbefore⟩ := List.eq_append_cons_of_mem (List.mem_reverse.mpr h)
    refine .inr ⟨after.reverse, before.reverse, ?_, by simpa using hbefore⟩
    rw [← List.reverse_reverse path, hsplit]
    simp
  · exact .inl h

/-- A plain path spells its names. -/
theorem exists_spells (path : List Char)
    (h : ∀ c ∈ components path, c ≠ [] ∧ c ≠ ['.'] ∧ c ≠ ['.', '.']) :
    ∃ names, Spells path names := by
  have isName {n : List Char} (hn : '/' ∉ n) (hc : n ≠ [] ∧ n ≠ ['.'] ∧ n ≠ ['.', '.']) :
      IsName (String.ofList n) :=
    ⟨by simpa using hc.1, by simpa using hn,
      fun he => hc.2.1 (by simpa using congrArg String.toList he),
      fun he => hc.2.2 (by simpa using congrArg String.toList he)⟩
  rcases lastSlash_cases path with hno | ⟨above, last, rfl, hlast⟩
  · have habs : isAbsolute path = false := by
      cases path with
      | nil => rfl
      | cons c rest => simpa [isAbsolute] using fun hc => hno (by simp [hc])
    have hspells := Spells.first false (isName hno (h path (by
      simp [components, habs, segments_of_noSlash hno])))
    exact ⟨_, by simpa using hspells⟩
  · by_cases habove : above = []
    · subst habove
      have hspells := Spells.first true (isName hlast (h last (by
        simp [components, isAbsolute, segments, segments_of_noSlash hlast])))
      exact ⟨_, by simpa using hspells⟩
    · rw [components_append habove hlast, List.forall_mem_append] at h
      obtain ⟨names, hnames⟩ := exists_spells above h.1
      have hspells := hnames.beneath (isName hlast (h.2 last (List.mem_singleton_self last)))
      exact ⟨_, by simpa using hspells⟩
termination_by path.length

namespace Spells

variable {path : List Char} {names : List String}

theorem isName (h : Spells path names) : ∀ n ∈ names, IsName n := by
  induction h with
  | first _ hn => simpa using hn
  | beneath _ hn ih => exact List.forall_mem_append.mpr ⟨ih, List.forall_mem_singleton.mpr hn⟩

theorem names_ne_nil (h : Spells path names) : names ≠ [] := by
  cases h <;> simp

theorem names_eq (h : Spells path names) : Path.names path = names := by
  induction h with
  | @first n absolute hn =>
    cases absolute <;> simp [Path.names, segments, segments_of_noSlash hn.noSlash, hn.ne_empty]
  | @beneath path names n h hn ih =>
    rw [names_append, ih, names_of_noSlash hn.noSlash hn.ne_empty, String.ofList_toList]

/-- A plain path does not end in a slash. -/
theorem exists_last (h : Spells path names) : ∃ front c, path = front ++ [c] ∧ c ≠ '/' := by
  have append (front : List Char) {n : String} (hn : IsName n) :
      ∃ front' c, front ++ n.toList = front' ++ [c] ∧ c ≠ '/' := by
    obtain ⟨init, c, hc⟩ := List.eq_nil_or_concat n.toList |>.resolve_left hn.ne_empty
    refine ⟨front ++ init, c, by simp [hc], fun he => hn.noSlash ?_⟩
    simp [hc, he]
  cases h with
  | first _ hn => exact append _ hn
  | @beneath path _ n _ hn =>
    obtain ⟨front, c, hfront, hc⟩ := append (path ++ ['/']) hn
    exact ⟨front, c, by simpa using hfront, hc⟩

theorem ne_nil (h : Spells path names) : path ≠ [] := by
  obtain ⟨front, c, rfl, -⟩ := h.exists_last
  simp

end Spells

/-- The names that are walked are those of the path. -/
theorem Spells.parts_eq {path : String} {names : List String} (h : Spells path.toList names) :
    parts path = names := by
  obtain ⟨front, c, hpath, hc⟩ := h.exists_last
  rw [parts, h.names_eq]
  simp [hpath, hc]

theorem IsPlain.spells {path : String} (h : IsPlain path) :
    Spells path.toList (names path.toList) := by
  obtain ⟨names, hnames⟩ := exists_spells path.toList h
  rw [hnames.names_eq]
  exact hnames

/-! ### Above a path -/

/-- What is behind a slash is taken as the last part. -/
theorem takeWhile_reverse {n : List Char} (h : '/' ∉ n) (more : List Char) :
    (n.reverse ++ more).takeWhile (· != '/') = n.reverse ++ more.takeWhile (· != '/') := by
  refine List.takeWhile_append_of_pos fun c hc => ?_
  rw [bne_iff_ne]
  rintro rfl
  exact h (List.mem_reverse.mp hc)

theorem splitAtLastSlash_append {n : List Char} (h : '/' ∉ n) (path : List Char) :
    splitAtLastSlash (path ++ '/' :: n) = (path ++ ['/'], n) := by
  have htail : ((path ++ '/' :: n).reverse.takeWhile (· != '/')).reverse = n := by
    rw [List.reverse_append, List.reverse_cons, List.append_assoc, takeWhile_reverse h]
    simp
  have hlength : (path ++ '/' :: n).length - n.length = (path ++ ['/']).length := by
    simp only [List.length_append, List.length_cons, List.length_nil]
    omega
  rw [splitAtLastSlash, htail, hlength, List.append_cons path '/' n, List.take_left]

theorem splitAtLastSlash_of_noSlash {n : List Char} (h : '/' ∉ n) :
    splitAtLastSlash n = ([], n) := by
  have htail : (n.reverse.takeWhile (· != '/')).reverse = n := by
    rw [← List.append_nil n.reverse, takeWhile_reverse h]
    simp
  rw [splitAtLastSlash, htail]
  simp

/-- Above the last name of a path there is the path of the other names. -/
theorem Spells.splitLast_eq {path : List Char} {names : List String} (h : Spells path names)
    {n : List Char} (hn : '/' ∉ n) : splitLast (path ++ '/' :: n) = (path, n) := by
  obtain ⟨front, c, rfl, hc⟩ := h.exists_last
  rw [splitLast, splitAtLastSlash_append hn]
  simp [hc]

/-! ### Above any path -/

/-- Nothing but slashes. -/
def IsSlashes (path : List Char) : Prop := ∀ c ∈ path, c = '/'

theorem names_isSlashes_append {slashes : List Char} (h : IsSlashes slashes) (more : List Char) :
    names (slashes ++ more) = names more := by
  induction slashes with
  | nil => rfl
  | cons c rest ih =>
    obtain rfl : c = '/' := h c (.head rest)
    rw [← ih fun c' hc' => h c' (.tail '/' hc')]
    exact names_append [] (rest ++ more)

theorem names_append_isSlashes {slashes : List Char} (h : IsSlashes slashes) (path : List Char) :
    names (path ++ slashes) = names path := by
  cases slashes with
  | nil => rw [List.append_nil]
  | cons c rest =>
    obtain rfl : c = '/' := h c (.head rest)
    have hrest := names_isSlashes_append (fun c' hc' => h c' (.tail '/' hc')) []
    rw [List.append_nil] at hrest
    rw [names_append, hrest]
    exact List.append_nil _

/-- What is above the last part of a path: slashes, or what ends in a name. -/
inductive IsAbove : (path above last : List Char) → Prop
  | slashes {above last : List Char} (h : IsSlashes above) (hlast : '/' ∉ last) :
      IsAbove (above ++ last) above last
  | name (front : List Char) {c : Char} {slashes last : List Char} (hc : c ≠ '/')
      (h : IsSlashes slashes) (hlast : '/' ∉ last) :
      IsAbove (front ++ [c] ++ (slashes ++ '/' :: last)) (front ++ [c]) last

theorem isAbove_splitLast (path : List Char) :
    IsAbove path (splitLast path).1 (splitLast path).2 := by
  rcases lastSlash_cases path with hno | ⟨before, last, rfl, hlast⟩
  · have hsplit : splitLast path = ([], path) := by
      rw [splitLast, splitAtLastSlash_of_noSlash hno]
      rfl
    rw [hsplit]
    show IsAbove ([] ++ path) [] path
    exact .slashes (List.forall_mem_nil _) hno
  · rw [splitLast, splitAtLastSlash_append hlast]
    dsimp only
    have hbare : ((before ++ ['/']).reverse.dropWhile (· == '/')).reverse =
        before.rdropWhile (· == '/') := List.rdropWhile_concat_pos _ _ _ rfl
    rw [hbare]
    rcases List.eq_nil_or_concat (before.rdropWhile (· == '/')) with hnil | ⟨front, c, hconcat⟩
    · rw [hnil, List.append_cons]
      refine .slashes (fun c hc => ?_) hlast
      rcases List.mem_append.mp hc with hc | hc
      · simpa using List.rdropWhile_eq_nil_iff.mp hnil c hc
      · simpa using hc
    · have hc := List.rdropWhile_last_not (· == '/') before (by simp [hconcat])
      have happend := List.rdropWhile_append_rtakeWhile (p := (· == '/')) (l := before)
      simp only [hconcat, List.concat_eq_append] at hc happend ⊢
      conv => arg 1; rw [← happend]
      rw [List.append_assoc, if_neg (by simp)]
      refine .name front (by simpa using hc) (fun c' hc' => ?_) hlast
      simpa using List.mem_rtakeWhile_imp hc'

namespace IsAbove

variable {path above last : List Char}

theorem noSlash (h : IsAbove path above last) : '/' ∉ last := by
  cases h <;> assumption

/-- Before a path there is what is above it. -/
theorem isPrefix (h : IsAbove path above last) : above <+: path := by
  cases h <;> exact List.prefix_append _ _

theorem isAbsolute_eq (h : IsAbove path above last) : isAbsolute above = isAbsolute path := by
  cases h with
  | @slashes above last h hlast =>
    cases above with
    | cons c rest => rfl
    | nil =>
      cases last with
      | nil => rfl
      | cons c rest =>
        have hc : ¬ c = '/' := fun hc => hlast (by simp [hc])
        simp [isAbsolute, hc]
  | name front => exact (isAbsolute_append (by simp) _).symm

theorem names_eq (h : IsAbove path above last) : names path = names above ++ names last := by
  cases h with
  | slashes h =>
    have habove := names_append_isSlashes h []
    rw [List.nil_append] at habove
    rw [names_isSlashes_append h, habove]
    rfl
  | name front hc h =>
    rw [← List.append_assoc, names_append, names_append_isSlashes h]

/-- A slash is at the end only where there is no name. -/
theorem names_eq_nil (h : IsAbove path above last) (hslash : above.getLast? = some '/') :
    names above = [] := by
  cases h with
  | slashes h => exact names_append_isSlashes h []
  | name front hc =>
    rw [List.getLast?_concat] at hslash
    exact absurd (Option.some.inj hslash) hc

/-- What is above a path and has a name ends at one of its slashes. -/
theorem exists_rest (h : IsAbove path above last) (hne : names above ≠ []) :
    ∃ rest, path = above ++ '/' :: rest := by
  cases h with
  | slashes h => exact absurd (names_append_isSlashes h []) hne
  | @name front c slashes last hc h =>
    cases slashes with
    | nil => exact ⟨last, rfl⟩
    | cons c' rest =>
      obtain rfl : c' = '/' := h c' (.head rest)
      exact ⟨rest ++ '/' :: last, rfl⟩

end IsAbove

/-- The last name of a path and what is above it; slashes at the end are not looked at. -/
structure Parted (path above last : List Char) : Prop where
  noSlash : '/' ∉ last
  names_eq : names path = names above ++ [String.ofList last]
  isAbsolute_eq : isAbsolute above = isAbsolute path
  isPrefix : above <+: path
  /-- A slash is at the end only where there is no name. -/
  names_eq_nil : above.getLast? = some '/' → names above = []
  /-- What is above a path and has a name ends at one of its slashes. -/
  exists_rest : names above ≠ [] → ∃ rest, path = above ++ '/' :: rest

theorem IsAbove.parted {path above last slashes : List Char} (h : IsAbove path above last)
    (hne : last ≠ []) (hslashes : IsSlashes slashes) : Parted (path ++ slashes) above last := by
  have hnames : names path = names above ++ [String.ofList last] := by
    rw [h.names_eq, names_of_noSlash h.noSlash hne]
  have hpath : path ≠ [] := by
    rintro rfl
    exact absurd hnames.symm (by simp [names, segments])
  constructor
  · exact h.noSlash
  · rw [names_append_isSlashes hslashes, hnames]
  · rw [h.isAbsolute_eq, isAbsolute_append hpath]
  · exact h.isPrefix.trans (List.prefix_append path slashes)
  · exact h.names_eq_nil
  · intro habove
    obtain ⟨rest, hrest⟩ := h.exists_rest habove
    exact ⟨rest ++ slashes, by rw [hrest, List.append_assoc, List.cons_append]⟩

/-- A path that ends in a slash is what is above it, and slashes. -/
theorem IsAbove.exists_slashes {path above : List Char} (h : IsAbove path above []) :
    ∃ slashes, IsSlashes slashes ∧ path = above ++ slashes := by
  cases h with
  | slashes => exact ⟨[], List.forall_mem_nil _, rfl⟩
  | @name front c slashes _ hc h =>
    exact ⟨slashes ++ ['/'], List.forall_mem_append.mpr ⟨h, by simp⟩, rfl⟩

end PluginHarness.Path

namespace PluginHarness.FileTree

open PluginHarness.Path

/-- Above a path of one name there is its start. -/
theorem aboveAndLast_first (absolute : Bool) {n : String} (hn : IsName n) :
    aboveAndLast ((if absolute then ['/'] else []) ++ n.toList) =
      (if absolute then ['/'] else [], n.toList) := by
  cases absolute
  · simp [aboveAndLast, splitLast, splitAtLastSlash_of_noSlash hn.noSlash, hn.ne_empty]
  · have hsplit := splitAtLastSlash_append hn.noSlash []
    simp only [List.nil_append] at hsplit
    simp [aboveAndLast, splitLast, hsplit, hn.ne_empty]

/-- Above a path there is the path of its other names. -/
theorem aboveAndLast_beneath {path : List Char} {names : List String} (h : Spells path names)
    {n : String} (hn : IsName n) :
    aboveAndLast (path ++ '/' :: n.toList) = (path, n.toList) := by
  rw [aboveAndLast, h.splitLast_eq hn.noSlash]
  simp [hn.ne_empty]

/-- Above a plain path there is nothing, the root, or the plain path of its other names. -/
theorem exists_above {path : List Char} {names : List String} (h : Spells path names) :
    ∃ front n above, names = front ++ [n] ∧ IsName n ∧ aboveAndLast path = (above, n.toList) ∧
      (above = [] ∨ above = ['/'] ∨
        Spells above front ∧ isAbsolute above = isAbsolute path) := by
  cases h with
  | @first n absolute hn =>
    refine ⟨[], n, _, rfl, hn, aboveAndLast_first absolute hn, ?_⟩
    cases absolute
    · exact .inl rfl
    · exact .inr (.inl rfl)
  | @beneath above front n h hn =>
    exact ⟨front, n, above, rfl, hn, aboveAndLast_beneath h hn,
      .inr (.inr ⟨h, (isAbsolute_append h.ne_nil _).symm⟩)⟩

/-- A path has no name, or it has a last one. -/
theorem aboveAndLast_cases {path above last : List Char} (h : aboveAndLast path = (above, last)) :
    last = [] ∧ names path = [] ∨ last ≠ [] ∧ Parted path above last := by
  have hsplit := isAbove_splitLast path
  rw [aboveAndLast] at h
  rcases hfront : splitLast path with ⟨front, last'⟩
  rw [hfront] at h hsplit
  dsimp only at h hsplit
  split at h
  · next hempty =>
    obtain rfl := List.isEmpty_iff.mp hempty
    obtain ⟨slashes, hslashes, hpath⟩ := hsplit.exists_slashes
    have habove := isAbove_splitLast front
    rw [h] at habove
    by_cases hlast : last = []
    · subst hlast
      refine .inl ⟨rfl, ?_⟩
      rw [hpath, names_append_isSlashes hslashes]
      -- the slashes at the end are gone, unless there is nothing else
      cases habove with
      | slashes hall =>
        rw [names_isSlashes_append hall]
        rfl
      | @name front c slashes =>
        refine hsplit.names_eq_nil ?_
        show (front ++ [c] ++ (slashes ++ ['/'])).getLast? = some '/'
        rw [← List.append_assoc, List.getLast?_concat]
    · rw [hpath]
      exact .inr ⟨hlast, habove.parted hlast hslashes⟩
  · next hlast =>
    cases h
    have hne : last ≠ [] := by simpa using hlast
    have hparted := hsplit.parted hne (List.forall_mem_nil _)
    rw [List.append_nil] at hparted
    exact .inr ⟨hne, hparted⟩

end PluginHarness.FileTree
