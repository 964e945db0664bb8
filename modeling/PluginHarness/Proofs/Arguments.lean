import Mathlib.Data.List.Forall2
import PluginHarness.Location.Arguments
import PluginHarness.Proofs.Text.Words

/-!
# A path stays in its place

What a command line becomes for a path is settled before the path is looked at. The words of the
line are templates, and a path fills them without being read: it is one argument, or it stands in
an argument where the template has a placeholder. Nothing in a path is split, unquoted or filled
again, also where the path itself has a placeholder in it.

What filling means is said without the function that does it. A word is cut into the pieces between
its placeholders (`IsCut`), and a filled word is these pieces with the path between them. No
placeholder begins inside another one. So a word is cut in one way only, and reading from left to
right finds it.

## Where no placeholder is filled

A line that names a file, and a line of a single word, is the program itself. The path follows as
its one argument, and a placeholder in the program stays what it is (`placeholder_stays`).

## Main definitions

* `Argument.IsCut`: the pieces between the placeholders of a word.
* `Argument.Filled`: a word with the path in place of each placeholder.
* `IsProgram`: the line is this program; `quotedLine`: the line of these words.

## Main results

* `Argument.filled_iff`: filling from left to right is filling every placeholder.
* `path_stays_whole`: how a path enters the arguments of a command line.
* `quoted_words_come_back`: the arguments of a line of quoted words.
-/

namespace PluginHarness

namespace Argument

/-- What stands for the path in a word. -/
def placeholder : List Char := ['\x7b', 'p', 'a', 't', 'h', '\x7d']

variable {path word rest : List Char}

/-! ### Reading from left to right -/

theorem fillPlaceholder_placeholder (path rest : List Char) :
    fillPlaceholder path (placeholder ++ rest) = path ++ fillPlaceholder path rest := rfl

theorem fillPlaceholder_cons {c : Char} (h : ¬ placeholder <+: c :: rest) :
    fillPlaceholder path (c :: rest) = c :: fillPlaceholder path rest := by
  refine fillPlaceholder.eq_2 path c rest fun tail hc hrest => h ⟨tail, ?_⟩
  rw [hc, hrest]
  rfl

theorem hasPlaceholder_cons {c : Char} (h : ¬ placeholder <+: c :: rest) :
    hasPlaceholder (c :: rest) = hasPlaceholder rest := by
  refine hasPlaceholder.eq_2 c rest fun tail hc hrest => h ⟨tail, ?_⟩
  rw [hc, hrest]
  rfl

/-- Looking from left to right finds a placeholder wherever it is. -/
theorem hasPlaceholder_iff : hasPlaceholder word = true ↔ placeholder <:+: word := by
  induction word with
  | nil => decide
  | cons c rest ih =>
    rw [List.infix_cons_iff]
    by_cases h : placeholder <+: c :: rest
    · obtain ⟨tail, htail⟩ := h
      rw [← htail]
      exact ⟨fun _ => .inl (List.prefix_append placeholder tail), fun _ => rfl⟩
    · rw [hasPlaceholder_cons h, ih]
      simp only [h, false_or]

/-! ### Pieces -/

/-- The word is these pieces with a placeholder between each two, and there is none inside a
piece. -/
structure IsCut (word : List Char) (pieces : List (List Char)) : Prop where
  joined : placeholder.intercalate pieces = word
  clean : ∀ piece ∈ pieces, ¬ placeholder <:+: piece

/-- The word with the path in place of each placeholder. -/
def Filled (path word shown : List Char) : Prop :=
  ∃ pieces, IsCut word pieces ∧ shown = path.intercalate pieces

/-- The first character of a placeholder is nowhere else in it. -/
theorem placeholder_ne_first {i : Nat} (h : i < placeholder.length) (hi : i ≠ 0) :
    placeholder[i] ≠ '\x7b' := by
  have hall : ∀ j : Fin 6, j.val ≠ 0 → placeholder[j.val] ≠ '\x7b' := by decide
  exact hall ⟨i, h⟩ hi

/-- No placeholder begins in a piece and ends in the placeholder behind it. -/
theorem not_prefix_of_clean {piece : List Char} (hne : piece ≠ [])
    (h : ¬ placeholder <:+: piece) (rest : List Char) :
    ¬ placeholder <+: piece ++ (placeholder ++ rest) := by
  intro hbegins
  by_cases hlen : placeholder.length ≤ piece.length
  · exact h (List.prefix_of_prefix_length_le hbegins (List.prefix_append _ _) hlen).isInfix
  · have hlt : piece.length < placeholder.length := Nat.lt_of_not_le hlen
    have hfirst : placeholder[piece.length] = '\x7b' := by
      rw [hbegins.getElem hlt, List.getElem_append_right (Nat.le_refl _)]
      simp [placeholder]
    exact placeholder_ne_first hlt (fun h0 => hne (List.length_eq_zero_iff.mp h0)) hfirst

theorem not_infix_of_cons {c : Char} {piece : List Char} (h : ¬ placeholder <:+: c :: piece) :
    ¬ placeholder <:+: piece :=
  fun hinfix => h (List.infix_cons_iff.mpr (.inr hinfix))

theorem fillPlaceholder_of_clean (path : List Char) {piece : List Char}
    (h : ¬ placeholder <:+: piece) : fillPlaceholder path piece = piece := by
  induction piece with
  | nil => rfl
  | cons c piece ih =>
    rw [fillPlaceholder_cons fun hbegins => h hbegins.isInfix, ih (not_infix_of_cons h)]

theorem fillPlaceholder_append (path : List Char) {piece : List Char}
    (h : ¬ placeholder <:+: piece) (rest : List Char) :
    fillPlaceholder path (piece ++ (placeholder ++ rest)) =
      piece ++ (path ++ fillPlaceholder path rest) := by
  induction piece with
  | nil => exact fillPlaceholder_placeholder path rest
  | cons c piece ih =>
    have hbegins := not_prefix_of_clean (List.cons_ne_nil c piece) h rest
    rw [List.cons_append] at hbegins ⊢
    rw [fillPlaceholder_cons hbegins, ih (not_infix_of_cons h), List.cons_append]

/-- Reading from left to right puts the path between the pieces. -/
theorem IsCut.fill {pieces : List (List Char)} (h : IsCut word pieces) (path : List Char) :
    fillPlaceholder path word = path.intercalate pieces := by
  obtain ⟨rfl, hclean⟩ := h
  induction pieces with
  | nil => rfl
  | cons piece pieces ih =>
    obtain ⟨hpiece, hpieces⟩ := List.forall_mem_cons.mp hclean
    cases pieces with
    | nil =>
      rw [List.intercalate_singleton, List.intercalate_singleton,
        fillPlaceholder_of_clean path hpiece]
    | cons next pieces =>
      rw [List.intercalate_cons_cons, List.intercalate_cons_cons, List.append_assoc,
        fillPlaceholder_append path hpiece, ih hpieces, List.append_assoc]

theorem prefix_intercalate (sep first : List Char) (more : List (List Char)) :
    first <+: sep.intercalate (first :: more) := by
  cases more with
  | nil => simp only [List.intercalate_singleton, List.prefix_rfl]
  | cons next more =>
    rw [List.intercalate_cons_cons, List.append_assoc]
    exact List.prefix_append _ _

/-- Every word can be cut. -/
theorem exists_isCut (word : List Char) : ∃ first more, IsCut word (first :: more) := by
  -- the cases are those of reading from left to right
  induction word using fillPlaceholder.induct with
  | case1 rest ih =>
    obtain ⟨first, more, hjoined, hclean⟩ := ih
    refine ⟨[], first :: more, ?_, List.forall_mem_cons.mpr ⟨by decide, hclean⟩⟩
    rw [List.intercalate_cons_cons, hjoined]
    rfl
  | case2 c rest hne ih =>
    obtain ⟨first, more, hjoined, hclean⟩ := ih
    obtain ⟨hfirst, hmore⟩ := List.forall_mem_cons.mp hclean
    have hbegins : ¬ placeholder <+: c :: rest := by
      rintro ⟨tail, htail⟩
      exact hne tail (List.cons.inj htail).1.symm (List.cons.inj htail).2.symm
    refine ⟨c :: first, more, ?_, List.forall_mem_cons.mpr ⟨fun hinfix => ?_, hmore⟩⟩
    · rw [← hjoined]
      cases more <;> simp [List.intercalate_singleton, List.intercalate_cons_cons]
    · refine (List.infix_cons_iff.mp hinfix).elim (fun h => hbegins (h.trans ?_)) hfirst
      rw [← hjoined]
      exact (List.prefix_cons_inj c).mpr (prefix_intercalate placeholder first more)
  | case3 => exact ⟨[], [], rfl, List.forall_mem_singleton.mpr (by decide)⟩

/-- A path can be seen in a word that had a placeholder. -/
theorem infix_fillPlaceholder (path : List Char) {word : List Char} (h : placeholder <:+: word) :
    path <:+: fillPlaceholder path word := by
  induction word with
  | nil => exact absurd h (by decide)
  | cons c rest ih =>
    by_cases hbegins : placeholder <+: c :: rest
    · obtain ⟨tail, htail⟩ := hbegins
      rw [← htail, fillPlaceholder_placeholder]
      exact (List.prefix_append path _).isInfix
    · rw [fillPlaceholder_cons hbegins]
      exact (ih ((List.infix_cons_iff.mp h).resolve_left hbegins)).trans
        (List.suffix_cons c _).isInfix

/-- **Filling from left to right is filling every placeholder.** -/
theorem filled_iff {path word shown : List Char} :
    Filled path word shown ↔ shown = fillPlaceholder path word := by
  constructor
  · rintro ⟨pieces, hcut, rfl⟩
    exact (hcut.fill path).symm
  · rintro rfl
    obtain ⟨first, more, hcut⟩ := exists_isCut word
    exact ⟨first :: more, hcut, hcut.fill path⟩

end Argument

open Argument

/-! ### Command lines -/

variable {t : FileTree} {line : String}

/-- The line is this program: it names a file, or it is a single word. -/
def IsProgram (t : FileTree) (line program : String) : Prop :=
  t.isFile line = true ∧ program = line ∨
    t.isFile line = false ∧ Text.splitWords line.toList = .ok [program.toList]

/-- The line is these words: it names no file, and it is split into them. -/
def IsWords (t : FileTree) (line : String) (words : List String) : Prop :=
  t.isFile line = false ∧ Text.splitWords line.toList = .ok (words.map String.toList)

/-- Several words are filled, each for itself. One without a placeholder is filled as it is. -/
theorem argumentsOfWords_of_two_le {words : List (List Char)} (h : 2 ≤ words.length) :
    ∃ args, argumentsOfWords words = .ok args ∧
      ∀ path, args.map (Argument.fill path) = words.map (fillPlaceholder path) := by
  match words, h with
  | first :: second :: more, _ =>
    by_cases hany : (first :: second :: more).any hasPlaceholder = true
    · exact ⟨_, if_pos hany, fun path => List.map_map⟩
    · refine ⟨_, if_neg hany, fun path => ?_⟩
      rw [List.map_map]
      refine List.map_congr_left fun word hword => (fillPlaceholder_of_clean path ?_).symm
      exact fun hinfix => hany (List.any_eq_true.mpr ⟨word, hword, hasPlaceholder_iff.mpr hinfix⟩)

theorem commandArguments_of_split (h : t.isFile line = false) {words : List (List Char)}
    (hwords : Text.splitWords line.toList = .ok words) (path : String) :
    commandArguments t line path = (argumentsOfWords words).map fun args =>
      args.map fun a => String.ofList (a.fill path.toList) := by
  rw [commandArguments, argumentsOf, if_neg (by simp [h]), hwords]

/-- A program gets the path as its one argument. -/
theorem commandArguments_of_program {program : String} (h : IsProgram t line program)
    (path : String) : commandArguments t line path = .ok [program, path] := by
  have hshown : [Argument.literal program.toList, .path].map
      (fun a => String.ofList (a.fill path.toList)) = [program, path] := by
    simp only [List.map_cons, List.map_nil, Argument.fill, String.ofList_toList]
  rcases h with ⟨hfile, rfl⟩ | ⟨hfile, hword⟩
  · rw [commandArguments, argumentsOf, if_pos hfile, Except.map, hshown]
  · rw [commandArguments_of_split hfile hword, argumentsOfWords, Except.map, hshown]

/-- Several words are the arguments, with the path in place of each placeholder. -/
theorem commandArguments_of_words {words : List String} (h : IsWords t line words)
    (hlen : 2 ≤ words.length) (path : String) : ∃ argv, commandArguments t line path = .ok argv ∧
      List.Forall₂ (fun word shown => Filled path.toList word.toList shown.toList) words argv := by
  obtain ⟨args, hargs, hfill⟩ : ∃ args, argumentsOfWords (words.map String.toList) = .ok args ∧
      ∀ path, args.map (Argument.fill path) =
        (words.map String.toList).map (fillPlaceholder path) :=
    argumentsOfWords_of_two_le (by rwa [List.length_map])
  have hargv : commandArguments t line path =
      .ok ((args.map (Argument.fill path.toList)).map String.ofList) := by
    rw [commandArguments_of_split h.1 h.2, hargs, Except.map, List.map_map]
    rfl
  refine ⟨_, hargv, ?_⟩
  rw [hfill, List.map_map, List.map_map, List.forall₂_map_right_iff, List.forall₂_same]
  exact fun word _ => filled_iff.mpr String.toList_ofList

/-- A line that cannot be split, or has no words in it, has no arguments for any path. -/
theorem commandArguments_of_unsplit (h : t.isFile line = false)
    (hsplit : ∀ words, Text.splitWords line.toList = .ok words → words = []) :
    ∃ f, ∀ path, commandArguments t line path = .error f := by
  rcases hwords : Text.splitWords line.toList with f | words
  · refine ⟨.split f, fun path => ?_⟩
    rw [commandArguments, argumentsOf, if_neg (by simp [h]), hwords]
    rfl
  · obtain rfl := hsplit words hwords
    refine ⟨.blankCommand, fun path => ?_⟩
    rw [commandArguments_of_split h hwords]
    rfl

/-- A line is a program, or it is several words, or it has no arguments. -/
theorem commandArguments_cases (t : FileTree) (line : String) :
    (∃ program, IsProgram t line program) ∨
      (∃ words, IsWords t line words ∧ 2 ≤ words.length) ∨
      ∃ f, ∀ path, commandArguments t line path = .error f := by
  by_cases hfile : t.isFile line = true
  · exact .inl ⟨line, .inl ⟨hfile, rfl⟩⟩
  rw [Bool.not_eq_true] at hfile
  have hunsplit := commandArguments_of_unsplit hfile
  rcases hsplit : Text.splitWords line.toList with f | words
  · exact .inr (.inr (hunsplit fun words hwords => nomatch hsplit.symm.trans hwords))
  · match words with
    | [] => exact .inr (.inr (hunsplit fun words hwords => by cases hsplit.symm.trans hwords; rfl))
    | [word] => exact .inl ⟨String.ofList word, .inr ⟨hfile, by rw [hsplit, String.toList_ofList]⟩⟩
    | first :: second :: more =>
      refine .inr (.inl ⟨(first :: second :: more).map String.ofList, ⟨hfile, ?_⟩, by simp⟩)
      have hback : ((first :: second :: more).map String.ofList).map String.toList =
          first :: second :: more := by
        simp [Function.comp_def]
      rw [hsplit, hback]

/-! ### The main results -/

/-- **A path stays in its place.** For any two paths, a command line fails for both or gives as many
arguments for both. It fails in the same way for every path; or it is a program, which gets the path
as its one argument; or it is several words, and the arguments are these with the path in place of
each placeholder. The program and the words are settled by the line and the files. -/
theorem path_stays_whole (t : FileTree) (line : String) :
    (∀ p q, (∃ f, commandArguments t line p = .error f ∧ commandArguments t line q = .error f) ∨
      ∃ argv argv', commandArguments t line p = .ok argv ∧
        commandArguments t line q = .ok argv' ∧ argv.length = argv'.length) ∧
    ((∃ f, ∀ path, commandArguments t line path = .error f) ∨
      (∃ program, IsProgram t line program ∧
        ∀ path, commandArguments t line path = .ok [program, path]) ∨
      ∃ words, IsWords t line words ∧ 2 ≤ words.length ∧
        ∀ path, ∃ argv, commandArguments t line path = .ok argv ∧ List.Forall₂
          (fun word shown => Filled path.toList word.toList shown.toList) words argv) := by
  rcases commandArguments_cases t line with ⟨program, h⟩ | ⟨words, h, hlen⟩ | ⟨f, hf⟩
  · have hargv := commandArguments_of_program h
    exact ⟨fun p q => .inr ⟨_, _, hargv p, hargv q, rfl⟩, .inr (.inl ⟨program, h, hargv⟩)⟩
  · have hargv := commandArguments_of_words h hlen
    refine ⟨fun p q => .inr ?_, .inr (.inr ⟨words, h, hlen, hargv⟩)⟩
    obtain ⟨argv, hp, hfilled⟩ := hargv p
    obtain ⟨argv', hq, hfilled'⟩ := hargv q
    exact ⟨argv, argv', hp, hq, hfilled.length_eq.symm.trans hfilled'.length_eq⟩
  · exact ⟨fun p q => .inl ⟨f, hf p, hf q⟩, .inl ⟨f, hf⟩⟩

/-- A placeholder in a program is not filled: no templates give the arguments of this line for all
paths, if every argument is the path or a template with the path in it. -/
theorem placeholder_stays :
    ¬ ∃ templates : List (List Char), ∀ path : String, ∃ argv,
      commandArguments ⟨[], []⟩ "\x7bpath\x7d" path = .ok argv ∧ List.Forall₂ (fun word shown =>
        shown = path ∨ Filled path.toList word shown.toList) templates argv := by
  rintro ⟨templates, h⟩
  have hprogram : IsProgram ⟨[], []⟩ "\x7bpath\x7d" "\x7bpath\x7d" :=
    .inr ⟨by decide +kernel, by decide +kernel⟩
  obtain ⟨argv, hok, hfilled⟩ := h "x"
  cases (commandArguments_of_program hprogram "x").symm.trans hok
  obtain ⟨word, -, hfirst, -⟩ := List.forall₂_cons_right_iff.mp hfilled
  obtain hpath | hword := hfirst
  · exact absurd hpath (by decide)
  · have hshown : placeholder = fillPlaceholder ['x'] word := filled_iff.mp hword
    by_cases hinfix : placeholder <:+: word
    · -- the path would be seen in the program
      have hx := infix_fillPlaceholder ['x'] hinfix
      rw [← hshown] at hx
      exact absurd hx (by decide)
    · rw [fillPlaceholder_of_clean _ hinfix] at hshown
      exact hinfix (hshown ▸ List.infix_rfl)

/-- The line of these words: each between single quotes, and single spaces between them. -/
def quotedLine (words : List String) : String :=
  String.ofList (Text.quoteWords (words.map String.toList))

theorem splitWords_quotedLine (words : List String) :
    Text.splitWords (quotedLine words).toList = .ok (words.map String.toList) := by
  rw [quotedLine, String.toList_ofList, Text.splitWords_quoteWords]

/-- **Quoted words come back.** Where no file has the name of the line, a line of no words is
refused, a single word gets the path as its one argument, and several words are the arguments with
the path in place of each placeholder. -/
theorem quoted_words_come_back {t : FileTree} {words : List String}
    (h : t.isFile (quotedLine words) = false) (path : String) :
    (words = [] → commandArguments t (quotedLine words) path = .error .blankCommand) ∧
    (∀ word, words = [word] →
      commandArguments t (quotedLine words) path = .ok [word, path]) ∧
    (2 ≤ words.length → ∃ argv, commandArguments t (quotedLine words) path = .ok argv ∧
      List.Forall₂ (fun word shown => Filled path.toList word.toList shown.toList) words argv) := by
  have hwords : IsWords t (quotedLine words) words := ⟨h, splitWords_quotedLine words⟩
  refine ⟨?_, ?_, fun hlen => commandArguments_of_words hwords hlen path⟩
  · rintro rfl
    rw [commandArguments_of_split h hwords.2]
    rfl
  · rintro word rfl
    exact commandArguments_of_program (.inr hwords) path

/-- An empty word, one with a quote and a placeholder, and one with a tab and a backslash; a single
word with a blank; and no words at all. -/
theorem quoted_words_come_back_awkward :
    let t : FileTree := ⟨[], []⟩
    let words := ["", "it's \x7bpath\x7d", "a\tb\\"]
    t.isFile (quotedLine words) = false ∧
      (∃ argv, commandArguments t (quotedLine words) "/a b" = .ok argv ∧
        List.Forall₂ (fun word shown => Filled "/a b".toList word.toList shown.toList) words argv ∧
        argv = ["", "it's /a b", "a\tb\\"]) ∧
      commandArguments t (quotedLine ["mk dir"]) "/a b" = .ok ["mk dir", "/a b"] ∧
      commandArguments t (quotedLine []) "/a b" = .error .blankCommand := by
  intro t words
  have hwords : t.isFile (quotedLine words) = false := by decide +kernel
  have hsingle : t.isFile (quotedLine ["mk dir"]) = false := by decide +kernel
  have hnone : t.isFile (quotedLine []) = false := by decide +kernel
  obtain ⟨argv, hok, hfilled⟩ := (quoted_words_come_back hwords "/a b").2.2 (by decide)
  refine ⟨hwords, ⟨argv, hok, hfilled, ?_⟩,
    (quoted_words_come_back hsingle "/a b").2.1 "mk dir" rfl,
    (quoted_words_come_back hnone "/a b").1 rfl⟩
  have hargv : commandArguments t (quotedLine words) "/a b" =
      .ok ["", "it's /a b", "a\tb\\"] := by decide +kernel
  exact Except.ok.inj (hok.symm.trans hargv)

end PluginHarness
