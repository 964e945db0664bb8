import Mathlib.Tactic.SplitIfs
import PluginHarness.Text.Words

/-!
# What the splitter makes of a line

A command line of quoted words is split into these words, whatever is in them. The splitter reads a
quoted word from between two words into the middle of one (`splitFrom_quoteWord`), and does not ask
what comes next. Only the separator or the end decides that the word is complete, and so an empty
quotation is a word as well.

Inside the quotation every character stands for itself, the single quote apart. That one is read
through three quotations that touch, of which the middle one holds it.

## Where the reading ends

Whether a line can be split is settled by where the splitter stands at its end, and for that the
words do not matter (`endOf`). A line that ends inside a quotation or after a backslash cannot be
split. Any other line can, and it has a word unless there is nothing in it but separators: what
leads out of the state between two words leads back only by completing a word.

## Main definitions

* `SplitState.next`, `endOf`: where the splitter stands after a character, and after a line.
* `SplitState.fault?`: what is wrong with a line that ends there.

## Main results

* `splitFrom_quoteWord`: what a quoted word does to the splitter.
* `splitWords_quoteWords`: quoted words, separated by spaces, come apart into themselves.
* `splitFrom_course`: how the reading of a line goes on.
* `splitWords_eq_error_iff`, `splitWords_eq_nil_iff`: lines that cannot be split, and lines of no
  words.
-/

namespace PluginHarness.Text

variable {part rest : List Char}

/-- Inside single quotes only a single quote is special. -/
theorem splitFrom_quotation_of_ne {c : Char} (h : c ≠ singleQuote) :
    splitFrom (.quotation singleQuote) part (c :: rest) =
      splitFrom (.quotation singleQuote) (c :: part) rest := by
  have hescape : ¬ (c = backslash && singleQuote = doubleQuote) = true := by
    simp [singleQuote, doubleQuote]
  rw [splitFrom, if_neg h, if_neg hescape]

/-- A single quote leaves the quotation, stands in one of double quotes, and enters it again. -/
theorem splitFrom_quotation_singleQuote :
    splitFrom (.quotation singleQuote) part
        (singleQuote :: doubleQuote :: singleQuote :: doubleQuote :: singleQuote :: rest) =
      splitFrom (.quotation singleQuote) (singleQuote :: part) rest := rfl

/-- The characters of a quoted word are read as those of the word. -/
theorem splitFrom_quotation (word part rest : List Char) :
    splitFrom (.quotation singleQuote) part
        (word.flatMap (fun c => if c = singleQuote then
          [singleQuote, doubleQuote, singleQuote, doubleQuote, singleQuote] else [c]) ++ rest) =
      splitFrom (.quotation singleQuote) (word.reverse ++ part) rest := by
  induction word generalizing part with
  | nil => rfl
  | cons c word ih =>
    rw [List.flatMap_cons, List.append_assoc, List.reverse_cons, List.append_assoc]
    by_cases h : c = singleQuote
    · rw [if_pos h, h]
      exact splitFrom_quotation_singleQuote.trans (ih (singleQuote :: part))
    · rw [if_neg h]
      exact (splitFrom_quotation_of_ne h).trans (ih (c :: part))

/-- **A quoted word is read as the word**, and what comes after it decides whether it is complete. -/
theorem splitFrom_quoteWord (word rest : List Char) :
    splitFrom .between part (quoteWord word ++ rest) = splitFrom .word word.reverse rest := by
  have hbody := splitFrom_quotation word [] ([singleQuote] ++ rest)
  rw [List.append_nil] at hbody
  rw [quoteWord, List.append_assoc]
  -- the opening quote enters the quotation, the closing one leaves it
  exact hbody

theorem splitFrom_space (part rest : List Char) :
    splitFrom .word part (' ' :: rest) = (part.reverse :: ·) <$> splitFrom .between [] rest := rfl

/-- **Quoted words, separated by spaces, come apart into themselves.** -/
theorem splitWords_quoteWords (words : List (List Char)) :
    splitWords (quoteWords words) = .ok words := by
  unfold splitWords quoteWords
  induction words with
  | nil => rfl
  | cons word words ih =>
    cases words with
    | nil =>
      have hword : splitFrom .between [] (quoteWord word ++ []) = splitFrom .word word.reverse [] :=
        splitFrom_quoteWord word []
      rw [List.append_nil] at hword
      rw [List.map_singleton, List.intercalate_singleton, hword, splitFrom, List.reverse_reverse]
    | cons next words =>
      rw [List.map_cons, List.map_cons, List.intercalate_cons_cons, List.append_assoc,
        splitFrom_quoteWord, List.singleton_append, splitFrom_space, ← List.map_cons, ih,
        List.reverse_reverse]
      rfl

/-! ### Where the reading ends -/

/-- Where the splitter stands after one more character. -/
def SplitState.next : SplitState → Char → SplitState
  | .between, c | .word, c =>
    if isSeparator c then .between
    else if c = backslash then .escape
    else if isQuote c then .quotation c
    else .word
  | .quotation q, c =>
    if c = q then .word
    else if c = backslash && q = doubleQuote then .quotedEscape
    else .quotation q
  | .escape, _ => .word
  | .quotedEscape, _ => .quotation doubleQuote

/-- Where the splitter stands at the end of a line. -/
def endOf (line : List Char) : SplitState := line.foldl SplitState.next .between

/-- What is wrong with a line that ends here. -/
def SplitState.fault? : SplitState → Option SplitFault
  | .between | .word => none
  | .quotation _ => some .unclosedQuotation
  | .escape | .quotedEscape => some .danglingEscape

/-- One character moves the splitter on, and completes a word when a separator ends one. -/
theorem splitFrom_cons (s : SplitState) (part : List Char) (c : Char) (rest : List Char) :
    ∃ complete part', splitFrom s part (c :: rest) =
        (complete ++ ·) <$> splitFrom (s.next c) part' rest ∧
      (complete = [] ↔ s = .between ∨ s.next c ≠ .between) := by
  -- only a separator inside a word completes one; all else goes on with the same words
  cases s with
  | between =>
    rw [splitFrom, SplitState.next]
    split_ifs <;> exact ⟨[], _, (id_map _).symm, by simp⟩
  | word =>
    rw [splitFrom, SplitState.next]
    split_ifs
    · exact ⟨[part.reverse], [], rfl, by simp⟩
    all_goals exact ⟨[], _, (id_map _).symm, by simp⟩
  | quotation q =>
    rw [splitFrom, SplitState.next]
    split_ifs <;> exact ⟨[], _, (id_map _).symm, by simp⟩
  | escape => exact ⟨[], _, (id_map _).symm, by simp [SplitState.next]⟩
  | quotedEscape =>
    rw [splitFrom, SplitState.next]
    split_ifs <;> exact ⟨[], _, (id_map _).symm, by simp⟩

/-- Between two words only separators are skipped. -/
theorem next_between_eq_between_iff {c : Char} :
    SplitState.between.next c = .between ↔ isSeparator c = true := by
  rw [SplitState.next]
  split_ifs with hsep <;> simp [hsep]

/-- How the reading goes on is settled by where it ends, and it gives no words exactly when it
starts between two words and there is nothing but separators. -/
theorem splitFrom_course (s : SplitState) (part line : List Char) :
    match (line.foldl SplitState.next s).fault? with
    | some f => splitFrom s part line = .error f
    | none => ∃ words, splitFrom s part line = .ok words ∧
        (words = [] ↔ s = .between ∧ ∀ c ∈ line, isSeparator c = true) := by
  induction line generalizing s part with
  | nil => cases s <;> simp [SplitState.fault?, splitFrom]
  | cons c rest ih =>
    obtain ⟨complete, part', hstep, hcomplete⟩ := splitFrom_cons s part c rest
    have hrest := ih (s.next c) part'
    rw [List.foldl_cons, hstep]
    split at hrest
    · next f hf =>
      rw [hrest]
      rfl
    · next hf =>
      obtain ⟨words, hwords, hnone⟩ := hrest
      refine ⟨complete ++ words, by rw [hwords]; rfl, ?_⟩
      rw [List.append_eq_nil_iff, hcomplete, hnone, List.forall_mem_cons]
      -- without any word the state between two words was never left
      constructor
      · rintro ⟨hs | hs, hnext, hseps⟩
        · exact ⟨hs, next_between_eq_between_iff.mp (hs ▸ hnext), hseps⟩
        · exact absurd hnext hs
      · rintro ⟨rfl, hsep, hseps⟩
        exact ⟨.inl rfl, next_between_eq_between_iff.mpr hsep, hseps⟩

/-- A line cannot be split because of where it ends. -/
theorem splitWords_eq_error_iff {line : List Char} {f : SplitFault} :
    splitWords line = .error f ↔ (endOf line).fault? = some f := by
  have hcourse := splitFrom_course .between [] line
  rw [splitWords, endOf]
  split at hcourse
  · next g hg => rw [hcourse, hg, Except.error.injEq, Option.some.injEq]
  · next hg =>
    obtain ⟨words, hwords, -⟩ := hcourse
    rw [hwords, hg]
    exact ⟨nofun, nofun⟩

/-- A line has no words exactly when there is nothing in it but separators. -/
theorem splitWords_eq_nil_iff {line : List Char} :
    splitWords line = .ok [] ↔ ∀ c ∈ line, isSeparator c = true := by
  constructor
  · intro h
    have hcourse := splitFrom_course .between [] line
    rw [show splitFrom .between [] line = .ok [] from h] at hcourse
    split at hcourse
    · cases hcourse
    · obtain ⟨words, hwords, hnone⟩ := hcourse
      exact (hnone.mp (Except.ok.inj hwords).symm).2
  · intro h
    unfold splitWords
    induction line with
    | nil => rfl
    | cons c rest ih =>
      obtain ⟨hc, hrest⟩ := List.forall_mem_cons.mp h
      rw [splitFrom, if_pos hc]
      exact ih hrest

end PluginHarness.Text
