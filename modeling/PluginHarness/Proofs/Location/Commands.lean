import PluginHarness.Location.Strategy
import PluginHarness.Proofs.Arguments

/-!
# A command has words

Whether there is a command at all is asked twice, and of different characters. A line is taken as a
command unless all of its characters are blank, by a wide notion of blank. Its words are then split
by four separators only. Every separator is blank. So a command has a character that separates
nothing, and from such a line the splitter either gets a word or stops at its end, because a
quotation is open or a backslash escapes nothing. That there are no words in the line is never the
reason.

The other inclusion fails. A line of blanks that are no separators would be split into a word, but
it is not taken as a command.

## Main results

* `commandArguments_error_cases`: why a line has no arguments.
* `command_has_words`: how the arguments of a command come out.
-/

namespace PluginHarness

variable {t : FileTree} {line path : String}

theorem Text.isBlank_of_isSeparator {c : Char} (h : Text.isSeparator c = true) :
    Text.isBlank c = true := by
  simp only [Text.isSeparator, Bool.or_eq_true, beq_iff_eq] at h
  rcases h with ((rfl | rfl) | rfl) | rfl <;> decide

/-- A line has no arguments because it cannot be split, or because it has no words. -/
theorem commandArguments_error_cases {f : Fault} (h : commandArguments t line path = .error f) :
    (∃ g, Text.splitWords line.toList = .error g ∧ f = .split g) ∨
      Text.splitWords line.toList = .ok [] ∧ f = .blankCommand := by
  by_cases hfile : t.isFile line = true
  · cases (commandArguments_of_program (.inl ⟨hfile, rfl⟩) path).symm.trans h
  rw [Bool.not_eq_true] at hfile
  rcases hsplit : Text.splitWords line.toList with g | words
  · rw [commandArguments, argumentsOf, if_neg (by simp [hfile]), hsplit] at h
    cases h
    exact .inl ⟨g, rfl, rfl⟩
  · rw [commandArguments_of_split hfile hsplit] at h
    rcases words with _ | ⟨first, _ | ⟨second, more⟩⟩
    · cases h
      exact .inr ⟨rfl, rfl⟩
    · cases h
    · obtain ⟨args, hargs, -⟩ : ∃ args, argumentsOfWords (first :: second :: more) = .ok args ∧ _ :=
        argumentsOfWords_of_two_le (by simp)
      rw [hargs] at h
      cases h

/-- **A command has words.** The line of a command comes to at least two arguments, for any path and
any files, or it ends inside a quotation or after a backslash, and that is why it has none. -/
theorem command_has_words {line' : String} {callback : Option Callback} {deadline limit : Deadline}
    (h : Strategy.resolve line callback deadline = .command line' limit) (t : FileTree)
    (path : String) :
    (∃ argv, commandArguments t line' path = .ok argv ∧ 2 ≤ argv.length) ∨
      (commandArguments t line' path = .error (.split .unclosedQuotation) ∧
        ∃ quote, Text.endOf line'.toList = .quotation quote) ∨
      commandArguments t line' path = .error (.split .danglingEscape) ∧
        (Text.endOf line'.toList = .escape ∨ Text.endOf line'.toList = .quotedEscape) := by
  obtain ⟨hline, rfl, rfl⟩ := Strategy.resolve_eq_command_iff.mp h
  rcases commandArguments_cases t line' with ⟨program, hprogram⟩ | ⟨words, hwords, hlen⟩ | ⟨f, hf⟩
  · exact .inl ⟨_, commandArguments_of_program hprogram path, Nat.le_refl 2⟩
  · obtain ⟨argv, hok, hfilled⟩ := commandArguments_of_words hwords hlen path
    exact .inl ⟨argv, hok, hfilled.length_eq ▸ hlen⟩
  · have herror := hf path
    rcases commandArguments_error_cases herror with ⟨g, hsplit, rfl⟩ | ⟨hsplit, -⟩
    · have hend := Text.splitWords_eq_error_iff.mp hsplit
      rw [herror]
      cases hstate : Text.endOf line'.toList <;> rw [hstate] at hend <;> cases hend
      · exact .inr (.inl ⟨rfl, _, rfl⟩)
      · exact .inr (.inr ⟨rfl, .inl rfl⟩)
      · exact .inr (.inr ⟨rfl, .inr rfl⟩)
    · -- a line of separators alone would be blank
      have hblank : Text.isBlankText line' = true := List.all_eq_true.mpr fun c hc =>
        Text.isBlank_of_isSeparator (Text.splitWords_eq_nil_iff.mp hsplit c hc)
      rw [hline] at hblank
      cases hblank

/-- An empty quotation and an escaped space are two words, though there is nothing to see in them. A
line that ends after a backslash in an open quotation has none. -/
theorem command_has_words_invisible :
    let t : FileTree := ⟨[], []⟩
    let words := "'' \\ "
    let cut := "\"\\"
    (Strategy.resolve words none none = .command words none ∧
      ∃ argv, commandArguments t words "/a" = .ok argv ∧ 2 ≤ argv.length ∧ argv = ["", " "]) ∧
    Strategy.resolve cut none none = .command cut none ∧
      commandArguments t cut "/a" = .error (.split .danglingEscape) ∧
      (Text.endOf cut.toList = .escape ∨ Text.endOf cut.toList = .quotedEscape) := by
  intro t words cut
  have hwords : Strategy.resolve words none none = .command words none := by decide
  have hcut : Strategy.resolve cut none none = .command cut none := by decide
  refine ⟨⟨hwords, ?_⟩, hcut, ?_⟩
  · have hargv : commandArguments t words "/a" = .ok ["", " "] := by decide +kernel
    rcases command_has_words hwords t "/a" with ⟨argv, hok, hlen⟩ | ⟨herror, -⟩ | ⟨herror, -⟩
    · exact ⟨argv, hok, hlen, Except.ok.inj (hok.symm.trans hargv)⟩
    all_goals cases hargv.symm.trans herror
  · have hnone : commandArguments t cut "/a" = .error (.split .danglingEscape) := by decide +kernel
    rcases command_has_words hcut t "/a" with ⟨argv, hok, -⟩ | ⟨hopen, -⟩ | hends
    · cases hnone.symm.trans hok
    · cases hnone.symm.trans hopen
    · exact hends

end PluginHarness
