import PluginHarness.Config.Load
import PluginHarness.Proofs.TextEntries

/-!
# Parameters and credentials are written alike

Credentials of an operation and volume parameters are both texts under names, and each kind has a
reader of its own. The readers look at a value in a different order, and only one of them folds what
a flag is written as; the other has words for the two flags. They also refuse in different words.

None of this can be seen in what they give. Entry by entry both write the same texts
(`parameterText?_eq`), so the parameters are read as credentials would be that are refused in the
words for parameters (`parameterEntries_eq`), and how a value is refused does not matter for what is
given where none is.

## Main results

* `Config.parameterEntries_eq`: parameters are read as credentials are.
* `reads_alike`: which documents the readers refuse, and what they make of the others.
-/

namespace PluginHarness

namespace Config

/-- Folding what a flag is written as gives the word for it. -/
theorem parameterText?_eq (value : Document) : parameterText? value = value.plainText? := by
  cases value with
  | bool b => cases b <;> decide
  | _ => rfl

theorem parameterEntries_cons (path : String) (done : TextMap) (e : Document × Document)
    (rest : List (Document × Document)) :
    parameterEntries path done (e :: rest) =
      if e.2.isPlain then
        match written? e with
        | some (k, v) => parameterEntries path (done.insert k v) rest
        | none => .error (.fault .unwritable)
      else .error (parameterRefusal path e.1) := by
  obtain ⟨key, value⟩ := e
  have hvalue := parameterText?_eq value
  rcases hk : key.text? with _ | k <;> rcases hv : value.plainText? with _ | v <;>
    rw [hv] at hvalue <;> cases value <;>
    simp [parameterEntries, Document.isPlain, written?, hk, hv, hvalue]

/-- Parameters are read as credentials are, and refused in their own words. -/
theorem parameterEntries_eq (path : String) (done : TextMap) (entries : List (Document × Document)) :
    parameterEntries path done entries = textEntries (parameterRefusal path) done entries := by
  induction entries generalizing done with
  | nil => rfl
  | cons e rest ih =>
    rw [parameterEntries_cons, textEntries_cons]
    rcases written? e with _ | ⟨k, v⟩
    · rfl
    · exact if_congr Iff.rfl (ih (done.insert k v)) rfl

end Config

variable {m : TextMap}

theorem ofValue_eq_ok_iff_parametersOf {o : Operation} {path : String} {d : Document} :
    Secrets.ofValue o d = .ok m ↔ Config.parametersOf path d = .ok m := by
  cases d with
  | null => rfl
  | map entries =>
    rw [Secrets.ofValue, Config.parametersOf, Config.parameterEntries_eq]
    exact textEntries_ok_congr
  | _ => constructor <;> rintro ⟨⟩

theorem exists_error_iff {ε α : Type} {x : Except ε α} : (∃ e, x = .error e) ↔ ¬ ∃ a, x = .ok a := by
  cases x <;> simp

/-- **Parameters and credentials are read alike.** A document is refused as the parameters exactly
when it is refused as the credentials of an operation, and otherwise it gives the same texts in the
same order. Nothing gives none. A mapping is refused when one of its values is nothing, a list or a
mapping, or a text of it cannot be written; the texts of any other one are its entries, where keys
that are written as one text come together. -/
theorem reads_alike (o : Operation) (path : String) (d : Document) :
    ((∃ e, Secrets.ofValue o d = .error e) ↔ ∃ e, Config.parametersOf path d = .error e) ∧
    (∀ m, Secrets.ofValue o d = .ok m ↔ Config.parametersOf path d = .ok m) ∧
    (d = .null → Secrets.ofValue o d = .ok []) ∧
    ∀ entries, d = .map entries →
      ((∃ m, Secrets.ofValue o d = .ok m) ↔ ∀ e ∈ entries,
        e.2.isPlain = true ∧ e.1.text?.isSome ∧ e.2.plainText?.isSome) ∧
      ∀ m, Secrets.ofValue o d = .ok m → Collapses entries m := by
  refine ⟨?_, fun m => ofValue_eq_ok_iff_parametersOf, ?_, ?_⟩
  · rw [exists_error_iff, exists_error_iff]
    exact not_congr (exists_congr fun m => ofValue_eq_ok_iff_parametersOf)
  · rintro rfl
    rfl
  · rintro entries rfl
    have hok {m : TextMap} : Secrets.ofValue o (.map entries) = .ok m ↔
        (∀ e ∈ entries, e.2.isPlain = true ∧ (written? e).isSome) ∧
          m = Entries.insertAll [] (entries.filterMap written?) := textEntries_eq_ok_iff
    refine ⟨?_, fun m => collapses_of_textEntries⟩
    simp only [hok, written?_isSome_iff, exists_and_left, exists_eq, and_true]

/-- The integer and the text are written alike, so they are one parameter. -/
example : Config.parametersOf "p"
      (.map [(.int 1, .text "first"), (.null, .bool true), (.text "1", .int (-2))]) =
    .ok [("1", "-2"), ("None", "true")] := by rfl

end PluginHarness
