import PluginHarness.Proofs.Entries
import PluginHarness.Secrets.Basic

/-!
# Mappings written as text

Credentials are read from a mapping by going through its entries in order and stopping at the first
one that cannot be written. At the end the texts of all entries are written, one after the other, so
that of several keys with one text the first gives the place and the last the value.

An entry is not written for one of two reasons. Its value may be no text at all, being nothing, a
list or a mapping; then the reader's own refusal is given. Or a key or a value holds an integer
with more digits than are ever written, and that is a failure of another kind.

## Main definitions

* `written?`: the texts of an entry.
* `Collapses`: the texts that the entries of a mapping come to.

## Main results

* `textEntries_eq_ok_iff`: when a mapping is written, and as what.
* `collapses_of_textEntries`: where the texts stand, and which they are.
* `textEntries_error_cases`: why it is not.
-/

namespace PluginHarness

/-- The texts of an entry, if both of its sides can be written. -/
def written? (e : Document × Document) : Option (String × String) := do
  return (← e.1.text?, ← e.2.plainText?)

theorem written?_eq_some_iff {e : Document × Document} {k v : String} :
    written? e = some (k, v) ↔ e.1.text? = some k ∧ e.2.plainText? = some v := by
  rcases hk : e.1.text? with _ | k' <;> rcases hv : e.2.plainText? with _ | v' <;>
    simp [written?, hk, hv]

theorem written?_isSome_iff {e : Document × Document} :
    (written? e).isSome = true ↔ e.1.text?.isSome = true ∧ e.2.plainText?.isSome = true := by
  rcases hk : e.1.text? with _ | k <;> rcases hv : e.2.plainText? with _ | v <;>
    simp [written?, hk, hv]

/-- The last text under a key is that of the last entry whose key has this text. -/
theorem last_written_iff {entries : List (Document × Document)}
    (hall : ∀ e ∈ entries, (written? e).isSome) {k v : String} :
    (∃ before after, entries.filterMap written? = before ++ (k, v) :: after ∧
        k ∉ Entries.keys after) ↔
      ∃ before key value after, entries = before ++ (key, value) :: after ∧
        key.text? = some k ∧ value.plainText? = some v ∧ ∀ e ∈ after, e.1.text? ≠ some k := by
  constructor
  · rintro ⟨texts, later, hsplit, hk⟩
    obtain ⟨before, rest, rfl, -, hrest⟩ := List.filterMap_eq_append_iff.mp hsplit
    obtain ⟨skipped, ⟨key, value⟩, after, rfl, -, hkv, rfl⟩ := List.filterMap_eq_cons_iff.mp hrest
    obtain ⟨hkey, hvalue⟩ := written?_eq_some_iff.mp hkv
    refine ⟨before ++ skipped, key, value, after, by simp, hkey, hvalue, fun e he hek => hk ?_⟩
    obtain ⟨⟨k', v'⟩, hkv'⟩ := Option.isSome_iff_exists.mp (hall e (by simp [he]))
    obtain rfl : k = k' := Option.some.inj (hek.symm.trans (written?_eq_some_iff.mp hkv').1)
    exact List.mem_map.mpr ⟨(k, v'), List.mem_filterMap.mpr ⟨e, he, hkv'⟩, rfl⟩
  · rintro ⟨before, key, value, after, rfl, hkey, hvalue, hlast⟩
    refine ⟨before.filterMap written?, after.filterMap written?, ?_, fun hk => ?_⟩
    · rw [List.filterMap_append, List.filterMap_cons_some (written?_eq_some_iff.mpr ⟨hkey, hvalue⟩)]
    · obtain ⟨⟨k', v'⟩, hmem, rfl⟩ := List.mem_map.mp hk
      obtain ⟨e, he, hkv⟩ := List.mem_filterMap.mp hmem
      exact hlast e he (written?_eq_some_iff.mp hkv).1

/-- The texts of the keys stand in the order of their first places. -/
theorem keys_written {entries : List (Document × Document)}
    (hall : ∀ e ∈ entries, (written? e).isSome) :
    Entries.keys (Entries.insertAll [] (entries.filterMap written?)) =
      (entries.filterMap fun e => e.1.text?).eraseDups := by
  have hkeys : Entries.keys (entries.filterMap written?) = entries.filterMap fun e => e.1.text? := by
    rw [Entries.keys, List.map_filterMap]
    refine List.filterMap_congr fun e he => ?_
    obtain ⟨⟨k, v⟩, hkv⟩ := Option.isSome_iff_exists.mp (hall e he)
    rw [hkv, (written?_eq_some_iff.mp hkv).1]
    rfl
  rw [Entries.keys_insertAll, hkeys]
  simp [Entries.keys]

/-- Entries come to one text for each text that a key is written as: at the place of the first such
key, and with the value of the last. -/
structure Collapses (entries : List (Document × Document)) (m : TextMap) : Prop where
  keys_eq : Entries.keys m = (entries.filterMap fun e => e.1.text?).eraseDups
  get?_iff : ∀ k v, m.get? k = some v ↔ ∃ before key value after,
    entries = before ++ (key, value) :: after ∧ key.text? = some k ∧ value.plainText? = some v ∧
      ∀ e ∈ after, e.1.text? ≠ some k

variable {refuse : Document → Failure} {entries : List (Document × Document)} {done m : TextMap}

theorem textEntries_cons (e : Document × Document) (rest : List (Document × Document)) :
    textEntries refuse done (e :: rest) =
      if e.2.isPlain then
        match written? e with
        | some (k, v) => textEntries refuse (done.insert k v) rest
        | none => .error (.fault .unwritable)
      else .error (refuse e.1) := by
  rw [textEntries]
  rcases hk : e.1.text? with _ | k <;> rcases hv : e.2.plainText? with _ | v <;>
    simp [written?, hk, hv]

/-- A mapping is written when all of its entries are, as their texts one after the other. -/
theorem textEntries_eq_ok_iff :
    textEntries refuse done entries = .ok m ↔
      (∀ e ∈ entries, e.2.isPlain = true ∧ (written? e).isSome) ∧
        m = Entries.insertAll done (entries.filterMap written?) := by
  induction entries generalizing done with
  | nil => exact ⟨fun h => ⟨by simp, (Except.ok.inj h).symm⟩, fun h => by rw [h.2]; rfl⟩
  | cons e rest ih =>
    rw [textEntries_cons]
    by_cases hplain : e.2.isPlain = true
    · rcases hw : written? e with _ | ⟨k, v⟩
      · simp [hplain, hw]
      · simp [hplain, hw, ih, Entries.insertAll]
    · simp [hplain]

/-- What is written is what the entries come to. -/
theorem collapses_of_textEntries (h : textEntries refuse [] entries = .ok m) : Collapses entries m := by
  obtain ⟨hall, rfl⟩ := textEntries_eq_ok_iff.mp h
  have hwritten : ∀ e ∈ entries, (written? e).isSome := fun e he => (hall e he).2
  refine ⟨keys_written hwritten, fun k v => ?_⟩
  rw [← last_written_iff hwritten, Entries.get?_insertAll_eq_some_iff]
  simp [Entries.get?]

/-- What is given does not depend on how values are refused. -/
theorem textEntries_ok_congr {refuse' : Document → Failure} :
    textEntries refuse [] entries = .ok m ↔ textEntries refuse' [] entries = .ok m := by
  rw [textEntries_eq_ok_iff, textEntries_eq_ok_iff]

/-- A mapping that is not written has a value that is refused, or a text that cannot be written. -/
theorem textEntries_error_cases {x : Failure} (h : textEntries refuse done entries = .error x) :
    (∃ e ∈ entries, e.2.isPlain = false ∧ x = refuse e.1) ∨
      ∃ e ∈ entries, e.2.isPlain = true ∧ written? e = none ∧ x = .fault .unwritable := by
  induction entries generalizing done with
  | nil => cases h
  | cons e rest ih =>
    rw [textEntries_cons] at h
    split at h
    · next hplain =>
      split at h
      · exact (ih h).imp (fun ⟨e', he', hx⟩ => ⟨e', .tail _ he', hx⟩)
          fun ⟨e', he', hx⟩ => ⟨e', .tail _ he', hx⟩
      · next hnone =>
        cases h
        exact .inr ⟨e, .head _, hplain, hnone, rfl⟩
    · next hplain =>
      cases h
      exact .inl ⟨e, .head _, by simpa using hplain, rfl⟩

end PluginHarness
