import Mathlib.Data.List.Nodup
import PluginHarness.Entries

/-!
# Writing many entries

Entries are written one after the other, and each key remembers only the last of them. So what is
under a key afterwards is settled by the last entry for it, and by what was there before when there
is none. No key is there twice, because a key that is there keeps its place.

## Main results

* `Entries.nodup_keys_insertAll`: no key is written twice.
* `Entries.keys_insertAll`: keys stand in the order in which they first appeared.
* `Entries.get?_insertAll_eq_some_iff`: the last entry for a key gives its value.
* `Entries.get?_insertAll`: entries with different keys go before what was there.
* `Entries.insertAll_insertAll`: writing such entries once more changes nothing.
* `Entries.get?_of_perm`: the order of entries with different keys does not matter.
* `Entries.get?_filter`: what is left under a key when some keys are dropped.
-/

namespace PluginHarness.Entries

variable {κ ν : Type} [BEq κ] [LawfulBEq κ] [DecidableEq κ]

omit [BEq κ] [LawfulBEq κ] [DecidableEq κ] in
theorem keys_cons (e : κ × ν) (es : Entries κ ν) : keys (e :: es) = e.1 :: keys es := rfl

omit [LawfulBEq κ] [DecidableEq κ] in
theorem insertAll_cons (es : Entries κ ν) (e : κ × ν) (rest : List (κ × ν)) :
    insertAll es (e :: rest) = insertAll (insert e.1 e.2 es) rest := rfl

theorem nodup_keys_insert (k : κ) (v : ν) {es : Entries κ ν} (h : (keys es).Nodup) :
    (keys (insert k v es)).Nodup := by
  rw [keys_insert]
  split
  · exact h
  · next hk => simpa using h.concat hk

theorem nodup_keys_insertAll {es : Entries κ ν} (h : (keys es).Nodup) (new : List (κ × ν)) :
    (keys (insertAll es new)).Nodup := by
  induction new generalizing es with
  | nil => exact h
  | cons e rest ih => exact ih (nodup_keys_insert e.1 e.2 h)

/-- Keys stand in the order in which they first appeared. -/
theorem keys_insertAll (es : Entries κ ν) (new : List (κ × ν)) :
    keys (insertAll es new) =
      keys es ++ ((keys new).filter fun k => decide (k ∉ keys es)).eraseDups := by
  induction new generalizing es with
  | nil => simp [insertAll, keys]
  | cons e rest ih =>
    rw [insertAll_cons, ih, keys_insert, keys_cons]
    by_cases he : e.1 ∈ keys es
    · rw [if_pos he, List.filter_cons_of_neg (by simpa using he)]
    · -- the key is new, and what repeats it later is dropped
      have hlater : ((keys rest).filter fun k => decide (k ∉ keys es)).filter (fun k => !k == e.1) =
          (keys rest).filter fun k => decide (k ∉ keys es ++ [e.1]) := by
        rw [List.filter_filter]
        refine List.filter_congr fun k _ => ?_
        rw [Bool.eq_iff_iff]
        simp [and_comm]
      rw [if_neg he, List.filter_cons_of_pos (by simpa using he), List.eraseDups_cons, hlater,
        List.append_assoc, List.singleton_append]

/-- The last entry for a key gives its value; without one the key keeps what it had. -/
theorem get?_insertAll_eq_some_iff {k : κ} {v : ν} {new : List (κ × ν)} {es : Entries κ ν} :
    get? k (insertAll es new) = some v ↔
      (∃ before after, new = before ++ (k, v) :: after ∧ k ∉ keys after) ∨
        k ∉ keys new ∧ get? k es = some v := by
  induction new generalizing es with
  | nil => simp [insertAll, keys]
  | cons e rest ih =>
    obtain ⟨k', v'⟩ := e
    rw [insertAll_cons, ih, get?_insert]
    constructor
    · rintro (⟨before, after, rfl, hk⟩ | ⟨hk, hv⟩)
      · exact .inl ⟨(k', v') :: before, after, rfl, hk⟩
      · split at hv
        · next heq =>
          subst heq
          cases hv
          exact .inl ⟨[], rest, rfl, hk⟩
        · next hne => exact .inr ⟨by simpa [keys] using ⟨Ne.symm hne, by simpa [keys] using hk⟩, hv⟩
    · rintro (⟨before, after, hnew, hk⟩ | ⟨hk, hv⟩)
      · cases before with
        | nil =>
          simp only [List.nil_append, List.cons.injEq, Prod.mk.injEq] at hnew
          obtain ⟨⟨rfl, rfl⟩, rfl⟩ := hnew
          exact .inr ⟨hk, if_pos rfl⟩
        | cons e before =>
          simp only [List.cons_append, List.cons.injEq] at hnew
          exact .inl ⟨before, after, hnew.2, hk⟩
      · simp only [keys, List.map_cons, List.mem_cons, not_or] at hk
        exact .inr ⟨hk.2, by rwa [if_neg (Ne.symm hk.1)]⟩

omit [DecidableEq κ] in
theorem get?_eq_none_of_not_mem {k : κ} {es : Entries κ ν} (h : k ∉ keys es) : get? k es = none := by
  induction es with
  | nil => rfl
  | cons e rest ih =>
    simp only [keys, List.map_cons, List.mem_cons, not_or] at h
    rw [get?, if_neg (by simpa using Ne.symm h.1)]
    exact ih h.2

/-- Entries with different keys go before what was there. -/
theorem get?_insertAll {new : Entries κ ν} (hnew : (keys new).Nodup) (es : Entries κ ν) (k : κ) :
    get? k (insertAll es new) = (get? k new).or (get? k es) := by
  induction new generalizing es with
  | nil => rfl
  | cons e rest ih =>
    obtain ⟨hhead, hrest⟩ := List.nodup_cons.mp hnew
    rw [insertAll_cons, ih hrest, get?_insert, get?]
    by_cases he : e.1 = k
    · subst he
      simp [get?_eq_none_of_not_mem hhead]
    · simp [he]

omit [LawfulBEq κ] [DecidableEq κ] in
/-- An entry that is there is not changed by writing it. -/
theorem insert_of_get? {k : κ} {v : ν} {es : Entries κ ν} (h : get? k es = some v) :
    insert k v es = es := by
  induction es with
  | nil => cases h
  | cons e rest ih =>
    rw [get?] at h
    rw [insert]
    by_cases he : (e.1 == k) = true
    · rw [if_pos he] at h ⊢
      rw [← Option.some.inj h]
    · rw [if_neg he] at h ⊢
      rw [ih h]

omit [LawfulBEq κ] [DecidableEq κ] in
/-- Entries that are there are not changed by writing them. -/
theorem insertAll_of_get? {new es : Entries κ ν} (h : ∀ e ∈ new, get? e.1 es = some e.2) :
    insertAll es new = es := by
  induction new with
  | nil => rfl
  | cons e rest ih =>
    obtain ⟨hhead, hrest⟩ := List.forall_mem_cons.mp h
    rw [insertAll_cons, insert_of_get? hhead]
    exact ih hrest

omit [DecidableEq κ] in
/-- Entries with different keys are there with their values. -/
theorem get?_of_mem {es : Entries κ ν} (h : (keys es).Nodup) {e : κ × ν} (he : e ∈ es) :
    get? e.1 es = some e.2 := by
  induction es with
  | nil => cases he
  | cons first rest ih =>
    obtain ⟨hhead, hrest⟩ := List.nodup_cons.mp h
    rcases List.mem_cons.mp he with rfl | hmem
    · simp [get?]
    · have hne : first.1 ≠ e.1 := fun heq => hhead (heq ▸ List.mem_map_of_mem hmem)
      simpa [get?, hne] using ih hrest hmem

/-- Writing entries with different keys once more changes nothing. -/
theorem insertAll_insertAll {new : Entries κ ν} (hnew : (keys new).Nodup) (es : Entries κ ν) :
    insertAll (insertAll es new) new = insertAll es new :=
  insertAll_of_get? fun e he => by rw [get?_insertAll hnew, get?_of_mem hnew he, Option.some_or]

omit [DecidableEq κ] in
/-- The order of entries with different keys does not matter. -/
theorem get?_of_perm {es es' : Entries κ ν} (h : (keys es).Nodup) (hperm : es'.Perm es) (k : κ) :
    get? k es' = get? k es := by
  have hkeys : (keys es').Perm (keys es) := hperm.map Prod.fst
  by_cases hk : k ∈ keys es
  · obtain ⟨e, he, rfl⟩ := List.mem_map.mp hk
    rw [get?_of_mem h he, get?_of_mem (hkeys.nodup_iff.mpr h) (hperm.mem_iff.mpr he)]
  · rw [get?_eq_none_of_not_mem hk, get?_eq_none_of_not_mem fun hk' => hk (hkeys.mem_iff.mp hk')]

omit [LawfulBEq κ] [DecidableEq κ] in
/-- A change of all values is seen under each key. -/
theorem get?_map {μ : Type} (f : ν → μ) (k : κ) (es : Entries κ ν) :
    get? k (es.map fun e => (e.1, f e.2)) = (get? k es).map f := by
  induction es with
  | nil => rfl
  | cons e rest ih =>
    by_cases he : (e.1 == k) = true <;> simp [get?, he, ih]

/-- When only some keys are kept, these have what they had. -/
theorem get?_filter (p : κ → Bool) (k : κ) (es : Entries κ ν) :
    get? k (es.filter fun e => p e.1) = if p k then get? k es else none := by
  induction es with
  | nil => simp [get?]
  | cons e rest ih =>
    by_cases he : e.1 = k
    · subst he
      cases hp : p e.1 <;> simp [hp, get?, ih]
    · cases hp : p e.1 <;> simp [hp, get?, ih, he]

end PluginHarness.Entries
