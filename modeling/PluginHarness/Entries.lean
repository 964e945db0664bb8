/-!
# Ordered entries

A mapping that remembers the order in which its keys first appeared. Writing to a key that is
there keeps its place and replaces its value, so of several entries for one key the first gives
the place and the last gives the value.

Keys are compared with `==`. For document keys that relation is coarser than equality and not
reflexive, so lookups are stated through it.

## Main definitions

* `Entries`: the entries, first key first.
* `Entries.insert`, `Entries.insertAll`, `Entries.ofList`: writing entries.
* `Entries.get?`, `Entries.erase`: reading and dropping one.

## Main results

* `Entries.get?_insert`: reading after writing.
* `Entries.keys_insert`: where a written key stands.
-/

namespace PluginHarness

/-- Entries in the order in which their keys first appeared. -/
abbrev Entries (κ ν : Type) := List (κ × ν)

namespace Entries

variable {κ ν : Type} [BEq κ]

/-- The value under a key. -/
def get? (k : κ) : Entries κ ν → Option ν
  | [] => none
  | (k', v) :: rest => if k' == k then some v else get? k rest

/-- Writes a value under a key. -/
def insert (k : κ) (v : ν) : Entries κ ν → Entries κ ν
  | [] => [(k, v)]
  | (k', v') :: rest => if k' == k then (k', v) :: rest else (k', v') :: insert k v rest

/-- Writes entries one after the other. -/
def insertAll (es : Entries κ ν) (new : List (κ × ν)) : Entries κ ν :=
  new.foldl (fun es e => insert e.1 e.2 es) es

/-- The mapping that arises from writing the entries one after the other. -/
def ofList (es : List (κ × ν)) : Entries κ ν := insertAll [] es

/-- The entries under other keys. -/
def erase (k : κ) (es : Entries κ ν) : Entries κ ν := es.filter fun e => !(e.1 == k)

/-- The keys in order. -/
def keys (es : Entries κ ν) : List κ := es.map Prod.fst

/-- The same keys with the same values, in any order. -/
def same [BEq ν] (a b : Entries κ ν) : Bool :=
  a.length == b.length && a.all fun e => (get? e.1 b).any (· == e.2)

section Lawful

variable [LawfulBEq κ]

/-- A written key has the written value; every other key keeps its own. -/
theorem get?_insert [DecidableEq κ] (k k' : κ) (v : ν) (es : Entries κ ν) :
    get? k' (insert k v es) = if k = k' then some v else get? k' es := by
  induction es with
  | nil => by_cases h : k = k' <;> simp [insert, get?, h]
  | cons e rest ih =>
    by_cases he : e.1 = k
    · by_cases h : k = k' <;> simp [insert, get?, he, h]
    · by_cases h : k = k'
      · subst h; simp [insert, get?, he, ih]
      · by_cases he' : e.1 = k'
        · subst he'; simp [insert, get?, h, Ne.symm h]
        · simp [insert, get?, he, he', h, ih]

/-- A key that is there keeps its place; a new one goes to the end. -/
theorem keys_insert [DecidableEq κ] (k : κ) (v : ν) (es : Entries κ ν) :
    keys (insert k v es) = if k ∈ keys es then keys es else keys es ++ [k] := by
  induction es with
  | nil => simp [insert, keys]
  | cons e rest ih =>
    by_cases he : e.1 = k
    · simp [insert, keys, he]
    · have he' : ¬ k = e.1 := fun h => he h.symm
      by_cases hk : k ∈ keys rest
      · simp_all [insert, keys]
      · simp_all [insert, keys]

end Lawful

end Entries

end PluginHarness
