import PluginHarness.Number.Shortest
import PluginHarness.Number.Literal

/-!
# Numbers

A number of a configuration is an integer of any size or a floating point number. The two kinds
compare by exact value; not-a-number compares with nothing.

## Main definitions

* `Number`: an integer or a floating point number.
* `Number.lt`, `Number.le`, `Number.eqv`: comparison by value.
* `Number.text`: the number as it is written.
-/

namespace PluginHarness

/-- An integer or a floating point number. -/
inductive Number where
  | int (i : Int)
  | float (x : Binary64)
  deriving DecidableEq, Repr

namespace Number

/-- The place in the order, in units of the finest floating point number. -/
def rank? : Number → Option (Int × Int)
  | .int i => some (0, i * Binary64.unitsPerOne)
  | .float x => x.rank?

/-- The value of the first is below that of the second. -/
def lt (a b : Number) : Bool :=
  match a.rank?, b.rank? with
  | some p, some q => decide (p.1 < q.1 ∨ p.1 = q.1 ∧ p.2 < q.2)
  | _, _ => false

/-- The value of the first is at most that of the second. -/
def le (a b : Number) : Bool :=
  match a.rank?, b.rank? with
  | some p, some q => decide (p.1 < q.1 ∨ p.1 = q.1 ∧ p.2 ≤ q.2)
  | _, _ => false

/-- Both have the same value. -/
def eqv (a b : Number) : Bool :=
  match a.rank?, b.rank? with
  | some p, some q => decide (p = q)
  | _, _ => false

/-- Whether the number is not-a-number. -/
def isNaN : Number → Bool
  | .float .nan => true
  | _ => false

/-- The number as it is written. -/
def text : Number → String
  | .int i => toString i
  | .float x => x.text

/-- Exactly not-a-number has no place in the order. -/
theorem rank?_eq_none_iff (a : Number) : a.rank? = none ↔ a.isNaN = true := by
  cases a with
  | int i => exact ⟨fun h => absurd h (Option.some_ne_none _), fun h => absurd h Bool.false_ne_true⟩
  | float x =>
    cases x with
    | nan => exact ⟨fun _ => rfl, fun _ => rfl⟩
    | infinite negative =>
      exact ⟨fun h => absurd h (Option.some_ne_none _), fun h => absurd h Bool.false_ne_true⟩
    | finite negative units =>
      exact ⟨fun h => absurd h (Option.some_ne_none _), fun h => absurd h Bool.false_ne_true⟩

/-- What is not below is at least, unless one of the two is not-a-number. -/
theorem le_of_not_lt {a b : Number} (ha : a.isNaN = false) (hb : b.isNaN = false)
    (h : a.lt b = false) : b.le a = true := by
  cases hp : a.rank? with
  | none => exact absurd ((rank?_eq_none_iff a).1 hp) (by simp [ha])
  | some p =>
    cases hq : b.rank? with
    | none => exact absurd ((rank?_eq_none_iff b).1 hq) (by simp [hb])
    | some q =>
      simp only [lt, hp, hq, decide_eq_false_iff_not] at h
      simp only [le, hp, hq, decide_eq_true_eq]
      omega

end Number

end PluginHarness
