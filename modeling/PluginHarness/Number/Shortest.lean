import PluginHarness.Number.Binary64

/-!
# Shortest decimal text

The text of a floating point number has the fewest digits that read back as the same number,
and of those digits the nearest to it. Among the grids of 1, 2, … 17 significant decimal digits
the first one counts that has a point inside the interval of values that round to the number;
the interval holds its end points when the significand is even.

## Main definitions

* `Binary64.shortestDigits`: the digits and the position of the decimal point.
* `DecimalLayout`: which texts are positional and how the others are written.
* `Binary64.text`: the text in the layout of this program.
-/

namespace PluginHarness

namespace Binary64

/-- The number of decimal digits before the point of `units`, or minus the number of zeros after
it when there is none: the least `e` such that the value is below `10 ^ e`. -/
def decimalExponent (units : Nat) : Int :=
  let whole := units / unitsPerOne
  if whole ≠ 0 then (Nat.toDigits 10 whole).length
  else
    -- the value is below one: count the tenfold steps that take it to one or above
    let steps := (List.range 330).find? fun k => decide (unitsPerOne ≤ units * Nat.pow 10 (k + 1))
    Int.negOfNat (steps.getD 0)

/-- The two grid points around `a / d` that lie in `[low / d, high / d]`, as the nearest one. -/
def nearestHit (a low high d : Nat) (inclusive : Bool) (c scale : Nat) : Option Nat :=
  let inside := fun x : Nat =>
    if inclusive then decide (low ≤ x * scale * d ∧ x * scale * d ≤ high)
    else decide (low < x * scale * d ∧ x * scale * d < high)
  let below := a - c * scale * d
  let above := (c + 1) * scale * d - a
  match inside c, inside (c + 1) with
  | true, true =>
    if below < above then some c else if above < below then some (c + 1)
    else some (c + c % 2)
  | true, false => some c
  | false, true => some (c + 1)
  | false, false => none

/-- The digits of a positive count of units as a number without trailing zeros, and the power
of ten that the last digit counts. -/
def shortestDigits (units : Nat) : Nat × Int :=
  let spacing := Nat.pow 2 (units.log2 + 1 - significandBits)
  let significand := units / spacing
  let inclusive := significand % 2 == 0
  -- everything in quarters of a unit, so that both half gaps are whole
  let value := 4 * units
  let high := value + 2 * spacing
  let low :=
    if significand == Nat.pow 2 (significandBits - 1) && spacing != 1 then value - spacing
    else value - 2 * spacing
  let one := 4 * unitsPerOne
  let e := decimalExponent units
  let hit (n : Nat) : Option (Nat × Int) :=
    let power := e - n
    if 0 ≤ power then
      let scale := Nat.pow 10 power.toNat
      (nearestHit value low high one inclusive (value / (one * scale)) scale).map (·, power)
    else
      let scale := Nat.pow 10 (-power).toNat
      (nearestHit (value * scale) (low * scale) (high * scale) one inclusive
        (value * scale / one) 1).map (·, power)
  ((List.range 17).findSome? fun k => hit (k + 1)).getD (0, 0)

end Binary64

/-- How the digits of a number are laid out. -/
structure DecimalLayout where
  /-- The position of the decimal point is shown as it is above this bound… -/
  positionalAbove : Int
  /-- …and up to this one; other numbers carry an exponent. -/
  positionalUpTo : Int
  /-- The least number of digits of an exponent. -/
  exponentWidth : Nat

namespace DecimalLayout

/-- The text of the number `0.d₁d₂… * 10 ^ point`. A positional text always has a digit on each
side of the point; an exponent always has a sign. -/
def layOut (layout : DecimalLayout) (digits : List Char) (point : Int) : List Char :=
  if layout.positionalAbove < point && point ≤ layout.positionalUpTo then
    if point ≤ 0 then '0' :: '.' :: List.replicate (-point).toNat '0' ++ digits
    else
      let whole := digits.take point.toNat
      let fraction := digits.drop point.toNat
      whole ++ List.replicate (point.toNat - digits.length) '0' ++
        '.' :: (if fraction.isEmpty then ['0'] else fraction)
  else
    let exponent := point - 1
    let power := Nat.toDigits 10 exponent.natAbs
    let mantissa := match digits with
      | d :: [] => [d]
      | d :: rest => d :: '.' :: rest
      | [] => []
    mantissa ++ 'e' :: (if exponent < 0 then '-' else '+') ::
      List.replicate (layout.exponentWidth - power.length) '0' ++ power

end DecimalLayout

namespace Binary64

/-- Numbers from `0.0001` up to below `10^16` are positional; an exponent has two digits or
more. -/
def layout : DecimalLayout := ⟨-4, 16, 2⟩

/-- Removes the zeros at the end of a digit string. -/
def dropTrailingZeros (digits : List Char) : List Char :=
  (digits.reverse.dropWhile (· == '0')).reverse

/-- The text of a number. -/
def text : Binary64 → String
  | .nan => "nan"
  | .infinite negative => if negative then "-inf" else "inf"
  | .finite negative units =>
    let body :=
      if units = 0 then "0.0"
      else
        let (digits, power) := shortestDigits units
        let all := Nat.toDigits 10 digits
        String.ofList (layout.layOut (dropTrailingZeros all) (power + all.length))
    if negative then "-" ++ body else body

end Binary64

end PluginHarness
