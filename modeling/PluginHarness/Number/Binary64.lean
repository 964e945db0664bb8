/-!
# Binary floating point numbers of 64 bits

A finite number is a sign and a magnitude, and the magnitude is counted in units of `2^-1074`,
the smallest positive one. Every finite number is a whole count of units, so comparison is
comparison of integers and rounding is rounding to the nearest allowed count. Nothing here uses
the machine's floating point.

## Main definitions

* `Binary64`: not-a-number, the two infinities, and the finite numbers.
* `Binary64.roundUnits`: the allowed count of units nearest to a quotient, ties to even.
* `Binary64.ofRatio`: the number nearest to a quotient of natural numbers.
* `Binary64.rank?`: a key that orders all numbers but not-a-number.
-/

namespace PluginHarness

/-- A floating point number. The count of units of a finite number has at most 53 significant
bits and is below `2^2098`. -/
inductive Binary64 where
  | nan
  | infinite (negative : Bool)
  | finite (negative : Bool) (units : Nat)
  deriving DecidableEq, Repr

namespace Binary64

/-- How many units make one. -/
def unitsPerOne : Nat := Nat.pow 2 1074

/-- Counts of units from here on are infinite. -/
def overflowUnits : Nat := Nat.pow 2 2098

/-- How many bits a significand has. -/
def significandBits : Nat := 53

/-- The natural number nearest to `a / d`, ties to even. -/
def roundQuotient (a d : Nat) : Nat :=
  let q := a / d
  let r := a % d
  if 2 * r < d then q else if d < 2 * r then q + 1 else q + q % 2

/-- The allowed count of units nearest to `a / d`, ties to even. -/
def roundUnits (a d : Nat) : Nat :=
  let spacing := Nat.pow 2 ((a / d).log2 + 1 - significandBits)
  roundQuotient a (d * spacing) * spacing

/-- The number with this sign whose magnitude is nearest to `a / d` units. -/
def ofUnits (negative : Bool) (a d : Nat) : Binary64 :=
  let n := roundUnits a d
  if n < overflowUnits then .finite negative n else .infinite negative

/-- The number nearest to `a / d`. -/
def ofRatio (negative : Bool) (a d : Nat) : Binary64 := ofUnits negative (a * unitsPerOne) d

/-- The number nearest to an integer. -/
def ofInt (i : Int) : Binary64 := ofRatio (decide (i < 0)) i.natAbs 1

/-- The number nearest to `digits * 10 ^ exponent`. Magnitudes far outside the range are decided
by their decimal length alone. -/
def ofDecimal (negative : Bool) (digits : Nat) (exponent : Int) : Binary64 :=
  if digits = 0 then .finite negative 0
  else
    let length : Int := (Nat.toDigits 10 digits).length + exponent
    if 400 < length then .infinite negative
    else if length < -400 then .finite negative 0
    else if 0 ≤ exponent then ofRatio negative (digits * Nat.pow 10 exponent.toNat) 1
    else ofRatio negative digits (Nat.pow 10 (-exponent).toNat)

/-- The finite number as a signed count of units; zero for the others. -/
def signedUnits : Binary64 → Int
  | .finite negative units => if negative then -(units : Int) else units
  | _ => 0

/-- A signed, exact count of units as a number, rounded; zero takes the sign given. -/
def ofSignedUnits (zeroSign : Bool) (n : Int) : Binary64 :=
  if n = 0 then .finite zeroSign 0 else ofUnits (decide (n < 0)) n.natAbs 1

/-- The sum, rounded. -/
def add : Binary64 → Binary64 → Binary64
  | .nan, _ => .nan
  | _, .nan => .nan
  | .infinite a, .infinite b => if a = b then .infinite a else .nan
  | .infinite a, _ => .infinite a
  | _, .infinite b => .infinite b
  | .finite a m, .finite b n =>
    ofSignedUnits (a && b) ((Binary64.finite a m).signedUnits + (Binary64.finite b n).signedUnits)

/-- The product, rounded. -/
def mul : Binary64 → Binary64 → Binary64
  | .nan, _ => .nan
  | _, .nan => .nan
  | .infinite a, .infinite b => .infinite (a != b)
  | .infinite a, .finite b n => if n = 0 then .nan else .infinite (a != b)
  | .finite a m, .infinite b => if m = 0 then .nan else .infinite (a != b)
  | .finite a m, .finite b n => ofUnits (a != b) (m * n) unitsPerOne

/-- The number with its sign turned round. -/
def neg : Binary64 → Binary64
  | .nan => .nan
  | .infinite s => .infinite !s
  | .finite s n => .finite (!s) n

/-- The place of a number in the order: the class first, then the count of units. Not-a-number
has no place. -/
def rank? : Binary64 → Option (Int × Int)
  | .nan => none
  | .infinite negative => some (if negative then -1 else 1, 0)
  | x@(.finite _ _) => some (0, x.signedUnits)

end Binary64

end PluginHarness
