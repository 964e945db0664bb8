import PluginHarness.Number.Binary64
import PluginHarness.Text.Blank
import PluginHarness.Text.Digit

/-!
# Numbers written as text

What counts as the text of an integer or of a floating point number. Blanks at both ends are
ignored, the information separators not among them; digits of any script count, and single
underscores may stand between digits. An integer in base ten has at most 4300 digits.

## Main definitions

* `readInteger`: an integer in a given base, or why it is none.
* `readFloat?`: a floating point number.
-/

namespace PluginHarness.Literal

open PluginHarness.Text

/-- Why a text is no integer. -/
inductive IntegerFault where
  /-- It is not written as one. -/
  | malformed
  /-- It has too many digits. -/
  | tooLong (digits : Nat)
  deriving DecidableEq, Repr

/-- The greatest number of digits of an integer in base ten, read or written. -/
def maxIntegerDigits : Nat := 4300

/-- A blank at the ends of a number: white space without the information separators. -/
def isNumberBlank (c : Char) : Bool :=
  isBlank c && !(decide (28 ≤ c.toNat) && decide (c.toNat ≤ 31))

/-- The characters without the blanks at both ends. -/
def trimNumber (cs : List Char) : List Char :=
  ((cs.dropWhile isNumberBlank).reverse.dropWhile isNumberBlank).reverse

/-- A sign in front, and what follows it. -/
def splitSign : List Char → Bool × List Char
  | '-' :: rest => (true, rest)
  | '+' :: rest => (false, rest)
  | rest => (false, rest)

/-- The value of a digit in bases up to sixteen. -/
def digit? (c : Char) : Option Nat := (digitValue? c).or (hexValue? c)

/-- Digit values with single underscores between them; `first` holds at the start and after an
underscore, where a digit has to follow. -/
def readDigits? (digit? : Char → Option Nat) : (first : Bool) → List Char → Option (List Nat)
  | first, [] => if first then none else some []
  | first, c :: rest =>
    if c = '_' then if first then none else readDigits? digit? true rest
    else do
      let d ← digit? c
      return d :: (← readDigits? digit? false rest)

/-- The letter that marks a base, behind a zero. -/
def baseMark? (base : Nat) : Option Char :=
  if base = 2 then some 'b' else if base = 8 then some 'o' else if base = 16 then some 'x' else none

/-- What follows the mark of the base; a text without the mark is taken as it is. One underscore
may stand behind the mark. -/
def skipBaseMark (base : Nat) : List Char → List Char
  | '0' :: c :: rest =>
    if baseMark? base = some c.toLower then
      match rest with
      | '_' :: digits => digits
      | _ => rest
    else '0' :: c :: rest
  | cs => cs

/-- The integer that the text denotes in base `base`, at most sixteen. -/
def readInteger (base : Nat) (cs : List Char) : Except IntegerFault Int :=
  let (negative, rest) := splitSign (trimNumber cs)
  match readDigits? (fun c => (digit? c).filter fun d => decide (d < base)) true
      (skipBaseMark base rest) with
  | none => .error .malformed
  | some digits =>
    if base = 10 && maxIntegerDigits < digits.length then .error (.tooLong digits.length)
    else
      let n : Int := digitsValue base digits
      .ok (if negative then -n else n)

/-- Splits at the first character that satisfies `p`; the second part begins after it. -/
def splitAtFirst (p : Char → Bool) (cs : List Char) : List Char × Option (List Char) :=
  match cs.span (fun c => !p c) with
  | (before, []) => (before, none)
  | (before, _ :: after) => (before, some after)

/-- Digits that may be missing altogether. -/
def readOptionalDigits? (cs : List Char) : Option (List Nat) :=
  if cs.isEmpty then some [] else readDigits? digitValue? true cs

/-- The exponent of a floating point text; zero when there is none. -/
def readExponent? : Option (List Char) → Option Int
  | none => some 0
  | some cs => do
    let (negative, rest) := splitSign cs
    let digits ← readDigits? digitValue? true rest
    -- beyond any range, and short enough to compute with
    let n : Int := if digits.length ≤ 18 then digitsValue 10 digits else
      min (digitsValue 10 digits) (Int.pow 10 18)
    return if negative then -n else n

/-- The floating point number that the text denotes: `nan`, `inf`, `infinity`, or decimal digits
with an optional point and exponent. -/
def readFloat? (cs : List Char) : Option Binary64 := do
  let (negative, rest) := splitSign (trimNumber cs)
  let word := rest.map Char.toLower
  if word = "nan".toList then return .nan
  if word = "inf".toList || word = "infinity".toList then return .infinite negative
  let (mantissa, exponent) := splitAtFirst (fun c => c == 'e' || c == 'E') rest
  let (whole, fraction) := splitAtFirst (· == '.') mantissa
  let wholeDigits ← readOptionalDigits? whole
  let fractionDigits ← readOptionalDigits? (fraction.getD [])
  if wholeDigits.isEmpty && fractionDigits.isEmpty then none
  let power ← readExponent? exponent
  return Binary64.ofDecimal negative (digitsValue 10 (wholeDigits ++ fractionDigits))
    (power - fractionDigits.length)

end PluginHarness.Literal
