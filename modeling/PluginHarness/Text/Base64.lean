/-!
# Bytes in base 64

Reading bytes written in groups of four characters for three bytes. Characters outside the
alphabet are passed over; padding ends the text as soon as it completes a group.

## Main definitions

* `base64Bytes?`: the bytes of a text, or none when a group is incomplete.
-/

namespace PluginHarness.Text

/-- The value of a character of the alphabet. -/
def base64Value? (c : Char) : Option Nat :=
  if 'A' ≤ c ∧ c ≤ 'Z' then some (c.toNat - 65)
  else if 'a' ≤ c ∧ c ≤ 'z' then some (c.toNat - 71)
  else if '0' ≤ c ∧ c ≤ '9' then some (c.toNat + 4)
  else if c = '+' then some 62
  else if c = '/' then some 63
  else none

/-- Reads on inside a group: `filled` characters of it are read, their unused bits are `bits`,
and `pads` padding characters came directly before. -/
def base64From : (filled bits pads : Nat) → List Char → Option (List UInt8)
  | 0, _, _, [] => some []
  | _, _, _, [] => none
  | filled, bits, pads, c :: rest =>
    if c = '=' then
      if 2 ≤ filled then
        if 4 ≤ filled + pads + 1 then some [] else base64From filled bits (pads + 1) rest
      else base64From filled bits pads rest
    else
      match base64Value? c with
      | none => base64From filled bits pads rest
      | some v =>
        match filled with
        | 0 => base64From 1 v 0 rest
        | 1 => (UInt8.ofNat (bits * 4 + v / 16) :: ·) <$> base64From 2 (v % 16) 0 rest
        | 2 => (UInt8.ofNat (bits * 16 + v / 4) :: ·) <$> base64From 3 (v % 4) 0 rest
        | _ => (UInt8.ofNat (bits * 64 + v) :: ·) <$> base64From 0 0 0 rest

/-- The bytes of a text in base 64. -/
def base64Bytes? (cs : List Char) : Option (List UInt8) := base64From 0 0 0 cs

end PluginHarness.Text
