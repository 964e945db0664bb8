import PluginHarness.Text.Digit
import PluginHarness.Text.Printable

/-!
# Quoted text

How a text or a byte sequence is shown inside a message: between quotes, on one line, with
every character that cannot be shown written as an escape. Single quotes are used unless the
text holds a single quote and no double quote.

## Main definitions

* `quoted`: a text between quotes.
* `quotedBytes`: a byte sequence, marked with a leading `b`.
* `quotedList`: several texts, bracketed and separated by commas.
-/

namespace PluginHarness.Text

/-- The single quote. -/
def singleQuote : Char := '\x27'

/-- The double quote. -/
def doubleQuote : Char := '\x22'

/-- The backslash. -/
def backslash : Char := '\\'

/-- Double quotes when only they avoid an escape, single quotes otherwise. -/
def quoteFor (cs : List Char) : Char :=
  if cs.contains singleQuote && !cs.contains doubleQuote then doubleQuote else singleQuote

/-- One character as it stands between quotes `q`: the quote, the backslash, the three common
controls by letter, other unprintable characters by number, anything else as itself. -/
def quotedChar (q c : Char) : List Char :=
  if c = q || c = backslash then [backslash, c]
  else if c = '\n' then [backslash, 'n']
  else if c = '\r' then [backslash, 'r']
  else if c = '\t' then [backslash, 't']
  else if isPrintable c then [c]
  else if c.toNat < 0x100 then backslash :: 'x' :: hexText 2 c.toNat
  else if c.toNat < 0x10000 then backslash :: 'u' :: hexText 4 c.toNat
  else backslash :: 'U' :: hexText 8 c.toNat

/-- The characters of a text between quotes. -/
def quotedChars (cs : List Char) : List Char :=
  let q := quoteFor cs
  q :: cs.flatMap (quotedChar q) ++ [q]

/-- The text between quotes. -/
def quoted (s : String) : String := String.ofList (quotedChars s.toList)

/-- One byte as it stands between quotes `q`; bytes outside printable ASCII go by number. -/
def quotedByte (q : Char) (b : UInt8) : List Char :=
  if b < 0x80 then
    let c := Char.ofNat b.toNat
    if isPrintable c || c = '\n' || c = '\r' || c = '\t' then quotedChar q c
    else backslash :: 'x' :: hexText 2 b.toNat
  else backslash :: 'x' :: hexText 2 b.toNat

/-- A byte sequence between quotes, after the mark `b`. -/
def quotedBytes (bytes : List UInt8) : String :=
  let q := quoteFor (bytes.map fun b => Char.ofNat b.toNat)
  String.ofList ('b' :: q :: bytes.flatMap (quotedByte q) ++ [q])

/-- Quoted texts in square brackets. -/
def quotedList (xs : List String) : String :=
  "[" ++ String.intercalate ", " (xs.map quoted) ++ "]"

end PluginHarness.Text
