/-!
# Letter case

Case folding for the two places that compare names without regard to case: flag words, which
are folded down, and level names, which are folded up. Both compare against words in ASCII, so
only characters whose fold is an ASCII letter matter; all others stay as they are and make the
comparison fail.

## Main definitions

* `lower`: folds down; no character outside ASCII folds down to a letter of a flag word.
* `upper`: folds up; the dotless `ı` and the long `ſ` fold up to ASCII letters.
-/

namespace PluginHarness.Text

/-- The text with ASCII letters in lower case. -/
def lower (s : String) : String := String.ofList (s.toList.map Char.toLower)

/-- The upper-case form of a letter; `U+0131` becomes `I` and `U+017F` becomes `S`. -/
def upperChar (c : Char) : Char :=
  if c.toNat = 0x131 then 'I' else if c.toNat = 0x17F then 'S' else c.toUpper

/-- The text with its letters in upper case. -/
def upper (s : String) : String := String.ofList (s.toList.map upperChar)

end PluginHarness.Text
