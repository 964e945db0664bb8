/-!
# Blank characters

The characters that count as blank at the two ends of a text: those of the Unicode property
White_Space and the four information separators `U+001C` to `U+001F`. A text is blank when it
holds nothing else; trimming removes the blanks at both ends and nothing inside.

## Main definitions

* `isBlank`: the class of blank characters.
* `trim`: a text without the blanks at its ends.
* `isBlankText`: the text has no character other than blanks.
-/

namespace PluginHarness.Text

/-- White space, including the four information separators. -/
def isBlank (c : Char) : Bool :=
  let n := c.toNat
  (9 ≤ n && n ≤ 13) || (28 ≤ n && n ≤ 32) || n == 0x85 || n == 0xA0 || n == 0x1680 ||
    (0x2000 ≤ n && n ≤ 0x200A) || n == 0x2028 || n == 0x2029 || n == 0x202F || n == 0x205F ||
    n == 0x3000

/-- The characters without the blanks at both ends. -/
def trimChars (cs : List Char) : List Char :=
  ((cs.dropWhile isBlank).reverse.dropWhile isBlank).reverse

/-- The text without the blanks at both ends. -/
def trim (s : String) : String := String.ofList (trimChars s.toList)

/-- Nothing but blanks, the empty text included. -/
def isBlankText (s : String) : Bool := s.toList.all isBlank

theorem dropWhile_eq_nil_iff_all (p : Char → Bool) (cs : List Char) :
    cs.dropWhile p = [] ↔ cs.all p = true := by
  induction cs with
  | nil => simp
  | cons c r ih => by_cases h : p c <;> simp_all [List.dropWhile]

/-- Trimming leaves nothing exactly when there was nothing but blanks. -/
theorem trimChars_eq_nil_iff (cs : List Char) : trimChars cs = [] ↔ cs.all isBlank = true := by
  constructor
  · intro h
    by_cases hd : cs.dropWhile isBlank = []
    · exact (dropWhile_eq_nil_iff_all _ _).1 hd
    · exfalso
      obtain ⟨c, r, hcr⟩ := List.exists_cons_of_ne_nil hd
      have hc : isBlank c = false := by
        have := List.head_dropWhile_not isBlank (l := cs) hd
        simpa [hcr] using this
      have hall : (cs.dropWhile isBlank).reverse.all isBlank = true := by
        apply (dropWhile_eq_nil_iff_all _ _).1
        simpa [trimChars] using h
      rw [hcr] at hall
      simp [hc] at hall
  · intro h
    have : cs.dropWhile isBlank = [] := (dropWhile_eq_nil_iff_all _ _).2 h
    simp [trimChars, this]

end PluginHarness.Text
