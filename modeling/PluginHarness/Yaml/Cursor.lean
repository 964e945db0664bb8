/-!
# Reading positions

A cursor is a place in a text: what is still to be read, and where that is. Line breaks are the
carriage return with or without a newline after it, the newline, the next-line character and the
two Unicode separators. The byte order mark takes no column.

Behind the end a cursor shows the null character, which no text may contain.

## Main definitions

* `Cursor`: a place in a text.
* `Cursor.peek`, `Cursor.ahead`: the next character and those after it.
* `Cursor.next`, `Cursor.skip`, `Cursor.span`: going on.
* `Cursor.lineBreak?`: reading a line break.
-/

namespace PluginHarness.Yaml

/-- A place in a text. -/
structure Cursor where
  rest : List Char
  index : Nat
  line : Nat
  column : Nat
  deriving Repr

/-- What a cursor shows behind the end. -/
def endMark : Char := '\x00'

/-- A character that breaks a line. -/
def isBreak (c : Char) : Bool :=
  c == '\r' || c == '\n' || c.toNat == 0x85 || c.toNat == 0x2028 || c.toNat == 0x2029

/-- A line break or the end. -/
def isBreakOrEnd (c : Char) : Bool := c == endMark || isBreak c

/-- A space, a tab, a line break or the end: what separates tokens. -/
def isGap (c : Char) : Bool := c == ' ' || c == '\t' || isBreakOrEnd c

/-- A space, a line break or the end. -/
def isSpaceOrBreak (c : Char) : Bool := c == ' ' || isBreakOrEnd c

namespace Cursor

/-- The beginning of a text. -/
def ofText (text : List Char) : Cursor := ⟨text, 0, 0, 0⟩

/-- The next character. -/
def peek (c : Cursor) : Char := c.rest.headD endMark

/-- The character `k` places after the next one. -/
def ahead (c : Cursor) (k : Nat) : Char := (c.rest.drop k).headD endMark

/-- Whether everything is read. -/
def atEnd (c : Cursor) : Bool := c.rest.isEmpty

/-- Goes on by one character. -/
def next (c : Cursor) : Cursor :=
  match c.rest with
  | [] => c
  | ch :: rest =>
    if ch = '\r' && rest.headD endMark == '\n' then ⟨rest, c.index + 1, c.line, c.column + 1⟩
    else if isBreak ch then ⟨rest, c.index + 1, c.line + 1, 0⟩
    else if ch.toNat = 0xFEFF then ⟨rest, c.index + 1, c.line, c.column⟩
    else ⟨rest, c.index + 1, c.line, c.column + 1⟩

/-- Goes on by `n` characters. -/
def skip : Nat → Cursor → Cursor
  | 0, c => c
  | n + 1, c => skip n c.next

/-- Goes on while `p` holds, at most to the end; gives what was passed. -/
def span (p : Char → Bool) (c : Cursor) : List Char × Cursor :=
  let passed := c.rest.takeWhile p
  (passed, c.skip passed.length)

/-- Goes on while `p` holds. -/
def skipWhile (p : Char → Bool) (c : Cursor) : Cursor := (c.span p).2

/-- Goes on to the end of the line. -/
def skipLine (c : Cursor) : Cursor := c.skipWhile fun ch => !isBreak ch

/-- Goes on behind spaces and, if one follows, to the end of a comment. -/
def skipComment (c : Cursor) : Cursor :=
  let c := c.skipWhile (· == ' ')
  if c.peek == '#' then c.skipLine else c

/-- Reads a line break: the separators stand for themselves, all others for a newline. -/
def lineBreak? (c : Cursor) : Option (Char × Cursor) :=
  match c.rest with
  | '\r' :: '\n' :: _ => some ('\n', c.skip 2)
  | ch :: _ =>
    if ch.toNat == 0x2028 || ch.toNat == 0x2029 then some (ch, c.next)
    else if isBreak ch then some ('\n', c.next)
    else none
  | [] => none

/-- Whether three of this character stand here and a gap behind them. -/
def atSeparatorOf (ch : Char) (c : Cursor) : Bool :=
  c.rest.take 3 == [ch, ch, ch] && isGap (c.ahead 3)

/-- Whether a document separator stands here. -/
def atSeparator (c : Cursor) : Bool := c.atSeparatorOf '-' || c.atSeparatorOf '.'

end Cursor

end PluginHarness.Yaml
