import PluginHarness.Failure
import PluginHarness.Yaml.Cursor

/-!
# Scalars in a text

How the text of a scalar is read in each of its styles: plain, in single or double quotes, and as
a literal or folded block. Line breaks inside a scalar are folded: one break becomes a space, and
of several all but the first are kept. Each loop goes on over what is still to be read; its first
argument bounds the number of rounds by the number of characters left.

## Main definitions

* `Fault`: what can be wrong with a text.
* `quotedScalar`: between quotes.
* `blockScalar`: behind a block indicator.
* `plainScalar`: without any mark.
-/

namespace PluginHarness.Yaml

/-- What can be wrong with a text. -/
inductive Fault where
  | malformed
  | scalar (f : ScalarFault)
  deriving DecidableEq, Repr

/-- The same among all faults. -/
def Fault.general : Fault → PluginHarness.Fault
  | .malformed => .malformed
  | .scalar f => .scalar f

/-- A part of a text is not well formed. -/
def malformed {α : Type} : Except Fault α := .error .malformed

/-! ### Quoted scalars -/

/-- What a letter behind a backslash stands for. -/
def escapes : List (Char × Char) :=
  [('0', '\x00'), ('a', '\x07'), ('b', '\x08'), ('t', '\t'), ('\t', '\t'), ('n', '\n'),
   ('v', '\x0b'), ('f', '\x0c'), ('r', '\r'), ('e', '\x1b'), (' ', ' '), ('\x22', '\x22'),
   ('\\', '\\'), ('/', '/'), ('N', '\u0085'), ('_', '\u00a0'), ('L', '\u2028'), ('P', '\u2029')]

/-- How many hexadecimal digits follow a letter that introduces a character by its number. -/
def codeDigits? (c : Char) : Option Nat :=
  if c = 'x' then some 2 else if c = 'u' then some 4 else if c = 'U' then some 8 else none

/-- The character with this number; numbers of surrogates give the replacement character. -/
def characterOf (n : Nat) : Except Fault Char :=
  if n < 0x110000 then .ok (if n.isValidChar then Char.ofNat n else '\ufffd')
  else .error (.scalar (.codePoint n))

/-- Line breaks inside quotes, with the blanks around them. A document separator must not stand
at the beginning of a line. -/
def quotedBreaks : Nat → Cursor → Except Fault (List Char × Cursor)
  | 0, c => .ok ([], c)
  | rounds + 1, c => do
    if c.atSeparator then malformed
    else
      let c := c.skipWhile fun ch => ch == ' ' || ch == '\t'
      match c.lineBreak? with
      | none => .ok ([], c)
      | some (b, c) =>
        let (more, c) ← quotedBreaks rounds c
        .ok (b :: more, c)

/-- What one line break and those after it are folded to. -/
def folded (first : Char) (others : List Char) : List Char :=
  if first != '\n' then first :: others
  else if others.isEmpty then [' ']
  else others

/-- Blanks inside quotes, and the line breaks behind them. -/
def quotedBlanks (c : Cursor) : Except Fault (List Char × Cursor) :=
  let (blanks, c) := c.span fun ch => ch == ' ' || ch == '\t'
  if c.atEnd then malformed
  else match c.lineBreak? with
    | none => .ok (blanks, c)
    | some (b, c) => do
      let (others, c) ← quotedBreaks (c.rest.length + 1) c
      .ok (folded b others, c)

/-- An escape between double quotes; the cursor is behind the backslash. -/
def escaped (c : Cursor) : Except Fault (List Char × Cursor) :=
  match Entries.get? c.peek escapes, codeDigits? c.peek with
  | some ch, _ => if c.atEnd then malformed else .ok ([ch], c.next)
  | none, some n =>
    let digits := (c.rest.drop 1).take n
    let values := digits.filterMap Text.hexValue?
    if values.length = n then do
      let ch ← characterOf (Text.digitsValue 16 values)
      .ok ([ch], c.skip (n + 1))
    else malformed
  | none, none =>
    match c.lineBreak? with
    | none => malformed
    | some (_, c) => quotedBreaks (c.rest.length + 1) c

/-- Characters inside quotes up to a blank, a line break, the closing quote or the end. -/
def quotedSolid (double : Bool) : Nat → Cursor → Except Fault (List Char × Cursor)
  | 0, c => .ok ([], c)
  | rounds + 1, c => do
    let (solid, c) := c.span fun ch =>
      !(isGap ch || ch == '\x27' || ch == '\x22' || ch == '\\')
    let goOn := fun (part : List Char) (c : Cursor) => do
      let (more, c) ← quotedSolid double rounds c
      .ok (solid ++ part ++ more, c)
    let ch := c.peek
    if !double && ch == '\x27' && c.ahead 1 == '\x27' then goOn ['\x27'] (c.skip 2)
    else if (double && ch == '\x27') || (!double && (ch == '\x22' || ch == '\\')) then
      goOn [ch] c.next
    else if double && ch == '\\' then
      let (part, c) ← escaped c.next
      goOn part c
    else .ok (solid, c)

/-- The inside of a quoted scalar from the next blank on; ends behind the closing quote. -/
def quotedRest (double : Bool) (quote : Char) : Nat → Cursor → Except Fault (List Char × Cursor)
  | 0, _ => malformed
  | rounds + 1, c => do
    if c.peek == quote then .ok ([], c.next)
    else
      let (blanks, c) ← quotedBlanks c
      let (solid, c) ← quotedSolid double (c.rest.length + 1) c
      let (more, c) ← quotedRest double quote rounds c
      .ok (blanks ++ solid ++ more, c)

/-- A quoted scalar; the cursor is at the opening quote. -/
def quotedScalar (c : Cursor) : Except Fault (List Char × Cursor) := do
  let quote := c.peek
  let double := quote == '\x22'
  let c := c.next
  let (solid, c) ← quotedSolid double (c.rest.length + 1) c
  let (more, c) ← quotedRest double quote (c.rest.length + 1) c
  .ok (solid ++ more, c)

/-! ### Block scalars -/

/-- What happens to the line breaks at the end of a block. -/
inductive Chomping where
  /-- One is kept. -/
  | clip
  /-- All are kept. -/
  | keep
  /-- None is kept. -/
  | strip
  deriving DecidableEq, Repr

/-- The chomping that a character asks for. -/
def chomping? (c : Char) : Option Chomping :=
  if c = '+' then some .keep else if c = '-' then some .strip else none

/-- An indentation that a digit asks for; zero is refused. -/
def blockIndent (c : Cursor) : Except Fault (Option Nat × Cursor) :=
  if '0' ≤ c.peek ∧ c.peek ≤ '9' then
    if c.peek = '0' then malformed else .ok (some (c.peek.toNat - 48), c.next)
  else .ok (none, c)

/-- The header of a block behind its indicator: chomping and indentation in either order, a
comment, and a line break. -/
def blockHeader (c : Cursor) : Except Fault (Chomping × Option Nat × Cursor) := do
  let (chomp, indent, c) ← match chomping? c.peek with
    | some chomp => do
      let (indent, c) ← blockIndent c.next
      pure (chomp, indent, c)
    | none => do
      let (indent, c) ← blockIndent c
      match indent, chomping? c.peek with
      | some _, some chomp => pure (chomp, indent, c.next)
      | _, _ => pure (.clip, indent, c)
  if !isSpaceOrBreak c.peek then malformed
  else
    let c := c.skipComment
    if !isBreakOrEnd c.peek then malformed
    else .ok (chomp, indent, ((c.lineBreak?).map Prod.snd).getD c)

/-- The line breaks before the first line of a block, and the greatest indentation of those
lines. -/
def blockLead : Nat → Nat → Cursor → List Char × Nat × Cursor
  | 0, most, c => ([], most, c)
  | rounds + 1, most, c =>
    if c.peek == ' ' then
      let c := c.next
      blockLead rounds (max most c.column) c
    else match c.lineBreak? with
      | none => ([], most, c)
      | some (b, c) =>
        let (others, most, c) := blockLead rounds most c
        (b :: others, most, c)

/-- Goes on over spaces up to a column. -/
def skipIndent (indent : Nat) (c : Cursor) : Cursor :=
  let spaces := (c.rest.takeWhile (· == ' ')).length
  c.skip (min spaces (indent - c.column))

/-- The line breaks before the next line of a block. -/
def blockBreaks (indent : Nat) : Nat → Cursor → List Char × Cursor
  | 0, c => ([], c)
  | rounds + 1, c =>
    let c := skipIndent indent c
    match c.lineBreak? with
    | none => ([], c)
    | some (b, c) =>
      let (others, c) := blockBreaks indent rounds c
      (b :: others, c)

/-- The lines of a block. `before` are the line breaks before the next line. Gives the text, the
line break that ends it, and the line breaks behind that. -/
def blockLines (fold : Bool) (indent : Nat) : Nat → (before : List Char) → Cursor →
    List Char × List Char × List Char × Cursor
  | 0, before, c => ([], [], before, c)
  | rounds + 1, before, c =>
    let solid := c.peek != ' ' && c.peek != '\t'
    let (line, c) := c.span fun ch => !isBreak ch
    let (ending, c) := match c.lineBreak? with
      | some (b, c) => ([b], c)
      | none => ([], c)
    let (after, c) := blockBreaks indent (c.rest.length + 1) c
    if c.column == indent && !c.atEnd then
      let joint :=
        if fold && ending == ['\n'] && solid && c.peek != ' ' && c.peek != '\t' then
          if after.isEmpty then [' '] else []
        else ending
      let (text, ending, after, c) := blockLines fold indent rounds after c
      (before ++ line ++ joint ++ text, ending, after, c)
    else (before ++ line, ending, after, c)

/-- A block scalar inside a block with indentation `outer`; the cursor is at its indicator. -/
def blockScalar (outer : Int) (c : Cursor) : Except Fault (List Char × Cursor) := do
  let fold := c.peek == '>'
  let (chomp, increment, c) ← blockHeader c.next
  let least := (max (outer + 1) 1).toNat
  let (before, indent, c) := match increment with
    | none =>
      let (before, most, c) := blockLead (c.rest.length + 1) 0 c
      (before, max least most, c)
    | some n =>
      let indent := least + n - 1
      let (before, c) := blockBreaks indent (c.rest.length + 1) c
      (before, indent, c)
  let (text, ending, after, c) :=
    if c.column == indent && !c.atEnd then blockLines fold indent (c.rest.length + 1) before c
    else ([], [], before, c)
  .ok (match chomp with
    | .strip => text
    | .clip => text ++ ending
    | .keep => text ++ ending ++ after, c)

/-! ### Plain scalars -/

/-- The characters that end a plain scalar inside brackets. -/
def endsPlainInFlow (c : Char) : Bool :=
  c == ',' || c == '?' || c == '[' || c == ']' || c == '\x7b' || c == '\x7d'

/-- The characters that make a colon before them end a plain scalar inside brackets. -/
def followsColonInFlow (c : Char) : Bool :=
  c == ',' || c == '[' || c == ']' || c == '\x7b' || c == '\x7d'

/-- The solid part of a plain scalar at the front of a text. -/
def plainSolid (flow : Bool) : List Char → List Char
  | [] => []
  | ch :: rest =>
    let after := rest.headD endMark
    if isGap ch then []
    else if ch == ':' && (isGap after || (flow && followsColonInFlow after)) then []
    else if flow && endsPlainInFlow ch then []
    else ch :: plainSolid flow rest

/-- Line breaks and spaces inside a plain scalar; none at a document separator. -/
def plainBreaks : Nat → Cursor → Option (List Char) × Cursor
  | 0, c => (some [], c)
  | rounds + 1, c =>
    if c.peek == ' ' then plainBreaks rounds c.next
    else match c.lineBreak? with
      | none => (some [], c)
      | some (b, c) =>
        if c.atSeparator then (none, c)
        else
          let (others, c) := plainBreaks rounds c
          (others.map (b :: ·), c)

/-- What separates two solid parts of a plain scalar; empty when the scalar ends here. The flag
says whether a line break was passed. -/
def plainGap (c : Cursor) : List Char × Bool × Cursor :=
  let (spaces, c) := c.span (· == ' ')
  match c.lineBreak? with
  | none => (spaces, false, c)
  | some (b, c) =>
    if c.atSeparator then ([], true, c)
    else
      match plainBreaks (c.rest.length + 1) c with
      | (none, c) => ([], true, c)
      | (some others, c) => (folded b others, true, c)

/-- A plain scalar inside a block with indentation `outer`. The flag says whether a line break
stands behind the last solid part. -/
def plainScalar (flow : Bool) (outer : Int) : Nat → (gap : List Char) → (broken : Bool) →
    Cursor → List Char × Bool × Cursor
  | 0, _, broken, c => ([], broken, c)
  | rounds + 1, gap, broken, c =>
    let solid := plainSolid flow c.rest
    if c.peek == '#' || solid.isEmpty then ([], broken, c)
    else
      let (after, broken, c) := plainGap (c.skip solid.length)
      if after.isEmpty || c.peek == '#' || (!flow && (c.column : Int) < outer + 1) then
        (gap ++ solid, broken, c)
      else
        let (more, broken, c) := plainScalar flow outer rounds after broken c
        (gap ++ solid ++ more, broken, c)

end PluginHarness.Yaml
