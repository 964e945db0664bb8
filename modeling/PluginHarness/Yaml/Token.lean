import PluginHarness.Yaml.Scalar

/-!
# Tokens of a text

A text is a sequence of tokens. Blocks are marked by indentation, so the reader adds a token
where a block begins and one where it ends. That a token is a key is seen only at the colon
behind it: the reader remembers, for each level of brackets, where a key may have begun, and puts
the mark of a key there when the colon comes. Such a key has to end on its line and within 1024
characters; one that begins a line at the indentation of its block has to be a key.

## Main definitions

* `Token`: the tokens.
* `Reader`: where the reader stands.
* `tokensOf`: the tokens of a text.
-/

namespace PluginHarness.Yaml

/-- What a directive says. -/
inductive Directive where
  /-- The major version of the format. -/
  | version (major : Nat)
  /-- What a tag handle stands for. -/
  | handle (handle stem : String)
  | other
  deriving DecidableEq, Repr

/-- A token. -/
inductive Token where
  | directive (d : Directive)
  | documentStart
  | documentEnd
  | streamEnd
  | blockSequenceStart
  | blockMappingStart
  | blockEnd
  | flowSequenceStart
  | flowSequenceEnd
  | flowMappingStart
  | flowMappingEnd
  | key
  | value
  | blockEntry
  | flowEntry
  | alias (name : String)
  | anchor (name : String)
  | tag (handle : Option String) (suffix : String)
  | scalar (text : String) (plain : Bool)
  deriving DecidableEq, Repr

/-- A place where a key may have begun. -/
structure KeyCandidate where
  /-- How many tokens were before it. -/
  position : Nat
  /-- It has to be a key. -/
  required : Bool
  index : Nat
  line : Nat
  column : Nat
  deriving Repr

/-- Where the reader stands. -/
structure Reader where
  cursor : Cursor
  /-- How many brackets are open. -/
  depth : Nat
  /-- The indentation of the current block; -1 outside of all blocks. -/
  indent : Int
  /-- The indentations of the blocks around it. -/
  outer : List Int
  /-- Whether a key may begin here. -/
  keyAllowed : Bool
  /-- The candidates by depth. -/
  candidates : List (Nat × KeyCandidate)
  /-- The tokens so far, the last one first. -/
  tokens : List Token
  count : Nat

namespace Reader

/-- The reader at the beginning of a text. -/
def ofText (text : List Char) : Reader :=
  ⟨.ofText text, 0, -1, [], true, [], [], 0⟩

/-- Adds a token at the end. -/
def push (t : Token) (r : Reader) : Reader :=
  { r with tokens := t :: r.tokens, count := r.count + 1 }

/-- Adds a token behind the first `position` ones. -/
def insertAt (position : Nat) (t : Token) (r : Reader) : Reader :=
  let behind := r.count - position
  { r with
    tokens := r.tokens.take behind ++ t :: r.tokens.drop behind
    count := r.count + 1 }

/-- Goes on to another place. -/
def moveTo (c : Cursor) (r : Reader) : Reader := { r with cursor := c }

/-- Ends the blocks that are indented deeper than `column`; `rounds` bounds their number. -/
def endBlocksFrom (column : Int) : Nat → Reader → Reader
  | 0, r => r
  | rounds + 1, r =>
    if column < r.indent then
      endBlocksFrom column rounds
        (push .blockEnd { r with indent := r.outer.headD (-1), outer := r.outer.drop 1 })
    else r

/-- Ends the blocks that are indented deeper than `column`; inside brackets there are none. -/
def endBlocks (column : Int) (r : Reader) : Reader :=
  if r.depth ≠ 0 then r else endBlocksFrom column (r.outer.length + 1) r

/-- Begins a block at a column, unless one with at least this indentation is open. -/
def deepen? (column : Int) (r : Reader) : Option Reader :=
  if r.indent < column then some { r with indent := column, outer := r.indent :: r.outer }
  else none

/-- Drops the candidates that cannot become keys any more. -/
def dropStale (r : Reader) : Except Fault Reader :=
  let stale := fun k : KeyCandidate =>
    k.line != r.cursor.line || 1024 < r.cursor.index - k.index
  if r.candidates.any fun k => stale k.2 && k.2.required then malformed
  else .ok { r with candidates := r.candidates.filter fun k => !stale k.2 }

/-- Drops the candidate of the current depth. -/
def dropCandidate (r : Reader) : Except Fault Reader :=
  if r.candidates.any fun k => k.1 == r.depth && k.2.required then malformed
  else .ok { r with candidates := r.candidates.filter fun k => k.1 != r.depth }

/-- Remembers that a key may begin here. -/
def addCandidate (r : Reader) : Except Fault Reader :=
  if !r.keyAllowed then .ok r
  else do
    let required := r.depth == 0 && r.indent == r.cursor.column
    let r ← r.dropCandidate
    let k := ⟨r.count, required, r.cursor.index, r.cursor.line, r.cursor.column⟩
    .ok { r with candidates := (r.depth, k) :: r.candidates }

/-- Allows or forbids a key at the next token. -/
def allowKey (allowed : Bool) (r : Reader) : Reader := { r with keyAllowed := allowed }

/-! ### Blanks, directives and separators -/

/-- Goes on behind blanks, comments and line breaks. A line break outside brackets allows a
key. -/
def skipBlanks : Nat → Reader → Reader
  | 0, r => r
  | rounds + 1, r =>
    let c := r.cursor.skipComment
    match c.lineBreak? with
    | some (_, c) =>
      skipBlanks rounds { r with cursor := c, keyAllowed := r.keyAllowed || r.depth == 0 }
    | none => { r with cursor := c }

/-- Goes on to the next token; a byte order mark at the very beginning is passed. -/
def toToken (r : Reader) : Reader :=
  let c := r.cursor
  let c := if c.index = 0 && c.peek.toNat = 0xFEFF then c.next else c
  skipBlanks (c.rest.length + 1) (r.moveTo c)

/-- A character of a name: an ASCII letter, a digit, a hyphen or an underscore. -/
def isNameChar (c : Char) : Bool := c.isAlphanum || c == '-' || c == '_'

/-- Reads a nonempty name. -/
def name (c : Cursor) : Except Fault (String × Cursor) :=
  let (cs, c) := c.span isNameChar
  if cs.isEmpty then malformed else .ok (String.ofList cs, c)

/-- Reads a number in decimal. -/
def number (c : Cursor) : Except Fault (Nat × Cursor) :=
  let (cs, c) := c.span Char.isDigit
  if cs.isEmpty then malformed
  else if Literal.maxIntegerDigits < cs.length then .error (.scalar (.integerTooLong cs.length))
  else .ok (Text.digitsValue 10 (cs.filterMap Text.hexValue?), c)

/-- The version behind a version directive. -/
def version (c : Cursor) : Except Fault (Nat × Cursor) := do
  let (major, c) ← number (c.skipWhile (· == ' '))
  if c.peek != '.' then malformed
  else
    let (_, c) ← number c.next
    if isSpaceOrBreak c.peek then .ok (major, c) else malformed

/-- A tag handle: `!`, or a name between two of them. -/
def tagHandle (c : Cursor) : Except Fault (String × Cursor) :=
  if c.peek != '!' then malformed
  else if c.ahead 1 == ' ' then .ok ("!", c.next)
  else
    let (cs, after) := c.next.span isNameChar
    if after.peek == '!' then .ok (String.ofList ('!' :: cs ++ ['!']), after.next) else malformed

/-- A character of a tag that stands for itself. -/
def isUriChar (c : Char) : Bool := c.isAlphanum || "-;/?:@&=+$,_.!~*\x27()[]".toList.contains c

/-- Bytes by their hexadecimal values, each behind a percent sign. -/
def escapedBytes : Nat → Cursor → Except Fault (List UInt8 × Cursor)
  | 0, c => .ok ([], c)
  | rounds + 1, c =>
    if c.peek != '%' then .ok ([], c)
    else match Text.hexValue? (c.ahead 1), Text.hexValue? (c.ahead 2) with
      | some a, some b => do
        let (more, c) ← escapedBytes rounds (c.skip 3)
        .ok (UInt8.ofNat (a * 16 + b) :: more, c)
      | _, _ => malformed

/-- Parts of a tag: characters that stand for themselves, and characters by their bytes. -/
def uriParts : Nat → Cursor → Except Fault (List (List Char) × Cursor)
  | 0, c => .ok ([], c)
  | rounds + 1, c =>
    if c.peek == '%' then do
      let (bytes, c) ← escapedBytes (c.rest.length + 1) c
      match Text.decode bytes with
      | .error _ => malformed
      | .ok cs =>
        let (more, c) ← uriParts rounds c
        .ok (cs :: more, c)
    else
      let (cs, c) := c.span isUriChar
      if cs.isEmpty then .ok ([], c)
      else do
        let (more, c) ← uriParts rounds c
        .ok (cs :: more, c)

/-- Reads a nonempty part of a tag. -/
def uri (c : Cursor) : Except Fault (String × Cursor) := do
  let (parts, c) ← uriParts (c.rest.length + 1) c
  if parts.isEmpty then malformed else .ok (String.ofList parts.flatten, c)

/-- A directive; the cursor is at its percent sign. -/
def directive (c : Cursor) : Except Fault (Directive × Cursor) := do
  let (name, c) ← name c.next
  if !isSpaceOrBreak c.peek then malformed
  else
    let (d, c) ←
      if name = "YAML" then do
        let (major, c) ← version c
        pure (Directive.version major, c)
      else if name = "TAG" then do
        let (handle, c) ← tagHandle (c.skipWhile (· == ' '))
        if c.peek != ' ' then malformed
        else
          let (stem, c) ← uri (c.skipWhile (· == ' '))
          if isSpaceOrBreak c.peek then pure (Directive.handle handle stem, c) else malformed
      else pure (Directive.other, c.skipLine)
    let c := c.skipComment
    if isBreakOrEnd c.peek then .ok (d, ((c.lineBreak?).map Prod.snd).getD c) else malformed

/-- Ends all blocks, as before a directive or a separator. -/
def endAll (r : Reader) : Except Fault Reader := do
  let r ← (r.endBlocks (-1)).dropCandidate
  .ok (r.allowKey false)

/-! ### Tokens -/

/-- A token of one character. -/
def single (t : Token) (r : Reader) : Reader := (r.push t).moveTo r.cursor.next

/-- An opening bracket. -/
def opening (t : Token) (r : Reader) : Except Fault Reader := do
  let r ← r.addCandidate
  .ok (({ r with depth := r.depth + 1 }).allowKey true |>.single t)

/-- A closing bracket; one that closes nothing is refused. -/
def closing (t : Token) (r : Reader) : Except Fault Reader := do
  let r ← r.dropCandidate
  if r.depth = 0 then malformed
  else .ok (({ r with depth := r.depth - 1 }).allowKey false |>.single t)

/-- The comma between entries in brackets. -/
def comma (r : Reader) : Except Fault Reader := do
  let r ← (r.allowKey true).dropCandidate
  .ok (r.single .flowEntry)

/-- The hyphen before an entry of a block, which may begin the block. -/
def hyphen (r : Reader) : Except Fault Reader := do
  if r.depth = 0 && !r.keyAllowed then malformed
  else
    let r := if r.depth ≠ 0 then r
      else match r.deepen? r.cursor.column with
        | some r => r.push .blockSequenceStart
        | none => r
    let r ← (r.allowKey true).dropCandidate
    .ok (r.single .blockEntry)

/-- The question mark before a key, which may begin a block. -/
def questionMark (r : Reader) : Except Fault Reader := do
  if r.depth = 0 && !r.keyAllowed then malformed
  else
    let r := if r.depth ≠ 0 then r
      else match r.deepen? r.cursor.column with
        | some r => r.push .blockMappingStart
        | none => r
    let r ← (r.allowKey (r.depth == 0)).dropCandidate
    .ok (r.single .key)

/-- The colon before a value. If there is a candidate for the key, the key is marked, and a block
begins where it began. -/
def colon (r : Reader) : Except Fault Reader := do
  match r.candidates.find? fun k => k.1 == r.depth with
  | some (_, k) =>
    let r := { r with candidates := r.candidates.filter fun k => k.1 != r.depth }
    let r := r.insertAt k.position .key
    let r := if r.depth ≠ 0 then r
      else match r.deepen? k.column with
        | some r => r.insertAt k.position .blockMappingStart
        | none => r
    .ok ((r.allowKey false).single .value)
  | none =>
    if r.depth = 0 && !r.keyAllowed then malformed
    else
      let r := if r.depth ≠ 0 then r
        else match r.deepen? r.cursor.column with
          | some r => r.push .blockMappingStart
          | none => r
      let r ← (r.allowKey (r.depth == 0)).dropCandidate
      .ok (r.single .value)

/-- A token that may be a key and forbids one behind it. -/
def possibleKey (read : Cursor → Except Fault (Token × Cursor)) (r : Reader) :
    Except Fault Reader := do
  let r ← r.addCandidate
  let (t, c) ← read r.cursor
  .ok (((r.allowKey false).push t).moveTo c)

/-- The name behind the mark of an anchor or an alias. -/
def reference (make : String → Token) (c : Cursor) : Except Fault (Token × Cursor) := do
  let (name, c) ← name c.next
  let ch := c.peek
  if isGap ch || "?:,]\x7d%@\x60".toList.contains ch then .ok (make name, c) else malformed

/-- A tag: in angle brackets, alone, or a handle with a suffix. -/
def tag (c : Cursor) : Except Fault (Token × Cursor) := do
  let ch := c.ahead 1
  let (t, c) ←
    if ch == '<' then do
      let (suffix, c) ← uri (c.skip 2)
      if c.peek == '>' then pure (Token.tag none suffix, c.next) else malformed
    else if isGap ch then pure (Token.tag none "!", c.next)
    else
      -- a second exclamation mark before the next space makes a handle
      let word := c.next.rest.takeWhile fun ch => !isSpaceOrBreak ch
      if word.contains '!' then do
        let (handle, c) ← tagHandle c
        let (suffix, c) ← uri c
        pure (Token.tag (some handle) suffix, c)
      else do
        let (suffix, c) ← uri c.next
        pure (Token.tag (some "!") suffix, c)
  if isSpaceOrBreak c.peek then .ok (t, c) else malformed

/-- A quoted scalar as a token. -/
def quoted (c : Cursor) : Except Fault (Token × Cursor) := do
  let (text, c) ← quotedScalar c
  .ok (.scalar (String.ofList text) false, c)

/-- A block scalar, behind which a key may follow. -/
def block (r : Reader) : Except Fault Reader := do
  let r ← (r.allowKey true).dropCandidate
  let (text, c) ← blockScalar r.indent r.cursor
  .ok ((r.push (.scalar (String.ofList text) false)).moveTo c)

/-- A plain scalar, behind which a key may follow if a line break ended it. -/
def plain (r : Reader) : Except Fault Reader := do
  let r ← r.addCandidate
  let (text, broken, c) :=
    plainScalar (r.depth != 0) r.indent (r.cursor.rest.length + 1) [] false r.cursor
  .ok (((r.allowKey broken).push (.scalar (String.ofList text) true)).moveTo c)

/-- The characters that cannot begin a plain scalar, or only before a solid character. -/
def indicators : List Char := "-?:,[]\x7b\x7d#&*!|>\x27\x22%@\x60".toList

/-- Whether a plain scalar may begin here. -/
def beginsPlain (r : Reader) : Bool :=
  let ch := r.cursor.peek
  !(isGap ch || indicators.contains ch) ||
    (!isGap (r.cursor.ahead 1) && (ch == '-' || (r.depth == 0 && (ch == '?' || ch == ':'))))

/-- Reads the token that begins here. -/
def token (r : Reader) : Except Fault Reader :=
  let c := r.cursor
  let ch := c.peek
  let gapBehind := isGap (c.ahead 1)
  if ch == '%' && c.column == 0 then do
    let r ← r.endAll
    let (d, c) ← directive c
    .ok ((r.push (.directive d)).moveTo c)
  else if c.column == 0 && c.atSeparatorOf '-' then do
    let r ← r.endAll
    .ok ((r.push .documentStart).moveTo (c.skip 3))
  else if c.column == 0 && c.atSeparatorOf '.' then do
    let r ← r.endAll
    .ok ((r.push .documentEnd).moveTo (c.skip 3))
  else if ch == '[' then r.opening .flowSequenceStart
  else if ch == '\x7b' then r.opening .flowMappingStart
  else if ch == ']' then r.closing .flowSequenceEnd
  else if ch == '\x7d' then r.closing .flowMappingEnd
  else if ch == ',' then r.comma
  else if ch == '-' && gapBehind then r.hyphen
  else if ch == '?' && (r.depth ≠ 0 || gapBehind) then r.questionMark
  else if ch == ':' && (r.depth ≠ 0 || gapBehind) then r.colon
  else if ch == '*' then r.possibleKey (reference .alias)
  else if ch == '&' then r.possibleKey (reference .anchor)
  else if ch == '!' then r.possibleKey tag
  else if (ch == '|' || ch == '>') && r.depth = 0 then r.block
  else if ch == '\x27' || ch == '\x22' then r.possibleKey quoted
  else if r.beginsPlain then r.plain
  else malformed

/-- Reads tokens to the end of the text. -/
def readAll (rounds : Nat) (r : Reader) : Except Fault (List Token) :=
  match rounds with
  | 0 => malformed
  | rounds + 1 => do
    let r ← r.toToken.dropStale
    let r := r.endBlocks r.cursor.column
    if r.cursor.atEnd then
      let r ← r.endAll
      .ok (r.push .streamEnd).tokens.reverse
    else readAll rounds (← r.token)

end Reader

/-- The characters that a text may contain. -/
def isAllowed (c : Char) : Bool :=
  let n := c.toNat
  n == 9 || n == 10 || n == 13 || (0x20 ≤ n && n ≤ 0x7E) || n == 0x85 ||
    (0xA0 ≤ n && n ≤ 0xFFFD) || 0x10000 ≤ n

/-- The tokens of a text. -/
def tokensOf (text : List Char) : Except Fault (List Token) :=
  if text.all isAllowed then (Reader.ofText text).readAll (text.length + 1) else malformed

end PluginHarness.Yaml
