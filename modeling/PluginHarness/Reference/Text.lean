import PluginHarness.Document
import PluginHarness.Number.Literal

/-!
# References in texts

A text of a configuration file may refer to other values: `$` and braces around a path of keys,
or around the name of a source and its arguments. Backslashes in front of a reference escape it,
and themselves.

The readers give what they read and what follows; none means that the text is not well formed.
Their first argument bounds the nesting and the length, and the number of characters is enough.

## Main definitions

* `Piece`, `Reference`, `SourceArgument`: a text with references, a reference, an argument.
* `Reference.piecesOf?`: the pieces of a text.
* `Reference.mentionedIn`: whether a text may hold a reference.
* `Reference.isSimpleText`: a form of text that is accepted without reading it in full.
-/

namespace PluginHarness

mutual

/-- A part of a text. -/
inductive Piece where
  | chars (cs : List Char)
  | reference (r : Reference)

/-- A reference to another value. -/
inductive Reference where
  /-- A path of keys as it is written. -/
  | path (pieces : List Piece)
  /-- A source with its arguments. -/
  | source (name : List Piece) (args : List SourceArgument)

/-- An argument of a source. -/
inductive SourceArgument where
  | value (d : Document)
  /-- A text in quotes or of several parts. -/
  | text (pieces : List Piece)
  /-- A reference alone, which keeps its kind. -/
  | reference (r : Reference)
  | list (items : List SourceArgument)
  | map (entries : List (Document × SourceArgument))

end

namespace Reference

/-! ### Characters -/

/-- A space or a tab. -/
def isInnerBlank (c : Char) : Bool := c == ' ' || c == '\t'

/-- What follows spaces and tabs. -/
def skipInnerBlanks (cs : List Char) : List Char := cs.dropWhile isInnerBlank

/-- A character of a key: not one that has a meaning inside a reference. -/
def isKeyChar (c : Char) : Bool :=
  !("\\\x7b\x7d()[]:. \t\x27\x22".toList.contains c)

/-- A key that can be a part of the name of a source. -/
def isName (cs : List Char) : Bool :=
  match cs with
  | c :: rest =>
    (c.isAlpha || c == '_') && rest.all fun c => c.isAlphanum || c == '_' || c == '-'
  | [] => false

/-- A character that stands for itself in an argument without quotes. -/
def isWordChar (c : Char) : Bool :=
  c.isAlphanum || c == '_' || c == ':' || isInnerBlank c || "/-\\+.$%*@?|".toList.contains c

/-- A character that a backslash escapes in an argument without quotes. -/
def isEscapable (c : Char) : Bool := "\\()[]\x7b\x7d:=, \t".toList.contains c

/-! ### Words -/

/-- Digits with single underscores between them, beginning with a digit. -/
def isGroupedDigits : List Char → Bool
  | d :: '_' :: e :: rest => d.isDigit && e.isDigit && isGroupedDigits (e :: rest)
  | d :: rest => d.isDigit && (rest.isEmpty || isGroupedDigits rest)
  | [] => false

/-- A whole number without leading zeros. -/
def isWhole (cs : List Char) : Bool :=
  cs == ['0'] || (isGroupedDigits cs && cs.head? != some '0')

/-- A number with a point. -/
def isPointed (cs : List Char) : Bool :=
  match Literal.splitAtFirst (· == '.') cs with
  | (whole, some fraction) =>
    (whole.isEmpty || isWhole whole) && (fraction.isEmpty || isGroupedDigits fraction) &&
      !(whole.isEmpty && fraction.isEmpty)
  | _ => false

/-- A floating point number without its sign. -/
def isFloating (cs : List Char) : Bool :=
  let word := String.ofList (cs.map Char.toLower)
  isPointed cs || word == "inf" || word == "nan" ||
  match Literal.splitAtFirst (fun c => c == 'e' || c == 'E') cs with
  | (mantissa, some exponent) =>
    (isWhole mantissa || isPointed mantissa) && isGroupedDigits (Literal.splitSign exponent).2
  | _ => false

/-- The value of a word without quotes. -/
def wordValue (cs : List Char) : Document :=
  let word := String.ofList (cs.map Char.toLower)
  let magnitude := (Literal.splitSign cs).2
  if word == "true" then .bool true
  else if word == "false" then .bool false
  else if word == "null" then .null
  else if isWhole magnitude then
    match Literal.readInteger 10 cs with
    | .ok i => .int i
    | .error _ => .text (String.ofList cs)
  else if isFloating magnitude then
    match Literal.readFloat? cs with
    | some x => .float x
    | none => .text (String.ofList cs)
  else .text (String.ofList cs)

/-! ### Paths -/

/-- A part of what stands inside a reference before any colon. -/
inductive PathToken where
  | dot
  | opening
  | closing
  | key (cs : List Char)
  | nested (r : Reference)

namespace PathToken

/-- The token as a piece of the path. -/
def piece : PathToken → Piece
  | .dot => .chars ['.']
  | .opening => .chars ['[']
  | .closing => .chars [']']
  | .key cs => .chars cs
  | .nested r => .reference r

/-- The token is a key or a reference that gives one. -/
def isKey : PathToken → Bool
  | .key _ | .nested _ => true
  | _ => false

end PathToken

/-- Keys behind dots or in brackets. -/
def isPathRest : List PathToken → Bool
  | [] => true
  | .dot :: k :: rest => k.isKey && isPathRest rest
  | .opening :: k :: .closing :: rest => k.isKey && isPathRest rest
  | _ => false

/-- Dots, a key, and keys behind dots or in brackets. -/
def isPath : List PathToken → Bool
  | .dot :: rest => isPath rest
  | .opening :: k :: .closing :: rest => k.isKey && isPathRest rest
  | k :: rest => k.isKey && isPathRest rest
  | [] => false

/-- Names with dots between them. -/
def isSourceName : List PathToken → Bool
  | [] => false
  | k :: rest =>
    (match k with
     | .key cs => isName cs
     | .nested _ => true
     | _ => false) &&
    match rest with
    | [] => true
    | .dot :: rest => isSourceName rest
    | _ => false

/-! ### Readers -/

/-- Puts a character in front of the pieces. -/
def consChar (c : Char) : List Piece → List Piece
  | .chars cs :: rest => .chars (c :: cs) :: rest
  | pieces => .chars [c] :: pieces

/-- Puts characters in front of the pieces. -/
def consChars (cs : List Char) (pieces : List Piece) : List Piece := cs.foldr consChar pieces

/-- A word in the making: characters, of which the escaped ones are marked, and references. -/
abbrev WordPart := (Char × Bool) ⊕ Reference

/-- A word without the blanks at its end, unless they are escaped. -/
def dropFinalBlanks (parts : List WordPart) : List WordPart :=
  (parts.reverse.dropWhile fun p => match p with
    | .inl (c, escaped) => isInnerBlank c && !escaped
    | .inr _ => false).reverse

/-- The argument that a word is. -/
def wordArgument? (parts : List WordPart) : Option SourceArgument :=
  let plain? : Option (List Char) := parts.mapM fun p => match p with
    | .inl (c, false) => some c
    | _ => none
  match parts, plain? with
  | [], _ => none
  | [.inr r], _ => some (.reference r)
  | _, some cs => some (.value (wordValue cs))
  | _, none =>
    some (.text (parts.foldr (fun p pieces => match p with
      | .inl (c, _) => consChar c pieces
      | .inr r => .reference r :: pieces) []))

mutual

/-- A text up to its end, or up to the quote that closes it. -/
def readText? : Nat → (quote : Option Char) → List Char → Option (List Piece × List Char)
  | 0, _, _ => none
  | depth + 1, quote, cs => do
    let slashes := (cs.takeWhile (· == '\\')).length
    let half := List.replicate (slashes / 2) '\\'
    let rest := cs.drop slashes
    let isOdd := slashes % 2 == 1
    match rest with
    | [] => if quote.isSome then none else return (consChars cs [], [])
    | '$' :: '\x7b' :: inner =>
      if isOdd then
        let (more, rest) ← readText? depth quote inner
        return (consChars (half ++ ['$', '\x7b']) more, rest)
      else
        let (r, rest) ← read? depth (skipInnerBlanks inner)
        let (more, rest) ← readText? depth quote rest
        return (consChars half (.reference r :: more), rest)
    | c :: behind =>
      if quote = some c then
        if isOdd then
          let (more, rest) ← readText? depth quote behind
          return (consChars (half ++ [c]) more, rest)
        else return (consChars half [], behind)
      else
        let (more, rest) ← readText? depth quote behind
        return (consChars (List.replicate slashes '\\' ++ [c]) more, rest)

/-- What stands inside a reference up to its colon or its end; the flag says which. -/
def readPath? : Nat → List Char → Option (List PathToken × Bool × List Char)
  | 0, _ => none
  | depth + 1, cs => do
    let goOn := fun (t : PathToken) (rest : List Char) => do
      let (more, colon, rest) ← readPath? depth rest
      return (t :: more, colon, rest)
    match cs with
    | [] => none
    | '$' :: '\x7b' :: inner =>
      let (r, rest) ← read? depth (skipInnerBlanks inner)
      goOn (.nested r) rest
    | '.' :: rest => goOn .dot rest
    | '[' :: rest => goOn .opening rest
    | ']' :: rest => goOn .closing rest
    | ':' :: rest => return ([], true, skipInnerBlanks rest)
    | c :: rest =>
      if isKeyChar c then
        goOn (.key (cs.takeWhile isKeyChar)) (cs.dropWhile isKeyChar)
      else match skipInnerBlanks (c :: rest) with
        | '\x7d' :: rest => return ([], false, rest)
        | _ => none

/-- A reference behind its opening brace. -/
def read? : Nat → List Char → Option (Reference × List Char)
  | 0, _ => none
  | depth + 1, cs => do
    let (tokens, colon, rest) ← readPath? depth cs
    let pieces := tokens.map PathToken.piece
    if colon then
      if !isSourceName tokens then none
      let (args, rest) ← readArguments? depth '\x7d' true true rest
      return (.source pieces args, rest)
    else if isPath tokens then return (.path pieces, rest)
    else none

/-- Arguments up to the bracket that closes them. An argument is due at the beginning and behind
a comma; one that is missing there is an empty text, unless there is none at all. -/
def readArguments? : Nat → (close : Char) → (first due : Bool) → List Char →
    Option (List SourceArgument × List Char)
  | 0, _, _, _, _ => none
  | depth + 1, close, first, due, cs => do
    let missing := SourceArgument.value (.text "")
    match skipInnerBlanks cs with
    | [] => none
    | c :: rest =>
      if c = close then return (if due && !first then [missing] else [], rest)
      else if c = ',' then
        let (more, rest) ← readArguments? depth close false true (skipInnerBlanks rest)
        return (if due then missing :: more else more, rest)
      else if !due then none
      else
        let (arg, rest) ← readArgument? depth (c :: rest)
        let (more, rest) ← readArguments? depth close false false rest
        return (arg :: more, rest)

/-- One argument. -/
def readArgument? : Nat → List Char → Option (SourceArgument × List Char)
  | 0, _ => none
  | depth + 1, cs => do
    match cs with
    | '[' :: rest =>
      let (items, rest) ← readArguments? depth ']' true true rest
      return (.list items, rest)
    | '\x7b' :: rest =>
      match skipInnerBlanks rest with
      | '\x7d' :: rest => return (.map [], rest)
      | rest =>
        let (entries, rest) ← readEntries? depth rest
        return (.map entries, rest)
    | c :: rest =>
      if c = '\x27' || c = '\x22' then
        let (pieces, rest) ← readText? depth (some c) rest
        return (.text pieces, rest)
      else
        let (parts, rest) ← readWord? depth true cs
        return (← wordArgument? (dropFinalBlanks parts), rest)
    | [] => none

/-- The entries of a mapping up to its closing brace. -/
def readEntries? : Nat → List Char → Option (List (Document × SourceArgument) × List Char)
  | 0, _ => none
  | depth + 1, cs => do
    let (parts, rest) ← readWord? depth false cs
    let key ← match ← wordArgument? (dropFinalBlanks parts) with
      | .value d => some d
      | .text [.chars cs] => some (Document.text (String.ofList cs))
      | _ => none
    match rest with
    | ':' :: rest =>
      let (value, rest) ← readArgument? depth (skipInnerBlanks rest)
      match skipInnerBlanks rest with
      | ',' :: rest =>
        let (more, rest) ← readEntries? depth (skipInnerBlanks rest)
        return ((key, value) :: more, rest)
      | '\x7d' :: rest => return ([(key, value)], rest)
      | _ => none
    | _ => none

/-- The parts of a word without quotes, up to a comma or a closing bracket; the key of a mapping
(not `whole`) also ends at a colon and holds no references. -/
def readWord? : Nat → (whole : Bool) → List Char → Option (List WordPart × List Char)
  | 0, _, _ => none
  | depth + 1, whole, cs => do
    match cs with
    | [] => none
    | '$' :: '\x7b' :: inner =>
      if !whole then none
      let (r, rest) ← read? depth (skipInnerBlanks inner)
      let (more, rest) ← readWord? depth whole rest
      return (.inr r :: more, rest)
    | '\\' :: c :: rest =>
      if isEscapable c then
        let (more, rest) ← readWord? depth whole rest
        return (.inl (c, true) :: more, rest)
      else
        let (more, rest) ← readWord? depth whole (c :: rest)
        return (.inl ('\\', false) :: more, rest)
    | c :: rest =>
      if c = ',' || c = ']' || c = '\x7d' || (!whole && c = ':') then return ([], cs)
      else if isWordChar c then
        let (more, rest) ← readWord? depth whole rest
        return (.inl (c, false) :: more, rest)
      else none

end

/-- The pieces of a text. -/
def piecesOf? (cs : List Char) : Option (List Piece) :=
  (readText? (2 * cs.length + 4) none cs).map Prod.fst

/-- The argument that a text is when it is read as one. -/
def argumentOf? (cs : List Char) : Option SourceArgument := do
  match ← readArgument? (2 * cs.length + 4) (cs ++ [',']) with
  | (arg, [',']) => some arg
  | _ => none

/-! ### Recognising texts with references -/

/-- Whether a text may hold a reference. -/
def mentionedIn : List Char → Bool
  | '$' :: '\x7b' :: _ => true
  | _ :: rest => mentionedIn rest
  | [] => false

/-- A character of a simple key. -/
def isSimpleKeyChar (c : Char) : Bool := c.isAlphanum || c == '_' || c == '$'

/-- An ASCII blank. -/
def isAsciiBlank (c : Char) : Bool := c == ' ' || (9 ≤ c.toNat && c.toNat ≤ 13)

/-- Simple keys behind dots or in brackets, up to the end. The first argument bounds their
number. -/
def isSimplePathRest : Nat → List Char → Bool
  | _, [] => true
  | 0, _ => false
  | rounds + 1, '.' :: rest =>
    !(rest.takeWhile isSimpleKeyChar).isEmpty &&
      isSimplePathRest rounds (rest.dropWhile isSimpleKeyChar)
  | rounds + 1, '[' :: rest =>
    !(rest.takeWhile isSimpleKeyChar).isEmpty &&
      match rest.dropWhile isSimpleKeyChar with
      | ']' :: rest => isSimplePathRest rounds rest
      | _ => false
  | _, _ => false

/-- A path of simple keys. -/
def isSimplePath (cs : List Char) : Bool :=
  let cs := cs.dropWhile (· == '.')
  match cs with
  | '[' :: _ => isSimplePathRest cs.length cs
  | _ => isSimplePathRest (cs.length + 1) ('.' :: cs)

/-- Names with dots between them, or nothing. -/
def isSimpleName (cs : List Char) : Bool :=
  cs.isEmpty ||
    let (parts, last) := cs.foldr (fun c (acc : List (List Char) × List Char) =>
      if c = '.' then (acc.2 :: acc.1, []) else (acc.1, c :: acc.2)) ([], [])
    (last :: parts).all isName

/-- Words with commas between them, or nothing. -/
def areSimpleWords (cs : List Char) : Bool :=
  let isWord := fun word : List Char =>
    !word.isEmpty && word.all fun c => c.isAlphanum || "_/-+.$%*@?|".toList.contains c
  let trimBlanks := fun word : List Char =>
    ((word.dropWhile isAsciiBlank).reverse.dropWhile isAsciiBlank).reverse
  cs.all isAsciiBlank ||
    let (words, last) := cs.foldr (fun c (acc : List (List Char) × List Char) =>
      if c = ',' then (acc.2 :: acc.1, []) else (acc.1, c :: acc.2)) ([], [])
    (last :: words).all fun w => isWord (trimBlanks w)

/-- The inside of a simple reference. -/
def isSimpleInside (cs : List Char) : Bool :=
  let trimmed := ((cs.dropWhile isAsciiBlank).reverse.dropWhile isAsciiBlank).reverse
  (!trimmed.isEmpty && isSimplePath trimmed) ||
    match Literal.splitAtFirst (· == ':') cs with
    | (name, some args) =>
      isSimpleName (((name.dropWhile isAsciiBlank).reverse.dropWhile isAsciiBlank).reverse) &&
        areSimpleWords args
    | _ => false

/-- Each reference in the text is a simple one: nothing nested, nothing quoted. Such a text is
accepted when a file is loaded, even if it cannot be read in full later. The first argument
bounds the number of references. -/
def isSimpleText : Nat → List Char → Bool
  | _, [] => true
  | 0, _ => false
  | rounds + 1, '$' :: '\x7b' :: rest =>
    match Literal.splitAtFirst (· == '\x7d') rest with
    | (inside, some rest) => isSimpleInside inside && isSimpleText rounds rest
    | _ => false
  | rounds + 1, _ :: rest => isSimpleText rounds rest

/-- Whether a text that may hold references is accepted when a file is loaded. -/
def isAccepted (cs : List Char) : Bool :=
  isSimpleText (cs.length + 1) cs || (piecesOf? cs).isSome

end Reference

end PluginHarness
