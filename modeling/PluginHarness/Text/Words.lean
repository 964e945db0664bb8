import PluginHarness.Text.Quoted

/-!
# Words of a command line

A command line is split into words as a POSIX shell does it, without expansions and without
comments. Words are separated by space, tab, carriage return and newline. Single quotes keep
everything up to the next single quote; double quotes keep everything up to the next double
quote, where a backslash escapes only itself and the double quote; outside quotes a backslash
escapes any character. A quoted part may be empty and still makes a word.

## Main definitions

* `splitWords`: the words of a command line, or why it cannot be split.
* `quoteWord`, `quoteWords`: a command line that splits into the given words.
-/

namespace PluginHarness.Text

/-- Why a command line cannot be split into words. -/
inductive SplitFault where
  /-- A quotation is still open at the end. -/
  | unclosedQuotation
  /-- A backslash at the end escapes nothing. -/
  | danglingEscape
  deriving DecidableEq, Repr

/-- Where the splitter stands. -/
inductive SplitState where
  /-- Between words. -/
  | between
  /-- Inside a word, outside quotes. -/
  | word
  /-- Inside quotes opened by this character. -/
  | quotation (quote : Char)
  /-- After a backslash outside quotes. -/
  | escape
  /-- After a backslash inside double quotes. -/
  | quotedEscape
  deriving DecidableEq, Repr

/-- Space, tab, carriage return and newline separate words; no other blank does. -/
def isSeparator (c : Char) : Bool := c == ' ' || c == '\t' || c == '\r' || c == '\n'

/-- The two characters that open a quotation. -/
def isQuote (c : Char) : Bool := c == singleQuote || c == doubleQuote

/-- Splits the rest of a command line; `part` holds the characters of the current word, the
last one first. -/
def splitFrom : SplitState → List Char → List Char → Except SplitFault (List (List Char))
  | .between, _, [] => .ok []
  | .word, part, [] => .ok [part.reverse]
  | .quotation _, _, [] => .error .unclosedQuotation
  | .escape, _, [] => .error .danglingEscape
  | .quotedEscape, _, [] => .error .danglingEscape
  | .between, _, c :: rest =>
    if isSeparator c then splitFrom .between [] rest
    else if c = backslash then splitFrom .escape [] rest
    else if isQuote c then splitFrom (.quotation c) [] rest
    else splitFrom .word [c] rest
  | .word, part, c :: rest =>
    if isSeparator c then (part.reverse :: ·) <$> splitFrom .between [] rest
    else if c = backslash then splitFrom .escape part rest
    else if isQuote c then splitFrom (.quotation c) part rest
    else splitFrom .word (c :: part) rest
  | .quotation q, part, c :: rest =>
    if c = q then splitFrom .word part rest
    else if c = backslash && q = doubleQuote then splitFrom .quotedEscape part rest
    else splitFrom (.quotation q) (c :: part) rest
  | .escape, part, c :: rest => splitFrom .word (c :: part) rest
  | .quotedEscape, part, c :: rest =>
    if c = doubleQuote || c = backslash then splitFrom (.quotation doubleQuote) (c :: part) rest
    else splitFrom (.quotation doubleQuote) (c :: backslash :: part) rest

/-- The words of a command line. -/
def splitWords (line : List Char) : Except SplitFault (List (List Char)) :=
  splitFrom .between [] line

/-- A word between single quotes, where a single quote leaves the quotation, stands between
double quotes, and enters it again. -/
def quoteWord (word : List Char) : List Char :=
  singleQuote ::
    word.flatMap (fun c => if c = singleQuote then
      [singleQuote, doubleQuote, singleQuote, doubleQuote, singleQuote] else [c]) ++
    [singleQuote]

/-- A command line of quoted words, separated by single spaces. -/
def quoteWords (words : List (List Char)) : List Char :=
  [' '].intercalate (words.map quoteWord)

end PluginHarness.Text
