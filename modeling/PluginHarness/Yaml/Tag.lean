import PluginHarness.Failure
import PluginHarness.Text.Case

/-!
# Tags

A tag says of what kind a node is. A plain scalar without a tag gets one by its form: words for
set and not set, integers, numbers with a point, nothing, dates and moments; anything else is
text. In configuration files dates are text, and numbers may have an exponent without a point.

## Main definitions

* `Tag`: the kinds; `Tag.ofName`: the kind that a full tag names.
* `Dialect`: the two ways to read plain scalars.
* `Tag.ofPlain`: the kind of a plain scalar.
* `TimeFields`, `timeFields?`: the parts of a date or moment.
-/

namespace PluginHarness.Yaml

/-- The kind of a node. -/
inductive Tag where
  | null
  | bool
  | int
  | float
  | binary
  | timestamp
  | orderedMap
  | pairs
  | set
  | text
  | sequence
  | mapping
  /-- A key under which other mappings are merged in. -/
  | merge
  /-- A key under which a mapping has its value as a scalar. -/
  | value
  | other (name : String)
  deriving DecidableEq, Repr

/-- How plain scalars are read. -/
inductive Dialect where
  | standard
  | configuration
  deriving DecidableEq, Repr

/-- The beginning of the tags of the format itself. -/
def tagStem : String := "tag:yaml.org,2002:"

namespace Tag

/-- The tags of the format itself, by the end of their names. -/
def known : List (String × Tag) :=
  [("null", .null), ("bool", .bool), ("int", .int), ("float", .float), ("binary", .binary),
   ("timestamp", .timestamp), ("omap", .orderedMap), ("pairs", .pairs), ("set", .set),
   ("str", .text), ("seq", .sequence), ("map", .mapping), ("merge", .merge), ("value", .value)]

/-- The kind that a full tag names. -/
def ofName (name : String) : Tag :=
  ((known.find? fun k => tagStem ++ k.1 == name).map Prod.snd).getD (.other name)

end Tag

/-! ### Forms of plain scalars -/

/-- An ASCII digit or an underscore. -/
def isDigitOrLine (c : Char) : Bool := c.isDigit || c == '_'

/-- The text without a sign in front. -/
def skipSign : List Char → List Char
  | '-' :: rest => rest
  | '+' :: rest => rest
  | cs => cs

/-- Parts behind colons, each below sixty, at least one; gives what follows them. The first
argument bounds the number of parts. -/
def skipSixties : Nat → List Char → Option (List Char)
  | rounds + 1, ':' :: rest =>
    let digits := rest.takeWhile Char.isDigit
    let after := rest.drop digits.length
    let fits := match digits with
      | [_] => true
      | [a, _] => decide (a ≤ '5')
      | _ => false
    if fits then
      if after.head? == some ':' then skipSixties rounds after else some after
    else none
  | _, _ => none

/-- The form of an integer: binary, octal, decimal, hexadecimal, or in parts of sixty. -/
def hasIntegerForm (cs : List Char) : Bool :=
  match skipSign cs with
  | ['0'] => true
  | '0' :: 'b' :: digits => !digits.isEmpty && digits.all fun c => c == '0' || c == '1' || c == '_'
  | '0' :: 'x' :: digits =>
    !digits.isEmpty && digits.all fun c => (Text.hexValue? c).isSome || c == '_'
  | '0' :: digits => digits.all fun c => ('0' ≤ c && c ≤ '7') || c == '_'
  | d :: rest =>
    if d.isDigit then
      let after := rest.dropWhile isDigitOrLine
      after.isEmpty || skipSixties cs.length after == some []
    else false
  | [] => false

/-- An exponent or nothing; a sign is needed if `signed`. -/
def isExponent (signed : Bool) : List Char → Bool
  | [] => true
  | e :: rest =>
    (e == 'e' || e == 'E') &&
      (let digits := skipSign rest
       (!signed || digits.length < rest.length) && !digits.isEmpty && digits.all Char.isDigit)

/-- The words for infinity and not-a-number. -/
def hasSpecialFloatForm (cs : List Char) : Bool :=
  let bare := String.ofList (skipSign cs)
  let word := String.ofList cs
  [".inf", ".Inf", ".INF"].contains bare || [".nan", ".NaN", ".NAN"].contains word

/-- The form of a number with a point: digits, a point, digits; parts of sixty with a point;
infinity and not-a-number. An exponent needs a sign. -/
def hasFloatForm (cs : List Char) : Bool :=
  hasSpecialFloatForm cs ||
  match cs with
  | '.' :: d :: rest => d.isDigit && isExponent true (rest.dropWhile isDigitOrLine)
  | _ =>
    match skipSign cs with
    | d :: rest =>
      d.isDigit &&
        match rest.dropWhile isDigitOrLine with
        | '.' :: after => isExponent true (after.dropWhile isDigitOrLine)
        | after =>
          match skipSixties cs.length after with
          | some ('.' :: fraction) => fraction.all isDigitOrLine
          | _ => false
    | [] => false

/-- Digits in groups with single underscores between them; gives what follows the longest such
beginning. -/
def skipGroups : List Char → List Char
  | '_' :: d :: rest => if d.isDigit then skipGroups rest else '_' :: d :: rest
  | d :: rest => if d.isDigit then skipGroups rest else d :: rest
  | [] => []

/-- The form of a number in a configuration file: as `hasFloatForm`, but with digits in groups,
and with an exponent the point may be missing. -/
def hasConfigurationFloatForm (cs : List Char) : Bool :=
  hasSpecialFloatForm cs ||
  match cs with
  | '.' :: d :: rest => d.isDigit && isExponent true (skipGroups rest)
  | _ =>
    match skipSign cs with
    | d :: rest =>
      d.isDigit &&
        match skipGroups rest with
        | '.' :: after => isExponent false (after.dropWhile isDigitOrLine)
        | [] => false
        | after =>
          isExponent false after ||
          match skipSixties cs.length after with
          | some ('.' :: fraction) => fraction.all isDigitOrLine
          | _ => false
    | [] => false

/-! ### Dates and moments -/

/-- The parts of a date or moment as they are written. -/
structure TimeFields where
  year : List Char
  month : List Char
  day : List Char
  /-- Hour, minute, second, and the digits behind the point. -/
  time : Option (List Char × List Char × List Char × List Char)
  /-- The sign and the hours and minutes of the offset; no sign for universal time. -/
  zone : Option (Option Char × List Char × List Char)

/-- From `least` to `most` digits. -/
def takeDigits? (least most : Nat) (cs : List Char) : Option (List Char × List Char) :=
  let digits := (cs.takeWhile Char.isDigit).take most
  if least ≤ digits.length then some (digits, cs.drop digits.length) else none

/-- What follows a character. -/
def after? (c : Char) : List Char → Option (List Char)
  | d :: rest => if d = c then some rest else none
  | [] => none

/-- A blank inside a moment. -/
def isTimeBlank (c : Char) : Bool := c == ' ' || c == '\t'

/-- The offset at the end of a moment, possibly behind blanks. -/
def zone? (cs : List Char) : Option (Option (Option Char × List Char × List Char)) :=
  if cs.isEmpty then some none
  else
    match cs.dropWhile isTimeBlank with
    | ['Z'] => some (some (none, [], []))
    | sign :: rest =>
      if sign = '-' || sign = '+' then do
        let (hours, rest) ← takeDigits? 1 2 rest
        if rest.isEmpty then return some (some sign, hours, [])
        let (minutes, rest) ← takeDigits? 2 2 (← after? ':' rest)
        if rest.isEmpty then return some (some sign, hours, minutes) else none
      else none
    | [] => none

/-- The parts of a date or moment. -/
def timeFields? (cs : List Char) : Option TimeFields := do
  let (year, rest) ← takeDigits? 4 4 cs
  let (month, rest) ← takeDigits? 1 2 (← after? '-' rest)
  let (day, rest) ← takeDigits? 1 2 (← after? '-' rest)
  match rest with
  | [] => return ⟨year, month, day, none, none⟩
  | c :: behind =>
    let rest ←
      if c = 'T' || c = 't' then some behind
      else if isTimeBlank c then some (behind.dropWhile isTimeBlank)
      else none
    let (hour, rest) ← takeDigits? 1 2 rest
    let (minute, rest) ← takeDigits? 2 2 (← after? ':' rest)
    let (second, rest) ← takeDigits? 2 2 (← after? ':' rest)
    let (fraction, rest) := match rest with
      | '.' :: rest => (rest.takeWhile Char.isDigit, rest.dropWhile Char.isDigit)
      | rest => ([], rest)
    return ⟨year, month, day, some (hour, minute, second, fraction), ← zone? rest⟩

/-- The form of a date or moment; a date alone needs two digits for month and day. -/
def hasTimeForm (cs : List Char) : Bool :=
  match timeFields? cs with
  | some f => f.time.isSome || (f.month.length == 2 && f.day.length == 2)
  | none => false

/-! ### The kind of a plain scalar -/

/-- The words for set, and for not set. -/
def setWords : List String := ["yes", "true", "on"]

/-- The words for not set. -/
def unsetWords : List String := ["no", "false", "off"]

/-- A word as it is listed, capitalised, or in capitals. -/
def isSpelling (words : List String) (word : String) : Bool :=
  words.any fun w => word == w || word == w.capitalize || word == Text.upper w

/-- A text without a newline at its end; forms are looked at without it. -/
def withoutFinalNewline (cs : List Char) : List Char :=
  if cs.length ≠ 1 && cs.getLast? == some '\n' then cs.dropLast else cs

/-- The kind of a plain scalar. -/
def Tag.ofPlain (d : Dialect) (text : String) : Tag :=
  let cs := withoutFinalNewline text.toList
  let word := String.ofList cs
  if isSpelling (setWords ++ unsetWords) word then .bool
  else if hasFloatForm cs then .float
  else if hasIntegerForm cs then .int
  else if word == "<<" then .merge
  else if word == "~" || isSpelling ["null"] word || text == "" then .null
  else if d == .standard && hasTimeForm cs then .timestamp
  else if word == "=" then .value
  else if d == .configuration && hasConfigurationFloatForm cs then .float
  else .text

end PluginHarness.Yaml
