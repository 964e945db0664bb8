import PluginHarness.Document
import PluginHarness.Entries

/-!
# Arguments of the command line

An argument `--name=value` gives a value under a name, in which hyphens and underscores are the
same; all other arguments stand for themselves. A value that reads as a number or as one of the
words for a flag is that; any other value is a text.

## Main definitions

* `CommandLine.valueOf`: the value that an argument stands for.
* `CommandLine.Arguments`: the arguments by position and by name; `Arguments.ofList`: reads them.
-/

namespace PluginHarness.CommandLine

/-- The words that are no texts. -/
def words : List (String × Document) :=
  [("True", .bool true), ("False", .bool false), ("None", .null)]

/-- A number begins with a digit or a point, after a sign. -/
def looksNumeric (cs : List Char) : Bool :=
  match (Literal.splitSign cs).2 with
  | '.' :: c :: _ => c.isDigit
  | c :: _ => c.isDigit
  | [] => false

/-- The base that an integer is written in. -/
def baseOf (cs : List Char) : Nat :=
  match (Literal.splitSign cs).2 with
  | '0' :: c :: _ =>
    match c.toLower with
    | 'b' => 2
    | 'o' => 8
    | 'x' => 16
    | _ => 10
  | _ => 10

/-- An integer in base ten has no zeros in front, unless it is zero. -/
def hasLeadingZero (cs : List Char) : Bool :=
  match (Literal.splitSign cs).2 with
  | '0' :: rest => rest.any fun c => c != '0' && c != '_'
  | _ => false

/-- The integer that an argument is written as. -/
def integerOf? (cs : List Char) : Option Int :=
  let base := baseOf cs
  if base == 10 && hasLeadingZero cs then none
  else (Literal.readInteger base cs).toOption

/-- The floating point number that an argument is written as, with a point or an exponent. -/
def floatOf? (cs : List Char) : Option Binary64 :=
  if cs.any fun c => c == '.' || c.toLower == 'e' then Literal.readFloat? cs else none

/-- The number that an argument is written as; all its characters are in ASCII. -/
def numberOf? (text : String) : Option Document :=
  let cs := text.toList
  if !looksNumeric cs || cs.any fun c => decide (c.toNat < 33) || decide (126 < c.toNat) then none
  else ((integerOf? cs).map .int).or ((floatOf? cs).map .float)

/-- The value that an argument stands for. -/
def valueOf (text : String) : Document :=
  ((Entries.get? text words).or (numberOf? text)).getD (.text text)

/-- The arguments of a command. -/
structure Arguments where
  positional : List Document
  named : List (String × Document)

namespace Arguments

/-- A name with underscores for hyphens. -/
def nameOf (cs : List Char) : String :=
  String.ofList (cs.map fun c => if c = '-' then '_' else c)

/-- Reads one argument. -/
def add (text : String) (args : Arguments) : Arguments :=
  match text.toList with
  | '-' :: '-' :: rest =>
    match Literal.splitAtFirst (· == '=') rest with
    | (name, some value) =>
      { args with named := Entries.insert (nameOf name) (valueOf (String.ofList value)) args.named }
    | (name, none) => { args with named := Entries.insert (nameOf name) (.bool true) args.named }
  | _ => { args with positional := args.positional ++ [valueOf text] }

/-- Reads arguments in order; of two under one name the last counts. -/
def ofList (texts : List String) : Arguments :=
  texts.foldl (fun args text => args.add text) ⟨[], []⟩

end Arguments

end PluginHarness.CommandLine
