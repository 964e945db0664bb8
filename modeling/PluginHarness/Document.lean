import PluginHarness.Calendar
import PluginHarness.Entries
import PluginHarness.Number
import PluginHarness.Number.Literal
import PluginHarness.Text.Quoted

/-!
# Documents

The values that configuration, credential and parameter files hold, and the values that
callbacks return: scalars, sequences and mappings. A mapping keeps the order of its keys, and its
keys may be of any scalar kind.

Two keys are the same key when they have the same value, so the integer one, the flag that is
set and the number `1.0` are one key, while not-a-number is never the same key as anything.

## Main definitions

* `Document`: the values.
* `Document.kindName`: the name of a value's kind in messages.
* `Document.sameKey`: when two keys are one.
* `Document.truthy`: whether a value counts as set.
* `Document.quoted?`, `Document.text?`: how a value is written, inside a collection and alone.
-/

namespace PluginHarness

/-- A value of a file or of a callback. -/
inductive Document where
  | null
  | bool (b : Bool)
  | int (i : Int)
  | float (x : Binary64)
  | text (s : String)
  | bytes (bs : List UInt8)
  | date (d : Date)
  | moment (m : Moment)
  | list (items : List Document)
  | tuple (items : List Document)
  | set (items : List Document)
  | map (entries : List (Document × Document))
  deriving Inhabited

namespace Document

/-- The name of the kind of value, as messages give it. -/
def kindName : Document → String
  | .null => "NoneType"
  | .bool _ => "bool"
  | .int _ => "int"
  | .float _ => "float"
  | .text _ => "str"
  | .bytes _ => "bytes"
  | .date _ => "date"
  | .moment _ => "datetime"
  | .list _ => "list"
  | .tuple _ => "tuple"
  | .set _ => "set"
  | .map _ => "dict"

/-- A flag or a number as a number; a flag counts one when it is set. -/
def number? : Document → Option Number
  | .bool b => some (.int b.toNat)
  | .int i => some (.int i)
  | .float x => some (.float x)
  | _ => none

mutual

/-- The two values are one key. -/
def sameKey : Document → Document → Bool
  | .null, .null => true
  | .text s, .text t => s == t
  | .bytes s, .bytes t => s == t
  | .date d, .date e => d == e
  | .moment m, .moment n => m.same n
  | .tuple xs, .tuple ys => sameKeys xs ys
  | a, b =>
    match a.number?, b.number? with
    | some x, some y => x.eqv y
    | _, _ => false

/-- The two sequences are one key: as long, and the same place by place. -/
def sameKeys : List Document → List Document → Bool
  | [], [] => true
  | x :: xs, y :: ys => sameKey x y && sameKeys xs ys
  | _, _ => false

end

instance : BEq Document := ⟨sameKey⟩

theorem beq_eq_sameKey (a b : Document) : (a == b) = sameKey a b := rfl

/-- Collections other than tuples cannot be keys. -/
def isKey : Document → Bool
  | .list _ | .set _ | .map _ => false
  | _ => true

/-- Null, zero and whatever is empty count as not set. -/
def truthy : Document → Bool
  | .null => false
  | .bool b => b
  | .int i => i != 0
  | .float x => x != .finite false 0 && x != .finite true 0
  | .text s => s != ""
  | .bytes bs => !bs.isEmpty
  | .date _ | .moment _ => true
  | .list items | .tuple items | .set items => !items.isEmpty
  | .map entries => !entries.isEmpty

/-- An integer in decimal, up to the greatest number of digits that is written. -/
def integerText? (i : Int) : Option String :=
  -- the bit length settles it for all but a narrow range, without writing the digits
  if i.natAbs.log2 < 14000 then some (toString i)
  else if i.natAbs < Nat.pow 10 Literal.maxIntegerDigits then some (toString i) else none

mutual

/-- The value as it is written inside a collection; none when it holds an integer that is too
long to write. -/
def quoted? : Document → Option String
  | .null => some "None"
  | .bool b => some (if b then "True" else "False")
  | .int i => integerText? i
  | .float x => some x.text
  | .text s => some (Text.quoted s)
  | .bytes bs => some (Text.quotedBytes bs)
  | .date d => some ("datetime.date(" ++ ", ".intercalate (d.fields.map toString) ++ ")")
  | .moment m =>
    let zone := m.offset.map fun o =>
      if o = 0 then "tzinfo=datetime.timezone.utc"
      else "tzinfo=datetime.timezone(" ++ spanText o ++ ")"
    some ("datetime.datetime(" ++ ", ".intercalate (m.fields.map toString ++ zone.toList) ++ ")")
  | .list items => do return "[" ++ ", ".intercalate (← quotedAll? items) ++ "]"
  | .tuple items => do
    match ← quotedAll? items with
    | [one] => return "(" ++ one ++ ",)"
    | several => return "(" ++ ", ".intercalate several ++ ")"
  | .set items => do
    match ← quotedAll? items with
    | [] => return "set()"
    | several => return "\x7b" ++ ", ".intercalate several ++ "\x7d"
  | .map entries => do return "\x7b" ++ ", ".intercalate (← quotedEntries? entries) ++ "\x7d"

/-- Each value as it is written inside a collection. -/
def quotedAll? : List Document → Option (List String)
  | [] => some []
  | x :: xs => do return (← quoted? x) :: (← quotedAll? xs)

/-- Each entry as it is written inside a mapping. -/
def quotedEntries? : List (Document × Document) → Option (List String)
  | [] => some []
  | (k, v) :: rest => do return ((← quoted? k) ++ ": " ++ (← quoted? v)) :: (← quotedEntries? rest)

end

/-- The value as it is written alone: a text as it is, a date or moment in its ISO form, anything
else as inside a collection. -/
def text? : Document → Option String
  | .text s => some s
  | .date d => some d.text
  | .moment m => some m.text
  | d => d.quoted?

/-- The text that the value is, if it is one. -/
def asText? : Document → Option String
  | .text s => some s
  | _ => none

end Document

end PluginHarness
