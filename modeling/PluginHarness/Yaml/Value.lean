import PluginHarness.Text.Base64
import PluginHarness.Yaml.Node

/-!
# Values of nodes

The document that a node stands for. Scalars are read by their tags; the entries that a mapping
takes over from others come before its own; of several entries for one key the first gives the
place and the last the value.

A node can be wrong in several places. Nodes are looked at level by level, from the outside in,
and the first fault found in that order is the one that counts.

## Main definitions

* `Scalar.value`: the value of a scalar by its tag.
* `Node.mergedEntries`: the entries of a mapping with those that it takes over.
* `Built`: a value with its faults, level by level; `Node.build`: that of a node.
* `Node.toDocument`: the document, or the first fault.
* `readText`: the document that a text holds.
-/

namespace PluginHarness.Yaml

/-! ### Scalars -/

namespace Scalar

/-- The words for set and not set, in lower case. -/
def flag (text : String) : Except Fault Document :=
  let word := Text.lower text
  if setWords.contains word then .ok (.bool true)
  else if unsetWords.contains word then .ok (.bool false)
  else .error (.scalar (.flag word))

/-- The integer that a text denotes in a base. -/
def integerIn (base : Nat) (cs : List Char) : Except Fault Int :=
  match Literal.readInteger base cs with
  | .ok i => .ok i
  | .error .malformed => .error (.scalar (.integer base (String.ofList cs)))
  | .error (.tooLong n) => .error (.scalar (.integerTooLong n))

/-- The parts of a text between colons. -/
def splitColons : List Char → List (List Char)
  | [] => [[]]
  | c :: rest =>
    if c = ':' then [] :: splitColons rest
    else match splitColons rest with
      | first :: others => (c :: first) :: others
      | [] => [[c]]

/-- A sign in front: whether the number is negative, and the text behind the sign. A number has
at least one character. -/
def signed (cs : List Char) : Except Fault (Bool × List Char) :=
  match cs with
  | [] => .error (.scalar .emptyNumber)
  | '-' :: rest => .ok (true, rest)
  | '+' :: rest => .ok (false, rest)
  | cs => .ok (false, cs)

/-- An integer: binary, hexadecimal, octal behind a zero, in parts of sixty, or decimal.
Underscores do not count. -/
def integer (text : String) : Except Fault Document := do
  let (negative, cs) ← signed (text.toList.filter (· != '_'))
  let magnitude ← match cs with
    | [] => .error (.scalar .emptyNumber)
    | ['0'] => .ok 0
    | '0' :: 'b' :: digits => integerIn 2 digits
    | '0' :: 'x' :: digits => integerIn 16 digits
    | '0' :: _ => integerIn 8 cs
    | _ =>
      if cs.contains ':' then do
        let parts ← (splitColons cs).mapM (integerIn 10)
        .ok (parts.foldl (fun n d => n * 60 + d) 0)
      else integerIn 10 cs
  .ok (.int (if negative then -magnitude else magnitude))

/-- The floating point number that a text denotes. -/
def floatOf (cs : List Char) : Except Fault Binary64 :=
  match Literal.readFloat? cs with
  | some x => .ok x
  | none => .error (.scalar (.float (String.ofList cs)))

/-- The sum of parts of sixty; the last part counts ones. -/
def sumSixties (parts : List Binary64) : Binary64 :=
  (parts.reverse.foldl
    (fun (acc : Binary64 × Int) part =>
      (acc.1.add (part.mul (.ofInt acc.2)), acc.2 * 60))
    (.finite false 0, 1)).1

/-- A floating point number. Underscores and letter case do not count. -/
def float (text : String) : Except Fault Document := do
  let (negative, cs) ← signed ((text.toList.filter (· != '_')).map Char.toLower)
  let magnitude ←
    if cs = ".inf".toList then .ok (.infinite false)
    else if cs = ".nan".toList then .ok .nan
    else if cs.contains ':' then do
      .ok (sumSixties (← (splitColons cs).mapM floatOf))
    else floatOf cs
  .ok (.float (if negative then magnitude.neg else magnitude))

/-- Bytes in base 64. -/
def binary (text : String) : Except Fault Document :=
  if text.toList.all fun c => c.toNat < 128 then
    match Text.base64Bytes? text.toList with
    | some bytes => .ok (.bytes bytes)
    | none => malformed
  else malformed

/-- A calendar value or its fault. -/
def onCalendar {α : Type} (x : Except CalendarFault α) (make : α → Document) :
    Except Fault Document :=
  match x with
  | .ok a => .ok (make a)
  | .error f => .error (.scalar (.calendar f))

/-- The number that decimal digits denote. -/
def digits (cs : List Char) : Nat := Text.digitsValue 10 (cs.filterMap Text.hexValue?)

/-- The microseconds that the digits behind the point denote; only six of them count. -/
def microseconds (cs : List Char) : Nat :=
  let six := cs.take 6
  digits six * Nat.pow 10 (6 - six.length)

/-- A date, or a moment if there is a time. -/
def timestamp (text : String) : Except Fault Document :=
  match timeFields? (withoutFinalNewline text.toList) with
  | none => .error (.scalar .timestamp)
  | some f =>
    match f.time with
    | none => onCalendar (Date.make (digits f.year) (digits f.month) (digits f.day)) .date
    | some (hour, minute, second, fraction) =>
      let offset := f.zone.map fun z =>
        let seconds : Int := (digits z.2.1 * 60 + digits z.2.2) * 60
        if z.1 = some '-' then -seconds else seconds
      onCalendar
        (Moment.make (digits f.year) (digits f.month) (digits f.day) (digits hour)
          (digits minute) (digits second) (microseconds fraction) offset) .moment

/-- The value of a scalar by its tag, for tags of scalars. -/
def value? (tag : Tag) (text : String) : Option (Except Fault Document) :=
  match tag with
  | .null => some (.ok .null)
  | .bool => some (flag text)
  | .int => some (integer text)
  | .float => some (float text)
  | .binary => some (binary text)
  | .timestamp => some (timestamp text)
  | .text => some (.ok (.text text))
  | _ => none

end Scalar

namespace Node

/-- The tag of a node. -/
def tag : Node → Tag
  | .scalar tag _ | .sequence tag _ | .mapping tag _ => tag

mutual

/-- How deep a node is nested. -/
def depth : Node → Nat
  | .scalar _ _ => 1
  | .sequence _ items => depths items + 1
  | .mapping _ entries => entryDepths entries + 1

/-- How deep the deepest of these is nested. -/
def depths : List Node → Nat
  | [] => 0
  | n :: rest => max n.depth (depths rest)

/-- How deep the deepest key or value is nested. -/
def entryDepths : List (Node × Node) → Nat
  | [] => 0
  | (k, v) :: rest => max (max k.depth v.depth) (entryDepths rest)

end

mutual

/-- The text of a node that is read as a scalar; of a mapping, the text of its value entry. -/
def scalarText? : Node → Option String
  | .scalar _ text => some text
  | .sequence _ _ => none
  | .mapping _ entries => valueText? entries

/-- The text of the value entry among these. -/
def valueText? : List (Node × Node) → Option String
  | [] => none
  | (k, v) :: rest => if k.tag = .value then scalarText? v else valueText? rest

end

/-- The entries of a mapping with those that it takes over, which come first. The first argument
bounds the nesting. -/
def mergedEntries : Nat → List (Node × Node) → Except Fault (List (Node × Node))
  | 0, _ => .ok []
  | depth + 1, entries => do
    let mut taken := []
    let mut own := []
    for (k, v) in entries do
      if k.tag = .merge then
        match v with
        | .mapping _ es => taken := taken ++ (← mergedEntries depth es)
        | .sequence _ items =>
          let lists ← items.mapM fun item => match item with
            | .mapping _ es => mergedEntries depth es
            | _ => malformed
          taken := taken ++ lists.reverse.flatten
        | _ => malformed
      else if k.tag = .value then
        own := own ++ [(match k with
          | .scalar _ text => (.scalar .text text, v)
          | k => (k, v))]
      else own := own ++ [(k, v)]
    .ok (taken ++ own)

/-- Whether two keys are the same text; in configuration files that is refused. -/
def hasRepeatedKey (entries : List (Node × Node)) : Bool :=
  let keys := entries.filterMap fun e => match e.1 with
    | .scalar .text text => some text
    | _ => none
  !keys.Nodup

end Node

/-- A value with its faults: those seen when the node itself is looked at, and those of the
levels below. -/
structure Built where
  value : Document
  now : List Fault
  later : List (List Fault)

/-- Faults level by level, put together. -/
def joinLevels : List (List Fault) → List (List Fault) → List (List Fault)
  | [], b => b
  | a, [] => a
  | x :: a, y :: b => (x ++ y) :: joinLevels a b

namespace Built

/-- A value without faults, or a fault seen at once. -/
def ofExcept : Except Fault Document → Built
  | .ok d => ⟨d, [], []⟩
  | .error f => ⟨.null, [f], []⟩

/-- A collection whose parts are looked at one level below. -/
def collection (value : Document) (faults : List Fault) (parts : List Built) : Built :=
  ⟨value, [], (faults ++ parts.flatMap now) :: parts.foldr (fun b l => joinLevels b.later l) []⟩

/-- A collection that has a fault in itself, seen one level below. -/
def broken (f : Fault) : Built := ⟨.null, [], [[f]]⟩

end Built

namespace Node

/-- The values of the entries of a mapping, and its faults in order. -/
def buildEntries (d : Dialect) (build : Node → Built) (depth : Nat)
    (entries : List (Node × Node)) (make : List (Document × Document) → Document) : Built :=
  if d = .configuration && hasRepeatedKey entries then .broken .malformed
  else match mergedEntries depth entries with
    | .error f => .broken f
    | .ok entries =>
      let built := entries.map fun e =>
        let k := build e.1
        let k := if k.value.isKey then k else { k with now := k.now ++ [.malformed] }
        (k, build e.2)
      .collection (make (Entries.ofList (built.map fun e => (e.1.value, e.2.value)))) []
        (built.flatMap fun e => [e.1, e.2])

/-- The entries of an ordered mapping: mappings of one entry each, in a sequence. -/
def buildPairs (build : Node → Built) (items : List Node) : Built :=
  let built := items.map fun item => match item with
    | .mapping _ [(k, v)] => (build k, build v)
    | _ => (.ofExcept malformed, .ofExcept malformed)
  .collection (.list (built.map fun e => .tuple [e.1.value, e.2.value])) []
    (built.flatMap fun e => [e.1, e.2])

/-- The value of a node with its faults. The first argument bounds the nesting. -/
def build (d : Dialect) : Nat → Node → Built
  | 0, _ => .broken .malformed
  | depth + 1, n =>
    let fromEntries (make : List (Document × Document) → Document) : Built :=
      match n with
      | .mapping _ entries => buildEntries d (build d depth) depth entries make
      | _ => .broken .malformed
    match n.tag with
    | .sequence =>
      match n with
      | .sequence _ items =>
        let built := items.map (build d depth)
        .collection (.list (built.map Built.value)) [] built
      | _ => .broken .malformed
    | .mapping => fromEntries .map
    | .set => fromEntries fun es => .set (es.map Prod.fst)
    | .orderedMap | .pairs =>
      match n with
      | .sequence _ items => buildPairs (build d depth) items
      | _ => .broken .malformed
    | tag =>
      match n.scalarText? with
      | none => .ofExcept malformed
      | some text => .ofExcept ((Scalar.value? tag text).getD malformed)

/-- The document that a node stands for, or the first fault. -/
def toDocument (d : Dialect) (n : Node) : Except Fault Document :=
  let built := n.build d (n.depth + 1)
  match (built.now :: built.later).flatten with
  | [] => .ok built.value
  | f :: _ => .error f

end Node

/-- The document that a text holds, or what is wrong with it; a text without any holds nothing. -/
def documentOf (d : Dialect) (text : List Char) : Except Fault Document := do
  match ← Node.ofTokens d (← tokensOf text) with
  | none => .ok .null
  | some n => n.toDocument d

/-- Reads the document that a text holds. -/
def readText (d : Dialect) (text : List Char) : Except PluginHarness.Fault Document :=
  (documentOf d text).mapError Fault.general

end PluginHarness.Yaml
