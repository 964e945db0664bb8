import PluginHarness.Failure
import PluginHarness.Reference.Text

/-!
# Resolving references

A configuration document is checked when it is loaded, and then every text with references is
replaced by what it refers to. A text that is one reference takes over the value as it is; in any
other text references are written out. A path of keys starts at the root, or, with dots in front,
at the collection around the text or further out. A reference that leads back to itself is
refused, and so is one to a collection that contains it.

Locations are lists of positions from the root. The first argument of the resolving functions
bounds how many references are followed in a row; the size of the document is enough.

## Main definitions

* `Reference.check`: what is refused when a document is loaded.
* `Reference.Target`: what a reference leads to.
* `Reference.resolveAll`: the document without references.
-/

namespace PluginHarness.Reference

/-- The text of a value that has to be given. -/
def missingText : String := "???"

/-! ### Checking a document -/

/-- A key that a configuration can hold. -/
def isConfigKey : Document → Bool
  | .text _ | .bytes _ | .int _ | .float _ | .bool _ => true
  | _ => false

/-- Runs checks in order. -/
def inOrder (a b : Except ReferenceFault Unit) : Except ReferenceFault Unit :=
  match a with
  | .ok () => b
  | .error f => .error f

mutual

/-- Refuses keys and values of other kinds, and references that are not well formed. -/
def check : Document → Except ReferenceFault Unit
  | .text s => if mentionedIn s.toList && !isAccepted s.toList then .error .grammar else .ok ()
  | .null | .bool _ | .int _ | .float _ | .bytes _ => .ok ()
  | .date _ | .moment _ | .set _ => .error .valueKind
  | .list items | .tuple items => checkAll items
  | .map entries => checkEntries entries

/-- Checks values in order. -/
def checkAll : List Document → Except ReferenceFault Unit
  | [] => .ok ()
  | d :: rest => inOrder (check d) (checkAll rest)

/-- Checks keys and values in order. -/
def checkEntries : List (Document × Document) → Except ReferenceFault Unit
  | [] => .ok ()
  | (k, v) :: rest =>
    if isConfigKey k then inOrder (check v) (checkEntries rest) else .error .keyKind

end

/-! ### Locations -/

/-- A list of positions from the root. -/
abbrev Location := List Nat

/-- The part of a collection at a position. -/
def part? (d : Document) (i : Nat) : Option Document :=
  match d with
  | .list items | .tuple items => items[i]?
  | .map entries => entries[i]?.map Prod.snd
  | _ => none

/-- What is at a location. -/
def valueAt? : Document → Location → Option Document
  | d, [] => some d
  | d, i :: rest => (part? d i).bind fun d => valueAt? d rest

/-- The value is a collection. -/
def isCollection : Document → Bool
  | .list _ | .tuple _ | .map _ => true
  | _ => false

/-- The positions of a collection. -/
def positions : Document → List Nat
  | .list items | .tuple items => List.range items.length
  | .map entries => List.range entries.length
  | _ => []

/-- What a reference leads to: a location in the document, or a value of its own. -/
inductive Target where
  | location (l : Location)
  | value (d : Document)

/-- The value of a target, with the references that it may hold. -/
def Target.document (root : Document) : Target → Document
  | .location l => (valueAt? root l).getD .null
  | .value d => d

/-- The position of a key, as it is written in a path, in a collection: none when there is no
such key; a list has only numbers as keys. -/
def position? (d : Document) (key : String) : Except ReferenceFault (Option Nat) :=
  match d with
  | .map entries => .ok (entries.findIdx? fun e => e.1.asText? == some key)
  | .list items | .tuple items =>
    match Literal.readInteger 10 key.toList with
    | .ok i => .ok (if 0 ≤ i ∧ i < items.length then some i.toNat else none)
    | .error _ => .error .unresolvable
  | _ => .error .unresolvable

/-- The keys of a path, behind the dots in front: separated by dots, or in brackets. -/
def splitKeys (path : List Char) : List String :=
  let parts := path.foldr (fun c (acc : List (List Char) × List Char) =>
    if c = '.' || c = '[' then (acc.2 :: acc.1, [])
    else if c = ']' then acc
    else (acc.1, c :: acc.2)) ([], [])
  let all := parts.2 :: parts.1
  -- a bracket at the very beginning leaves nothing in front of it
  let all := if path.head? = some '[' then all.drop 1 else all
  all.map String.ofList

/-! ### Resolving -/

/-- What a path that begins with dots starts from, and the keys behind the dots. -/
def startOf (here : Location) (path : List Char) : Except ReferenceFault (Location × List String) :=
  let dots := (path.takeWhile (· == '.')).length
  if dots = 0 then .ok ([], splitKeys path)
  else if here.length < dots - 1 then .error .unknownKey
  else .ok (here.take (here.length - (dots - 1)), splitKeys (path.drop dots))

/-- A fault of a text that is referred to, as it counts for the text that refers to it. -/
def asReferred : ReferenceFault → ReferenceFault
  | .grammar => .unresolvable
  | f => f

/-- A value as it is written in another text. -/
def written (d : Document) : Except ReferenceFault (List Char) :=
  match d.text? with
  | some s => .ok s.toList
  | none => .error .unresolvable

mutual

/-- Resolves a text with references inside the collection at `here`. -/
def resolveText : Nat → (root : Document) → (lookup? : String → Option String) →
    (here : Location) → (pending : List Location) → String → Except ReferenceFault Target
  | 0, _, _, _, _, _ => .error .unresolvable
  | steps + 1, root, lookup?, here, pending, s =>
    match piecesOf? s.toList with
    | none => .error .grammar
    | some [.reference r] =>
      (resolve steps root lookup? here pending r).mapError asReferred
    | some pieces => do
      let cs ← (writePieces steps root lookup? here pending pieces).mapError asReferred
      return .value (.text (String.ofList cs))

/-- Writes pieces out. -/
def writePieces : Nat → (root : Document) → (lookup? : String → Option String) →
    (here : Location) → (pending : List Location) → List Piece →
    Except ReferenceFault (List Char)
  | 0, _, _, _, _, _ => .error .unresolvable
  | _ + 1, _, _, _, _, [] => .ok []
  | steps + 1, root, lookup?, here, pending, .chars cs :: rest => do
    return cs ++ (← writePieces steps root lookup? here pending rest)
  | steps + 1, root, lookup?, here, pending, .reference r :: rest => do
    let t ← resolve steps root lookup? here pending r
    return (← written (t.document root)) ++
      (← writePieces steps root lookup? here pending rest)

/-- Writes the keys of a path out; a reference among them has to give a text. -/
def writeKeys : Nat → (root : Document) → (lookup? : String → Option String) →
    (here : Location) → (pending : List Location) → List Piece →
    Except ReferenceFault (List Char)
  | 0, _, _, _, _, _ => .error .unresolvable
  | _ + 1, _, _, _, _, [] => .ok []
  | steps + 1, root, lookup?, here, pending, .chars cs :: rest => do
    return cs ++ (← writeKeys steps root lookup? here pending rest)
  | steps + 1, root, lookup?, here, pending, .reference r :: rest => do
    match (← resolve steps root lookup? here pending r).document root with
    | .text s => return s.toList ++ (← writeKeys steps root lookup? here pending rest)
    | _ => .error .unresolvable

/-- What a reference leads to. -/
def resolve : Nat → (root : Document) → (lookup? : String → Option String) →
    (here : Location) → (pending : List Location) → Reference → Except ReferenceFault Target
  | 0, _, _, _, _, _ => .error .unresolvable
  | steps + 1, root, lookup?, here, pending, .path pieces => do
    let path ← writeKeys steps root lookup? here pending pieces
    let (start, keys) ← startOf here path
    let t ← follow steps root lookup? pending (.location start) keys
    match t with
    | .location l => if l.isPrefixOf here then .error .unresolvable else return t
    | .value _ => return t
  | steps + 1, root, lookup?, here, pending, .source name args => do
    let name ← writeKeys steps root lookup? here pending name
    let args ← argumentValues steps root lookup? here pending args
    callSource steps root lookup? here pending (String.ofList name) args

/-- Follows keys from a collection. The last one must not be one that is being resolved. -/
def follow : Nat → (root : Document) → (lookup? : String → Option String) →
    (pending : List Location) → Target → List String → Except ReferenceFault Target
  | 0, _, _, _, _, _ => .error .unresolvable
  | _ + 1, _, _, _, t, [] => .ok t
  | steps + 1, root, lookup?, pending, t, key :: rest => do
    let d := t.document root
    match ← position? d key with
    | none => .error .unknownKey
    | some i =>
      let child := (part? d i).getD .null
      match child with
      | .text s =>
        if s = missingText then .error .toMissing
        else if !mentionedIn s.toList then
          if rest.isEmpty then return (match t with
            | .location l => .location (l ++ [i])
            | .value _ => .value child)
          else .error .unresolvable
        else match t with
          | .value _ => if rest.isEmpty then return .value child else .error .unresolvable
          | .location l =>
            if rest.isEmpty then
              if pending.contains (l ++ [i]) then .error .unresolvable
              else
                (resolveText steps root lookup? l ((l ++ [i]) :: pending) s).mapError asReferred
            else
              let found ←
                (resolveText steps root lookup? l pending s).mapError asReferred
              follow steps root lookup? pending found rest
      | _ =>
        if rest.isEmpty || isCollection child then
          follow steps root lookup? pending (match t with
            | .location l => .location (l ++ [i])
            | .value _ => .value child) rest
        else .error .unresolvable

/-- The values of arguments. -/
def argumentValues : Nat → (root : Document) → (lookup? : String → Option String) →
    (here : Location) → (pending : List Location) → List SourceArgument →
    Except ReferenceFault (List Document)
  | 0, _, _, _, _, _ => .error .unresolvable
  | _ + 1, _, _, _, _, [] => .ok []
  | steps + 1, root, lookup?, here, pending, arg :: rest => do
    let d ← argumentValue steps root lookup? here pending arg
    return d :: (← argumentValues steps root lookup? here pending rest)

/-- The value of an argument. -/
def argumentValue : Nat → (root : Document) → (lookup? : String → Option String) →
    (here : Location) → (pending : List Location) → SourceArgument →
    Except ReferenceFault Document
  | 0, _, _, _, _, _ => .error .unresolvable
  | steps + 1, root, lookup?, here, pending, arg => do
    match arg with
    | .value d => return d
    | .text pieces =>
      return .text (String.ofList (← writePieces steps root lookup? here pending pieces))
    | .reference r => return (← resolve steps root lookup? here pending r).document root
    | .list items => return .list (← argumentValues steps root lookup? here pending items)
    | .map entries =>
      let values ← argumentValues steps root lookup? here pending (entries.map Prod.snd)
      return .map (Entries.ofList ((entries.map Prod.fst).zip values))

/-- What a source gives for its arguments: a variable of the environment, with an optional text
in its place; a value by a path, with an optional value in its place; a value read from a text;
or the argument itself. -/
def callSource : Nat → (root : Document) → (lookup? : String → Option String) →
    (here : Location) → (pending : List Location) → (name : String) → List Document →
    Except ReferenceFault Target
  | 0, _, _, _, _, _, _ => .error .unresolvable
  | steps + 1, root, lookup?, here, pending, name, args => do
    if name = "oc.env" then
      match args with
      | .text v :: fallback =>
        match lookup? v, fallback with
        | some s, [] | some s, [_] => return .value (.text s)
        | none, [.null] => return .value .null
        | none, [d] => return .value (.text (String.ofList (← written d)))
        | _, _ => .error .unresolvable
      | _ => .error .unresolvable
    else if name = "oc.select" then
      match args with
      | .text keyPath :: fallback =>
        let found := do
          let (start, keys) ← startOf here keyPath.toList
          follow steps root lookup? pending (.location start) keys
        match found, fallback with
        | .ok t, [] | .ok t, [_] => return t
        | .error .unknownKey, [] | .error .toMissing, [] => return .value .null
        | .error .unknownKey, [d] | .error .toMissing, [d] => return .value d
        | .error f, _ => .error (asReferred f)
        | _, _ => .error .unresolvable
      | _ => .error .unresolvable
    else if name = "oc.decode" then
      match args with
      | [.null] => return .value .null
      | [.text s] =>
        match argumentOf? s.toList with
        | none => .error .unresolvable
        | some arg => return .value (← argumentValue steps root lookup? here pending arg)
      | _ => .error .unresolvable
    else if name = "oc.create" then
      match args with
      | [d] => return .value d
      | _ => .error .unresolvable
    else .error .unknownResolver

end

/-- The document at a location without references. The first argument bounds the nesting, the
second how many references are followed in a row. -/
def resolveAt : Nat → (steps : Nat) → (root : Document) → (lookup? : String → Option String) →
    Location → Except ReferenceFault Document
  | 0, _, _, _, _ => .error .unresolvable
  | depth + 1, steps, root, lookup?, l => do
    let d := (valueAt? root l).getD .null
    let resolved (spot : Location) : Except ReferenceFault Document :=
      let found := (valueAt? root spot).getD .null
      if isCollection found then resolveAt depth steps root lookup? spot else .ok found
    let parts ← (positions d).mapM fun i =>
      match part? d i with
      | some (.text s) =>
        if s = missingText then .error .missing
        else if !mentionedIn s.toList then .ok (.text s)
        else do
          match ← resolveText steps root lookup? l [] s with
          | .value v => return v
          | .location t => resolved t
      | _ => resolved (l ++ [i])
    match d with
    | .map entries => return .map ((entries.map Prod.fst).zip parts)
    | _ => return .list parts

mutual

/-- How many values and characters of texts a document holds. -/
def weight : Document → Nat
  | .text s => s.length + 1
  | .list items | .tuple items | .set items => weightAll items + 1
  | .map entries => weightEntries entries + 1
  | _ => 1

/-- The weight of several values. -/
def weightAll : List Document → Nat
  | [] => 0
  | d :: rest => weight d + weightAll rest

/-- The weight of the values of entries. -/
def weightEntries : List (Document × Document) → Nat
  | [] => 0
  | (_, d) :: rest => weight d + weightEntries rest

end

/-- The document without references. -/
def resolveAll (lookup? : String → Option String) (root : Document) :
    Except ReferenceFault Document :=
  let size := weight root
  resolveAt (size + 1) (8 * size + 8) root lookup? []

end PluginHarness.Reference
