import PluginHarness.Yaml.Tag
import PluginHarness.Yaml.Token

/-!
# Nodes

A text holds at most one document, and a document is a node: a scalar, a sequence or a mapping,
each with its tag. Aliases are replaced by the nodes that they name; an alias inside its own node
stands for an empty one of the same kind.

The functions that read nodes go down the nesting and along the entries; their first argument
bounds how far they go, and the number of tokens is enough.

## Main definitions

* `Node`: the nodes.
* `Composer`: what is still to be read, and the names in force.
* `Node.ofTokens`: the node of a document, if there is one.
-/

namespace PluginHarness.Yaml

/-- A scalar, a sequence or a mapping with its tag. -/
inductive Node where
  | scalar (tag : Tag) (text : String)
  | sequence (tag : Tag) (items : List Node)
  | mapping (tag : Tag) (entries : List (Node × Node))

/-- The tokens still to be read, what the tag handles stand for, and the nodes with names. -/
structure Composer where
  tokens : List Token
  dialect : Dialect
  handles : List (String × String)
  anchors : List (String × Node)

/-- Reads a part of the tokens. -/
abbrev Compose := StateT Composer (Except Fault)

namespace Compose

/-- The tokens do not fit together. -/
def refuse {α : Type} : Compose α := throw .malformed

/-- The next token. -/
def peek : Compose Token := do return (← get).tokens.headD .streamEnd

/-- Goes on behind the next token. -/
def advance : Compose Unit := modify fun s => { s with tokens := s.tokens.drop 1 }

/-- Whether the next token is one of these; if so, the scalar in its place is empty. -/
def nextIsAny (ts : List Token) : Compose Bool := do return ts.contains (← peek)

/-- The anchor or the tag here, if there is one. -/
def property : Compose (Option (String ⊕ (Option String × String))) := do
  match ← peek with
  | .anchor name => advance; return some (.inl name)
  | .tag handle suffix => advance; return some (.inr (handle, suffix))
  | _ => return none

/-- An anchor and a tag, in either order, at most one of each. -/
def properties : Compose (Option String × Option (Option String × String)) := do
  match ← property with
  | none => return (none, none)
  | some (.inl name) =>
    match ← peek with
    | .tag handle suffix => advance; return (some name, some (handle, suffix))
    | _ => return (some name, none)
  | some (.inr tag) =>
    match ← peek with
    | .anchor name => advance; return (some name, some tag)
    | _ => return (none, some tag)

/-- The full tag. -/
def fullTag : Option String × String → Compose String
  | (none, suffix) => return suffix
  | (some handle, suffix) => do
    match Entries.get? handle (← get).handles with
    | some stem => return stem ++ suffix
    | none => refuse

/-- A tag that leaves the kind open. -/
def isOpen : Option String → Bool
  | none => true
  | some name => name == "!"

/-- The kind of a collection. -/
def kindOr (default : Tag) : Option String → Tag
  | none => default
  | some name => if name == "!" then default else .ofName name

/-- The kind of a scalar; a plain one without a tag is known by its form. -/
def scalarKind (plain : Bool) (text : String) (tag : Option String) : Compose Tag := do
  match tag with
  | some name => if name == "!" then return .ofPlain (← get).dialect text else return .ofName name
  | none => if plain then return .ofPlain (← get).dialect text else return .text

/-- The node of an empty place. -/
def emptyNode : Compose Node := do return .scalar (← scalarKind true "" none) ""

/-- Names a node; a name is given once only. -/
def declare (anchor : Option String) (n : Node) : Compose Unit := do
  if let some name := anchor then
    if (Entries.get? name (← get).anchors).isSome then refuse
    modify fun s => { s with anchors := (name, n) :: s.anchors }

/-- Replaces the node under a name that was given before. -/
def complete (anchor : Option String) (n : Node) : Compose Node := do
  if let some name := anchor then
    modify fun s => { s with anchors := Entries.insert name n s.anchors }
  return n

mutual

/-- A node. Blocks can begin only where `block`; a sequence without own indentation only where
`unindented`. -/
def node : Nat → (block unindented : Bool) → Compose Node
  | 0, _, _ => refuse
  | depth + 1, block, unindented => do
    if let .alias name := ← peek then
      advance
      match Entries.get? name (← get).anchors with
      | some n => return n
      | none => refuse
    else
      let (anchor, rawTag) ← properties
      let tag ← rawTag.mapM fullTag
      let sequenceOf (items : Compose (List Node)) : Compose Node := do
        let kind := kindOr .sequence tag
        declare anchor (.sequence kind [])
        complete anchor (.sequence kind (← items))
      let mappingOf (entries : Compose (List (Node × Node))) : Compose Node := do
        let kind := kindOr .mapping tag
        declare anchor (.mapping kind [])
        complete anchor (.mapping kind (← entries))
      match ← peek with
      | .scalar text plain =>
        advance
        let n := Node.scalar (← scalarKind plain text tag) text
        declare anchor n
        return n
      | .flowSequenceStart => advance; sequenceOf (flowItems depth true)
      | .flowMappingStart => advance; mappingOf (flowEntries depth true)
      | next =>
        if unindented && next == .blockEntry then sequenceOf (unindentedItems depth)
        else if block && next == .blockSequenceStart then
          advance
          sequenceOf (blockItems depth)
        else if block && next == .blockMappingStart then
          advance
          mappingOf (blockEntries depth)
        else if anchor.isSome || tag.isSome then
          let n := Node.scalar (← scalarKind true "" tag) ""
          declare anchor n
          return n
        else refuse

/-- The entries of a block sequence, to its end. -/
def blockItems : Nat → Compose (List Node)
  | 0 => refuse
  | depth + 1 => do
    match ← peek with
    | .blockEntry =>
      advance
      let item ← if ← nextIsAny [.blockEntry, .blockEnd] then emptyNode else node depth true false
      return item :: (← blockItems depth)
    | .blockEnd => advance; return []
    | _ => refuse

/-- The entries of a sequence that has no indentation of its own. -/
def unindentedItems : Nat → Compose (List Node)
  | 0 => refuse
  | depth + 1 => do
    match ← peek with
    | .blockEntry =>
      advance
      let item ← if ← nextIsAny [.blockEntry, .key, .value, .blockEnd] then emptyNode
        else node depth true false
      return item :: (← unindentedItems depth)
    | _ => return []

/-- The entries of a block mapping, to its end. -/
def blockEntries : Nat → Compose (List (Node × Node))
  | 0 => refuse
  | depth + 1 => do
    match ← peek with
    | .key =>
      advance
      let key ← if ← nextIsAny [.key, .value, .blockEnd] then emptyNode else node depth true true
      let value ← blockValue depth
      return (key, value) :: (← blockEntries depth)
    | .blockEnd => advance; return []
    | _ => refuse

/-- The value of an entry of a block mapping. -/
def blockValue : Nat → Compose Node
  | 0 => refuse
  | depth + 1 => do
    match ← peek with
    | .value =>
      advance
      if ← nextIsAny [.key, .value, .blockEnd] then emptyNode else node depth true true
    | _ => emptyNode

/-- The entries of a sequence in brackets, to its end. -/
def flowItems : Nat → (first : Bool) → Compose (List Node)
  | 0, _ => refuse
  | depth + 1, first => do
    if (← peek) == .flowSequenceEnd then
      advance
      return []
    if !first then
      if (← peek) != .flowEntry then refuse
      advance
    match ← peek with
    | .key =>
      -- a single entry of a mapping without its braces
      advance
      let ends := [Token.flowEntry, .flowSequenceEnd]
      let key ← if ← nextIsAny (.value :: ends) then emptyNode else node depth false false
      let value ← flowValue depth ends
      return .mapping .mapping [(key, value)] :: (← flowItems depth false)
    | .flowSequenceEnd => advance; return []
    | _ =>
      let item ← node depth false false
      return item :: (← flowItems depth false)

/-- The entries of a mapping in braces, to its end. -/
def flowEntries : Nat → (first : Bool) → Compose (List (Node × Node))
  | 0, _ => refuse
  | depth + 1, first => do
    if (← peek) == .flowMappingEnd then
      advance
      return []
    if !first then
      if (← peek) != .flowEntry then refuse
      advance
    match ← peek with
    | .key =>
      advance
      let ends := [Token.flowEntry, .flowMappingEnd]
      let key ← if ← nextIsAny (.value :: ends) then emptyNode else node depth false false
      let value ← flowValue depth ends
      return (key, value) :: (← flowEntries depth false)
    | .flowMappingEnd => advance; return []
    | _ =>
      let key ← node depth false false
      let value ← emptyNode
      return (key, value) :: (← flowEntries depth false)

/-- The value of an entry in brackets or braces; `ends` are the tokens that make it empty. -/
def flowValue : Nat → (ends : List Token) → Compose Node
  | 0, _ => refuse
  | depth + 1, ends => do
    match ← peek with
    | .value =>
      advance
      if ← nextIsAny ends then emptyNode else node depth false false
    | _ => emptyNode

end

/-- What the tag handles stand for without any directive. -/
def defaultHandles : List (String × String) := [("!", "!"), ("!!", tagStem)]

/-- The directives before a document; `seen` says whether there was one for the version. -/
def directives : Nat → (seen : Bool) → (handles : List (String × String)) → Compose Unit
  | 0, _, _ => refuse
  | rounds + 1, seen, handles => do
    match ← peek with
    | .directive (.version major) =>
      advance
      if seen || major ≠ 1 then refuse
      directives rounds true handles
    | .directive (.handle handle stem) =>
      advance
      if (Entries.get? handle handles).isSome then refuse
      directives rounds seen ((handle, stem) :: handles)
    | .directive .other =>
      advance
      directives rounds seen handles
    | _ => modify fun s => { s with handles := handles ++ defaultHandles }

/-- Goes on behind marks of document ends. -/
def skipDocumentEnds : Compose Unit :=
  modify fun s => { s with tokens := s.tokens.dropWhile (· == .documentEnd) }

/-- The document of a text, if there is one. Behind it nothing may follow. -/
def document (depth : Nat) : Compose (Option Node) := do
  match ← peek with
  | .streamEnd => return none
  | .documentStart | .directive _ =>
    directives depth false []
    if (← peek) != .documentStart then refuse
    advance
    let next ← peek
    let isEmpty := match next with
      | .directive _ | .documentStart | .documentEnd | .streamEnd => true
      | _ => false
    let n ← if isEmpty then emptyNode else node depth true false
    skipDocumentEnds
    if (← peek) == .streamEnd then return some n else refuse
  | _ =>
    let n ← node depth true false
    skipDocumentEnds
    if (← peek) == .streamEnd then return some n else refuse

end Compose

/-- The node of the document that the tokens make, if there is one. -/
def Node.ofTokens (d : Dialect) (tokens : List Token) : Except Fault (Option Node) :=
  ((Compose.document (4 * tokens.length + 8)).run ⟨tokens, d, Compose.defaultHandles, []⟩).map
    Prod.fst

end PluginHarness.Yaml
