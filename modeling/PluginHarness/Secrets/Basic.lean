import PluginHarness.Attempt
import PluginHarness.Secrets.Operation

/-!
# Credentials

Credentials are text under names, one bundle for each operation. A document gives them as a
mapping from operation keys to mappings; what it says under other keys does not matter. Values
other than texts are written as text, flags as `true` and `false`.

## Main definitions

* `TextMap`: texts under names, in order.
* `textEntries`: the texts of a mapping.
* `Secrets`: the credentials of every operation.
* `Secrets.ofDocument`: the credentials that a document gives, or why it gives none.
* `Secrets.forIdentifier`: the credentials of an operation by its name or key.
-/

namespace PluginHarness

/-- Texts under names, in order. -/
abbrev TextMap := Entries String String

/-- A value that has a text: anything but nothing, a list or a mapping. -/
def Document.isPlain : Document → Bool
  | .null | .list _ | .map _ => false
  | _ => true

/-- The text of a value; flags are written in lower case. -/
def Document.plainText? : Document → Option String
  | .bool b => some (if b then "true" else "false")
  | d => d.text?

/-- Writes the entries of a mapping as text one after the other; `refuse` says why a value that
has no text is refused. -/
def textEntries (refuse : Document → Failure) :
    TextMap → List (Document × Document) → Except Failure TextMap
  | done, [] => .ok done
  | done, (key, value) :: rest =>
    if value.isPlain then
      match key.text?, value.plainText? with
      | some k, some v => textEntries refuse (done.insert k v) rest
      | _, _ => .error (.fault .unwritable)
    else .error (refuse key)

/-- The credentials of every operation. -/
structure Secrets where
  get : Operation → TextMap

namespace Secrets

/-- No credentials at all. -/
def empty : Secrets := ⟨fun _ => []⟩

/-- The credentials with those of one operation replaced. -/
def set (s : Secrets) (o : Operation) (m : TextMap) : Secrets :=
  ⟨fun o' => if o' = o then m else s.get o'⟩

/-- The credentials given by field names; the first name that is no field is refused. -/
def ofFields : List (String × TextMap) → Except Failure Secrets
  | [] => .ok empty
  | (name, m) :: rest =>
    match Operation.ofField? name with
    | none => .error (.fault (.unknownName .secrets name))
    | some o => do return (← ofFields rest).set o m

/-- The operations that have credentials, with them. -/
def bundles (s : Secrets) : List (Operation × TextMap) :=
  (Operation.all.map fun o => (o, s.get o)).filter fun b => !b.2.isEmpty

/-- No operation has credentials. -/
def isEmpty (s : Secrets) : Bool := Operation.all.all fun o => (s.get o).isEmpty

/-- Why a credential is refused. -/
def refusal (o : Operation) (key : Document) : Failure :=
  match key.text? with
  | some name => .fault (.secrets (.valueNotText o name))
  | none => .fault .unwritable

/-- The credentials that the value under an operation's key gives. -/
def ofValue (o : Operation) : Document → Except Failure TextMap
  | .null => .ok []
  | .map entries => textEntries (refusal o) [] entries
  | other => .error (.fault (.secrets (.operationNotMapping o other.kindName)))

/-- The operation that a key of the document names. -/
def operationOf? (key : Document) : Option Operation :=
  key.asText?.bind Operation.ofKey?

/-- Reads the entries of a document one after the other. -/
def ofEntries : Secrets → List (Document × Document) → Except Failure Secrets
  | done, [] => .ok done
  | done, (key, value) :: rest =>
    match operationOf? key with
    | none => ofEntries done rest
    | some o =>
      match ofValue o value with
      | .ok m => ofEntries (done.set o m) rest
      | .error e => .error e

/-- The credentials that a document gives. -/
def ofDocument : Document → Except Failure Secrets
  | .null => .ok empty
  | .map entries => ofEntries empty entries
  | other => .error (.fault (.secrets (.notMapping other.kindName)))

/-- The keys of a document that are reported as unknown: those that come before the entry, if
any, that is refused. -/
def unknownKeys : List (Document × Document) → List Document
  | [] => []
  | (key, value) :: rest =>
    match operationOf? key with
    | none => key :: unknownKeys rest
    | some o =>
      match ofValue o value with
      | .ok _ => unknownKeys rest
      | .error _ => []

/-- The credentials of the operation with this name or key. -/
def forIdentifier (s : Secrets) (identifier : String) : Except Failure TextMap :=
  match Operation.ofIdentifier? identifier with
  | some o => .ok (s.get o)
  | none => .error (.fault (.unknownOperation identifier))

end Secrets

end PluginHarness
