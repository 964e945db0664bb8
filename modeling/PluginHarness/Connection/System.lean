import PluginHarness.Connection

/-!
# Systems of endpoints

Endpoints that share one world. They share connections among themselves, and each of them closes
only what it opened.

An endpoint that shares its own connection gives up what it owns first, so nothing is left to
share: it is unbound afterwards and never keeps a closed connection.

## Main definitions

* `Endpoints`: a family of endpoints.
* `Endpoints.ensure`, `Endpoints.share`, `Endpoints.close`: the operations of one of them.
* `Endpoints.Call`, `Endpoints.perform`: an operation as a value, and what it does.
-/

namespace PluginHarness

/-- A family of endpoints. -/
abbrev Endpoints (ι : Type) := ι → Endpoint

namespace Endpoints

variable {ι α : Type} [DecidableEq ι]

/-- The family with one endpoint replaced. -/
def replace (s : Endpoints ι) (i : ι) (e : Endpoint) : Endpoints ι :=
  fun j => if j = i then e else s j

/-- An attempt on one endpoint. -/
def onEndpoint (i : ι) (x : Attempt (Endpoint × World) α) : Attempt (Endpoints ι × World) α :=
  x.on (fun s => (s.1 i, s.2)) fun t s => (s.1.replace i t.1, t.2)

/-- Makes sure that an endpoint owns a connection to the address. -/
def ensure (i : ι) (address : String) : Attempt (Endpoints ι × World) (Option Connection) :=
  onEndpoint i (Endpoint.ensure address)

/-- Closes the connection of an endpoint if it owns one, and forgets any. -/
def close (i : ι) : Attempt (Endpoints ι × World) Unit := onEndpoint i Endpoint.close

/-- Lets an endpoint share the connection of another one. -/
def share (i j : ι) : Attempt (Endpoints ι × World) (Option Connection) := do
  if i = j then
    if ((← Attempt.state).1 i).owned then close i
    return ((← Attempt.state).1 i).connection
  else
    let (s, _) ← Attempt.state
    onEndpoint i (Endpoint.share (s j))

/-- An operation of one endpoint. -/
inductive Call (ι : Type) where
  | ensure (i : ι) (address : String)
  | share (i j : ι)
  | close (i : ι)
  deriving DecidableEq, Repr

/-- Does an operation and gives the connection of the endpoint, if there is one. -/
def perform : Call ι → Attempt (Endpoints ι × World) (Option Connection)
  | .ensure i address => ensure i address
  | .share i j => share i j
  | .close i => do
    close i
    return none

@[simp] theorem replace_same (s : Endpoints ι) (i : ι) (e : Endpoint) : s.replace i e i = e := by
  simp [replace]

theorem replace_of_ne (s : Endpoints ι) {i j : ι} (e : Endpoint) (h : j ≠ i) :
    s.replace i e j = s j := by
  simp [replace, h]

end Endpoints

end PluginHarness
