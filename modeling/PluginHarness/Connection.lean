import PluginHarness.World

/-!
# Connections to the plugin

Connections are expensive, so a connection is kept and only replaced when another address is
wanted. An endpoint is unbound, or owns a connection that it opened, or shares a connection that
another endpoint owns; only the owner closes a connection.

## Main definitions

* `Connection.target`: the target of a channel to an address.
* `Dialer`: how connections are opened.
* `ensurePair`: keeps or replaces a connection that is given with its address.
* `Endpoint.ensure`, `Endpoint.share`, `Endpoint.close`: the operations of an endpoint.
-/

namespace PluginHarness

namespace Connection

/-- The target of a channel to an address. What names a scheme or a port is taken as it is; an
absolute path and any other name stand for a socket in the file system. -/
def target (address : String) : String :=
  if "unix:".isPrefixOf address then address
  else if "/".isPrefixOf address then "unix://" ++ address
  else if address.toList.contains ':' then address
  else "unix:" ++ address

/-- The time limit for a channel to become ready. -/
def readyDeadline : Deadline := some (.int 60)

/-- The greatest pause between two attempts of a channel to connect, in milliseconds. -/
def maxBackoff : Nat := 1000

/-- Closes a connection; its failure passes. -/
def close (c : Connection) : Attempt World Unit := do
  World.record (.closed c)
  let w ← Attempt.state
  match w.environment.closeFailure c with
  | some e => Attempt.fail e
  | none => return ()

/-- Closes a connection; an ordinary failure is reported and forgotten. -/
def closeQuietly (c : Connection) (description : String) : Attempt World Unit :=
  (close c).rescue fun e =>
    World.report "connection" .warning
      ("Ignoring error while closing " ++ description ++ ": " ++ e.message)

/-- Opens a channel and waits until it is ready. A channel that is not ready in time is closed
again. -/
def connect (address : String) (deadline : Deadline) : Attempt World Connection := do
  if address = "" then Attempt.fail (.fault .noAddress)
  else
    let target := target address
    World.report "connection" .debug
      ("Dialing " ++ address ++ " (target " ++ target ++ ")")
    let w ← Attempt.state
    let ready := w.environment.becomesReady w.dials target
    World.record (.channelOpened target)
    let c ← World.openConnection
    World.record (.awaited deadline)
    if ready then return c
    close c
    Attempt.fail (.within (.dial address deadline) (.fault .channelTimeout))

end Connection

/-- How connections are opened. -/
inductive Dialer where
  /-- By a dial function of the environment. -/
  | plain
  /-- By a channel that has to become ready. -/
  | channel
  deriving DecidableEq, Repr

/-- Opens a connection to an address; a dial may also end without one. -/
def Dialer.dial (d : Dialer) (address : String) : Attempt World (Option Connection) := do
  World.record (.dialing address)
  match d with
  | .channel => some <$> Connection.connect address Connection.readyDeadline
  | .plain => do
    let w ← Attempt.state
    World.record (.dialed address)
    match w.environment.dial w.dials address with
    | .connected => some <$> World.openConnection
    | .absent => return none
    | .failed e => Attempt.fail e

/-- Keeps the connection if it was opened to the wanted address; else closes it and opens
another one. -/
def ensurePair (d : Dialer) (current : Option Connection × String) (wanted : String) :
    Attempt World (Option Connection × String) := do
  match current with
  | (some c, address) =>
    if address = wanted then return current
    Connection.closeQuietly c ("connection to " ++ address)
    return (← d.dial wanted, wanted)
  | (none, _) => return (← d.dial wanted, wanted)

/-- The connection of one endpoint of the plugin. -/
structure Endpoint where
  name : String
  dialer : Dialer
  connection : Option Connection
  /-- The address that the connection was opened to. -/
  address : String
  /-- The endpoint opened the connection and has to close it. -/
  owned : Bool
  deriving DecidableEq, Repr

namespace Endpoint

/-- An endpoint without connection. -/
def unbound (name : String) (dialer : Dialer) : Endpoint := ⟨name, dialer, none, "", false⟩

/-- There is a connection. -/
def isBound (e : Endpoint) : Bool := e.connection.isSome

/-- There is a connection that another endpoint owns. -/
def isShared (e : Endpoint) : Bool := e.connection.isSome && !e.owned

/-- The endpoint without its connection. -/
def cleared (e : Endpoint) : Endpoint := unbound e.name e.dialer

/-- An attempt on the world beside an endpoint. -/
def onWorld {α : Type} (x : Attempt World α) : Attempt (Endpoint × World) α :=
  x.on Prod.snd fun w s => (s.1, w)

/-- Sets the endpoint. -/
def set (e : Endpoint) : Attempt (Endpoint × World) Unit :=
  Attempt.change fun s => (e, s.2)

/-- Closes the connection if it is owned, and forgets it. -/
def release : Attempt (Endpoint × World) Unit := do
  let (e, _) ← Attempt.state
  if e.owned then
    if let some c := e.connection then
      onWorld (Connection.closeQuietly c
        ("connection to " ++ e.name ++ " at " ++ e.address))
  set e.cleared

/-- Makes sure that the endpoint owns a connection to the address: one that it owns already is
kept, any other one is given up for a new one. -/
def ensure (address : String) : Attempt (Endpoint × World) (Option Connection) := do
  let (e, _) ← Attempt.state
  if e.owned && e.connection.isSome && e.address == address then
    onWorld (World.reportStep "connection"
      ("reusing connection to " ++ e.name ++ " at " ++ address))
    return e.connection
  release
  onWorld (World.reportStep "connection" ("connecting to " ++ e.name))
  let c ← onWorld (e.dialer.dial address)
  set { e with connection := c, address := address, owned := true }
  return c

/-- Shares the connection of another endpoint as it is now, without owning it. -/
def share (other : Endpoint) : Attempt (Endpoint × World) (Option Connection) := do
  let (e, _) ← Attempt.state
  if e.owned then release
  set { e with connection := other.connection, address := other.address, owned := false }
  return other.connection

/-- Closes an owned connection and forgets any. -/
def close : Attempt (Endpoint × World) Unit := release

end Endpoint

end PluginHarness
