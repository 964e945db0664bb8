import PluginHarness.Files.Change
import PluginHarness.Location.Strategy
import PluginHarness.Log

/-!
# The world around a run

A run dials a plugin, runs commands, calls callbacks, changes files and reports what it does.
How the outside answers is given by an `Environment`; what the run did to it is kept in the
history, newest event first.

Connections are numbered in the order in which they are opened, so a new one is never one that
was there before.

## Main definitions

* `Environment`: the answers of dials, connections, programs, callbacks and the random source.
* `Event`: what a run does to the outside.
* `World`: the environment, the files, the number of connections opened and the history.
* `World.openConnection`, `World.record`, `World.report`: one connection more, one event more, one
  record more.
-/

namespace PluginHarness

/-- The number of a connection, in the order of opening. -/
abbrev Connection := Nat

/-- How a dial ends. -/
inductive DialReply where
  | connected
  /-- There is neither a connection nor a failure. -/
  | absent
  | failed (e : Failure)

/-- How a program ends that runs to its end. -/
structure Completion where
  output : String
  code : Int

/-- How the start of a program ends. -/
inductive Execution where
  /-- It does not start. -/
  | refused (e : Failure)
  /-- It takes this many seconds, unless it is stopped, and then does its work. -/
  | started (seconds : Number) (work : Attempt FileTree Completion)

/-- How the outside answers. Dials and channels are also told how many were opened before. -/
structure Environment where
  /-- A dial of an address. -/
  dial : Nat → String → DialReply
  /-- Whether a channel to a target becomes ready in time. -/
  becomesReady : Nat → String → Bool
  /-- The failure that closing a connection ends in, if any. -/
  closeFailure : Connection → Option Failure
  execute : List String → Execution
  call : Callback → Document → Attempt FileTree Document
  /-- Eight random bytes. -/
  entropy : Except Failure (List UInt8)
  lookup? : String → Option String

/-- What a run does to the outside. -/
inductive Event where
  /-- A dialer was asked for a connection to the address. -/
  | dialing (address : String)
  | dialed (address : String)
  | channelOpened (target : String)
  | awaited (deadline : Deadline)
  | closed (connection : Connection)
  | called (callback : Callback) (path : Document)
  | ran (argv : List String) (deadline : Deadline)
  /-- A place was created and is used under this path. -/
  | created (p : Place) (path : Document)
  /-- The removal of what is at the path was begun. -/
  | removing (s : Strategy) (path : Document)
  /-- The credentials in a file were asked for. -/
  | secretsRead (path : String)
  | reported (r : Record)

/-- The outside and what was done to it. -/
structure World where
  environment : Environment
  files : FileTree
  /-- How many connections were opened. -/
  opened : Nat
  /-- What was done, the newest first. -/
  history : List Event

namespace World

/-- Adds an event to the history. -/
def record (e : Event) : Attempt World Unit :=
  Attempt.change fun w => { w with history := e :: w.history }

/-- Opens a connection. -/
def openConnection : Attempt World Connection := fun w =>
  (.ok (w.opened + 1), { w with opened := w.opened + 1 })

/-- Reports a text. -/
def report (source : String) (level : Level) (text : String) : Attempt World Unit :=
  record (.reported ⟨Record.package ++ "." ++ source, level, text, false⟩)

/-- Reports a step of the lifecycle. -/
def reportStep (source : String) (text : String) : Attempt World Unit :=
  record (.reported ⟨Record.package ++ "." ++ source, Level.info, text, true⟩)

/-- Reports each key that can be written, after the same words. -/
def reportKeys (source : String) (level : Level) (words : String) (keys : List Document) :
    Attempt World Unit :=
  keys.forM fun key =>
    match key.text? with
    | some name => report source level (words ++ name)
    | none => return ()

/-- An attempt on the files. -/
def onFiles {α : Type} (x : Attempt FileTree α) : Attempt World α :=
  x.on World.files fun t w => { w with files := t }

/-- What was done after the first `n` events, the oldest first. -/
def since (n : Nat) (w : World) : List Event := (w.history.take (w.history.length - n)).reverse

/-- What was reported, the oldest first. -/
def records (w : World) : List Record :=
  w.history.reverse.filterMap fun e => match e with
    | .reported r => some r
    | _ => none

/-- How many dials there were. -/
def dials (w : World) : Nat :=
  w.history.countP fun e => match e with
    | .dialed _ | .channelOpened _ => true
    | _ => false

end World

end PluginHarness
