import PluginHarness.Failure
import PluginHarness.Text.Blank

/-!
# Strategies for locations

A location is created and removed by a command, by a callback, or in the file system. A command
line that is not blank goes before a callback, and a callback before the file system.

## Main definitions

* `Strategy`: the three ways; `Strategy.describe`: their names in messages.
* `Strategy.resolve`: the way that is taken.

## Main results

* `Strategy.resolve_eq_command_iff`: which lines are taken as commands.
-/

namespace PluginHarness

/-- A function supplied from outside. It is known by its number; its qualified name, if it has
one, or else its display form describes it. -/
structure Callback where
  number : Nat
  qualifiedName : Option String
  display : String
  deriving DecidableEq, Repr

/-- A way to create or remove a location. -/
inductive Strategy where
  /-- Running a command, which is stopped at its deadline. -/
  | command (line : String) (deadline : Deadline)
  | callback (c : Callback)
  /-- Making and removing directories. -/
  | fileSystem
  deriving DecidableEq, Repr

/-- A callback is described by its qualified name, or by its display form when that is missing
or empty. -/
def Callback.describe (c : Callback) : String :=
  match c.qualifiedName with
  | some name => if name = "" then c.display else name
  | none => c.display

namespace Strategy

/-- The time limit for commands when none is given. -/
def defaultDeadline : Deadline := some (.int 10)

/-- The strategy in messages. -/
def describe : Strategy → String
  | .command line _ => describeCommand line
  | .callback c => "callback " ++ c.describe
  | .fileSystem => "default"

/-- The way that is taken. -/
def resolve (line : String) (callback : Option Callback) (deadline : Deadline) : Strategy :=
  if Text.isBlankText line then
    match callback with
    | some c => .callback c
    | none => .fileSystem
  else .command line deadline

/-- A line is taken as a command, as it is, unless all of it is blank. -/
theorem resolve_eq_command_iff {line line' : String} {callback : Option Callback}
    {deadline limit : Deadline} :
    resolve line callback deadline = .command line' limit ↔
      Text.isBlankText line = false ∧ line' = line ∧ limit = deadline := by
  unfold resolve
  cases hline : Text.isBlankText line with
  | true => cases callback <;> simp
  | false => simp [eq_comm]

end Strategy

end PluginHarness
