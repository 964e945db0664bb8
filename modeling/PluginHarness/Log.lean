import PluginHarness.Failure
import PluginHarness.Text.Case

/-!
# Log records

What a run reports while it goes on: a record has a source, a level, a text, and a mark when it
tells a step of the lifecycle. A log shows the records of this program from a threshold on.

## Main definitions

* `Level`: how important a record is; `Level.name`: its name.
* `Record`: what is reported; `Record.line`: how it is shown.
* `Record.fill?`: the text of a record whose arguments are given apart.
* `Threshold.ofName`: the threshold that a name stands for.
* `shown`: the records that a log shows.
-/

namespace PluginHarness

/-- How important a record is; higher is more important. -/
abbrev Level := Nat

namespace Level

/-- Details of what is done. -/
def debug : Level := 10
/-- What goes on. -/
def info : Level := 20
/-- What is wrong without being fatal. -/
def warning : Level := 30
/-- What went wrong. -/
def error : Level := 40
/-- What ends the program. -/
def critical : Level := 50

/-- The name of a level. -/
def name (l : Level) : String :=
  if l = 0 then "NOTSET"
  else if l = debug then "DEBUG"
  else if l = info then "INFO"
  else if l = warning then "WARNING"
  else if l = error then "ERROR"
  else if l = critical then "CRITICAL"
  else "Level " ++ toString l

end Level

/-- A report: where it comes from, how important it is, what it says, and whether it tells a
step of the lifecycle. -/
structure Record where
  source : String
  level : Level
  text : String
  step : Bool
  deriving DecidableEq, Repr

namespace Record

/-- The name under which this program reports. -/
def package : String := "csi_sanity"

/-- The record comes from this program or a part of it. -/
def isOwn (r : Record) : Bool := r.source == package || (package ++ ".").isPrefixOf r.source

/-- The record as it is shown, after what stands in front of its level. -/
def line (lead : String) (r : Record) : String :=
  (if r.step then "STEP: " else "") ++ lead ++ r.level.name ++ " " ++ r.source ++ ": " ++ r.text

/-- Fills the arguments of a record into its text: `%s` takes one as it is written, `%r` one as
it is quoted, `%%` is a percent sign. None when they do not fit. -/
def fillChars? : List Char → List Document → Option (List Char)
  | [], [] => some []
  | [], _ :: _ => none
  | '%' :: '%' :: rest, args => ('%' :: ·) <$> fillChars? rest args
  | '%' :: 's' :: rest, a :: args => do return (← a.text?).toList ++ (← fillChars? rest args)
  | '%' :: 'r' :: rest, a :: args => do return (← a.quoted?).toList ++ (← fillChars? rest args)
  | '%' :: _, _ => none
  | c :: rest, args => (c :: ·) <$> fillChars? rest args

/-- The text of a record with arguments; without any the text is taken as it is. -/
def fill? (text : String) (args : List Document) : Option String :=
  if args.isEmpty then some text else String.ofList <$> fillChars? text.toList args

end Record

namespace Threshold

/-- The names that stand for a level. -/
def names : List (String × Level) :=
  [("DEBUG", 10), ("INFO", 20), ("WARNING", 30), ("WARN", 30), ("ERROR", 40), ("CRITICAL", 50),
   ("FATAL", 50), ("NOTSET", 0)]

/-- The name that stands for the layout of records, which is no level. -/
def layoutName : String := "BASIC_FORMAT"

/-- The layout of records. -/
def layout : String := "%(levelname)s:%(name)s:%(message)s"

/-- The threshold that a name stands for, without regard to case; an unknown name stands for
the level `info`. -/
def ofName (name : String) : Except Failure Level :=
  let name := Text.upper name
  if name = layoutName then .error (.fault (.notALevel layout))
  else .ok ((Entries.get? name names).getD Level.info)

/-- The threshold in force when no other is set. -/
def fallback : Level := Level.warning

/-- The threshold in force; none set means the fallback. -/
def inForce (t : Level) : Level := if t = 0 then fallback else t

end Threshold

/-- The records of this program from the threshold on. -/
def shown (threshold : Level) (records : List Record) : List Record :=
  records.filter fun r => r.isOwn && decide (Threshold.inForce threshold ≤ r.level)

end PluginHarness
