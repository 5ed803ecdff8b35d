import CjkProse.Text.Basic

/-!
# Records of the log

What the program tells of its work is weighted by levels.  A log has a level of its own, below which
nothing is told; the level zero stands for that of warnings.  Each record makes one entry of a log
file, which starts with the time.

## Main definitions

* `LogLevel.ofName` — the level that a name asks for.
* `LogLevel.name` — how a level is shown.
* `LogRecord`, `LogRecord.entry` — one message.
* `admits` — whether a log of some level takes a record.
-/

namespace CjkProse

/-- The weight of a message; a greater one is more pressing. -/
abbrev LogLevel := Int

namespace LogLevel

/-- The level that admits every message but is not set. -/
def unset : LogLevel := 0

/-- The level of what is told for finding faults in the program. -/
def debug : LogLevel := 10

/-- The level of what is told for information. -/
def info : LogLevel := 20

/-- The level of warnings. -/
def warning : LogLevel := 30

/-- The level of errors. -/
def error : LogLevel := 40

/-- The level of errors that stop the program. -/
def critical : LogLevel := 50

/-- The names of levels. -/
def names : List (String × LogLevel) := [
  ("CRITICAL", critical), ("ERROR", error), ("WARNING", warning), ("INFO", info),
  ("DEBUG", debug), ("NOTSET", unset)]

/-- Further names by which levels may be asked for. -/
def otherNames : List (String × LogLevel) := [("FATAL", critical), ("WARN", warning)]

/-- Why a name asks for no level. -/
inductive Fault
  /-- It is the name of the layout of entries. -/
  | layout
  /-- It is the name of the table of layouts. -/
  | layoutTable
  deriving DecidableEq, Repr, Inhabited

/-- The names that stand for something else than a level. -/
def reserved : List (String × Fault) := [("BASIC_FORMAT", .layout), ("_STYLES", .layoutTable)]

/-- The upper-case form of a letter in the name of a level.  Besides the letters of ASCII two others
have one of these as their upper-case form. -/
def upper (c : Char) : Char :=
  if c == 'ı' then 'I' else if c == 'ſ' then 'S' else c.toUpper

/-- The entry of a table that has a name. -/
def lookup? {α : Type} (table : List (String × α)) (name : Text) : Option α :=
  (table.find? fun entry => entry.1.toList == name).map Prod.snd

/-- The level that a name asks for, in letters of any case.  A name that is not known asks for that
of information. -/
def ofName (name : Text) : Except Fault LogLevel :=
  let name := name.map upper
  match lookup? reserved name with
  | some fault => .error fault
  | none => .ok ((lookup? (names ++ otherNames) name).getD info)

/-- How a level is shown. -/
def name (level : LogLevel) : Text :=
  match names.find? fun entry => entry.2 == level with
  | some entry => entry.1.toList
  | none => "Level ".toList ++ Text.ofInt level

/-- The level below which a log that was set to `level` tells nothing. -/
def threshold (level : LogLevel) : LogLevel := if level = unset then warning else level

end LogLevel

/-- A message for the log. -/
structure LogRecord where
  /-- How pressing it is. -/
  level : LogLevel
  /-- What part of the program it comes from. -/
  source : Text
  /-- What it tells. -/
  message : Text
  deriving DecidableEq, Repr, Inhabited

namespace LogRecord

/-- The entry of a log file for a record, made at a given time. -/
def entry (time : Text) (r : LogRecord) : Text :=
  time ++ " [".toList ++ r.level.name ++ "] ".toList ++ r.source ++ ": ".toList ++ r.message ++
    ['\n']

end LogRecord

/-- Whether a log that was set to `level` takes a record. -/
def admits (level : LogLevel) (r : LogRecord) : Bool := level.threshold ≤ r.level

/-- The record that tells of a new log. -/
def LogRecord.started (source : Text) (level : LogLevel) : LogRecord :=
  ⟨.debug, source, "Logging initialized at level ".toList ++ level.name⟩

example : (LogLevel.ofName "Warn".toList).toOption = some LogLevel.warning := by decide

example : (LogLevel.ofName "loud".toList).toOption = some LogLevel.info := by decide

example : LogLevel.name 40 = "ERROR".toList ∧ LogLevel.name (-3) = "Level -3".toList := by decide

end CjkProse
