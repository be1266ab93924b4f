/-!
# The run log

What a run tells about its progress, in order. Times belong to the clock of the machine and are put
in where a log is shown.
-/
namespace TableForge

inductive LogLevel where
  /-- Normal progress. -/
  | info
  /-- A pass did not run for lack of a template. -/
  | skipped
  /-- Worth attention, but nothing stopped. -/
  | warning
  /-- A pass or the whole run stopped early. -/
  | aborted
deriving DecidableEq, Repr

def LogLevel.name : LogLevel → String
  | info => "info"
  | skipped => "skipped"
  | warning => "warning"
  | aborted => "aborted"

structure LogEntry where
  level : LogLevel
  message : String
deriving DecidableEq, Repr

abbrev RunLog := List LogEntry

/-- Level and message. -/
def LogEntry.text (e : LogEntry) : String :=
  e.level.name ++ ": " ++ e.message

namespace RunLog

def messages (log : RunLog) : List String :=
  log.map LogEntry.message

/-- The entries of one level. -/
def atLevel (log : RunLog) (level : LogLevel) : RunLog :=
  log.filter fun e => e.level = level

end RunLog

end TableForge
