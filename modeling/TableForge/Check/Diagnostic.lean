/-!
# Diagnostics

What a check finds: a message with a severity, the lint that raised it, and often a place.
Diagnostics are shown the most severe first and otherwise in the order in which they were found.
-/
namespace TableForge

inductive Severity where
  /-- A pass would abort. -/
  | error
  /-- There would be output, but probably not what was meant. -/
  | warning
  | info
deriving DecidableEq, Repr

def Severity.name : Severity → String
  | error => "error"
  | warning => "warning"
  | info => "info"

structure Diagnostic where
  severity : Severity
  /-- The name of the lint. -/
  lint : String
  message : String
  /-- The place, such as `tables.Item`. -/
  location : Option String
deriving DecidableEq, Repr

namespace Diagnostic

/-- Severity, message and place on one line. -/
def text (d : Diagnostic) : String :=
  d.severity.name ++ ": " ++ d.message ++ d.location.elim "" fun loc => " (at " ++ loc ++ ")"

/-- The diagnostics of one severity. -/
def ofSeverity (severity : Severity) (found : List Diagnostic) : List Diagnostic :=
  found.filter fun d => d.severity = severity

/-- Errors, then warnings, then notes, each in the order in which they were found. -/
def sortBySeverity (found : List Diagnostic) : List Diagnostic :=
  ofSeverity .error found ++ ofSeverity .warning found ++ ofSeverity .info found

end Diagnostic

end TableForge
