/-!
# Lines of a report

A report says what is to be shown; how it looks on a terminal is decided here. Warnings go to the
error stream, everything else to the standard output.
-/
namespace TableForge

inductive OutputLine where
  /-- The heading of a section. -/
  | section_ (title : String)
  | keyValueIndented (key value : String)
  | listItem (text : String)
  /-- Something new, such as a file that was written. -/
  | addedItem (text : String)
  | warning (text : String)
  | divider (label : String)
  | preformatted (text : String)
  | newline
deriving DecidableEq, Repr

/-- What a program prints. -/
structure Printed where
  out : String := ""
  err : String := ""
deriving DecidableEq, Repr

namespace Printed

/-- Prints one after the other. -/
def append (a b : Printed) : Printed where
  out := a.out ++ b.out
  err := a.err ++ b.err

instance : Append Printed := ⟨append⟩

end Printed

namespace OutputLine

/-- A line as a terminal shows it. -/
def printed : OutputLine → Printed
  | section_ title => { out := title ++ ":\n" }
  | keyValueIndented key value => { out := "  " ++ key ++ ": " ++ value ++ "\n" }
  | listItem text => { out := "  - " ++ text ++ "\n" }
  | addedItem text => { out := "  + " ++ text ++ "\n" }
  | warning text => { err := text ++ "\n" }
  | divider label => { out := "── " ++ label ++ " ──\n" }
  | preformatted text => { out := text ++ "\n" }
  | newline => { out := "\n" }

def printAll (lines : List OutputLine) : Printed :=
  lines.foldl (fun printed line => printed ++ line.printed) {}

end OutputLine

end TableForge
