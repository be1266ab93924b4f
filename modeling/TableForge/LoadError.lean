import TableForge.FileFault
import TableForge.Path
import TableForge.Source

/-!
# Why a dataset or a template package is refused

One constructor per cause. The wording, the code under which a cause can be looked up, the advice
and the labelled places are functions of the cause.
-/
namespace TableForge

/-- A rule that a well-formed document breaks. -/
inductive Violation where
  /-- A cell holds an array or a table; rows count from one. -/
  | cellNotScalar (table column : String) (row : Nat) (found : String)
  | lookupWithoutTarget (table field : String)
  | targetWithoutLookup (table field type : String)
  /-- A variable with an empty token, and the value of the variable. -/
  | emptyToken (value : String)
  /-- A template path that may lead out of its directory. -/
  | unsafePath (slot : String) (path : Path)
deriving DecidableEq, Repr

namespace Violation

def message : Violation → String
  | cellNotScalar table column row found =>
    "cell '" ++ table ++ "." ++ column ++ "' in row " ++ toString row
      ++ " must be a scalar value, found " ++ found
  | lookupWithoutTarget table field =>
    "lookup field '" ++ table ++ "." ++ field ++ "' has no lookup target"
  | targetWithoutLookup table field type =>
    "field '" ++ table ++ "." ++ field ++ "' of type '" ++ type
      ++ "' cannot declare a lookup target"
  | emptyToken _ => "template variable token cannot be empty"
  | unsafePath slot path =>
    slot ++ " template path '" ++ path.text
      ++ "' must be relative and stay inside the template directory"

/-- The name that shows where the rule is broken. -/
def needle : Violation → String
  | cellNotScalar table .. => table
  | lookupWithoutTarget _ field => field
  | targetWithoutLookup _ field _ => field
  | emptyToken value => value
  | unsafePath _ path => path.text

end Violation

inductive LoadError where
  | unreadable (path : Path) (fault : FileFault)
  /-- No TOML, or not of the expected shape. -/
  | malformed (fileName : String)
  | duplicateTable (name : String) (first second : Option Span)
  | unknownLookupTable (table field target : String) (span : Option Span)
  | missingTemplate (slot : String) (path : Path) (fault : FileFault)
  | invalid (violation : Violation) (span : Option Span)
deriving DecidableEq, Repr

/-- A text at a place of the source. -/
structure Label where
  text : String
  span : Span
deriving DecidableEq, Repr

namespace LoadError

def message : LoadError → String
  | unreadable path _ => "failed to read '" ++ path.text ++ "'"
  | malformed fileName => "failed to parse '" ++ fileName ++ "'"
  | duplicateTable name _ _ => "duplicate table '" ++ name ++ "'"
  | unknownLookupTable table field target _ =>
    "lookup field '" ++ table ++ "." ++ field ++ "' targets unknown table '" ++ target ++ "'"
  | missingTemplate slot path _ =>
    "template '" ++ slot ++ "' file '" ++ path.text ++ "' could not be read"
  | invalid violation _ => violation.message

def code : LoadError → String
  | unreadable .. => "fairy::io"
  | malformed .. => "fairy::parse_error"
  | duplicateTable .. => "fairy::duplicate_table"
  | unknownLookupTable .. => "fairy::unknown_lookup"
  | missingTemplate .. => "fairy::missing_template"
  | invalid .. => "fairy::validation_error"

def help : LoadError → Option String
  | duplicateTable .. => some "table names must be unique within a dataset"
  | unknownLookupTable .. => some "a lookup target must name another table in the same dataset"
  | missingTemplate .. =>
    some "template paths in template.toml are relative to the template package directory"
  | _ => none

/-- The places that are found in the source, with what is said there. -/
def labels : LoadError → List Label
  | duplicateTable _ first second =>
    (first.map (Label.mk "first declared here")).toList
      ++ (second.map (Label.mk "declared again here")).toList
  | unknownLookupTable _ _ _ span => (span.map (Label.mk "no table with this name")).toList
  | invalid violation span => (span.map (Label.mk violation.message)).toList
  | _ => []

/-- What the file system said, for failures that it caused. -/
def fault? : LoadError → Option FileFault
  | unreadable _ fault => some fault
  | missingTemplate _ _ fault => some fault
  | _ => none

end LoadError

/-- A violation in a source, with the place that shows it. -/
def Source.violation (s : Source) (v : Violation) : LoadError :=
  .invalid v (s.findQuoted v.needle)

end TableForge
