import TableForge.Check.Diagnostic
import TableForge.Generation.Pass

/-!
# Lints

Checks on a dataset and its templates that render and write nothing. They find what a run would
abort on, skip or silently accept: fragments that a template needs and nobody supplies, rows that
share an id, constants without a name, and types that the type map leaves as they are.
-/
namespace TableForge

/-- What a lint looks at. -/
structure CheckInput where
  dataset : Dataset
  templates : TemplateSet
  renderer : Renderer
  types : TypeMap

structure Lint where
  name : String
  /-- What the lint looks for. -/
  description : String
  check : CheckInput → List Diagnostic

namespace Lint

/-- The fragments that the template of a pass needs and the renderer lacks. -/
def missingFragments (input : CheckInput) (pass : PassKind) : List FragmentKind :=
  if (input.templates.slot pass).isSome then
    pass.required.filter fun kind => !input.renderer.supports kind
  else []

def missingFragment : Lint where
  name := "missing-fragment"
  description := "Detect templates whose pass would abort for lack of a fragment"
  check input :=
    PassKind.all.flatMap fun pass =>
      (missingFragments input pass).map fun fragment => {
        severity := .error
        lint := "missing-fragment"
        message := pass.name ++ " template needs a " ++ fragment.label ++ " fragment; the "
          ++ pass.name ++ " pass will abort"
        location := some ("fragments." ++ fragment.key) }

/-- Counts an id once more; empty ids are not counted. -/
def countId (counts : OrderedMap Nat) (id : String) : OrderedMap Nat :=
  if id = "" then counts else counts.insert id ((counts.get? id).getD 0 + 1)

/-- How often each id occurs in the rows of a table, in the order in which they first occur. -/
def idCounts (table : Table) : OrderedMap Nat :=
  table.rows.foldl (fun counts row => countId counts row.id) .empty

def duplicateRowId : Lint where
  name := "duplicate-row-id"
  description := "Detect rows sharing an id within one table"
  check input :=
    input.dataset.tables.flatMap fun table =>
      ((idCounts table).entries.filter fun (_, count) => 1 < count).map fun (id, count) => {
        severity := .warning
        lint := "duplicate-row-id"
        message := "row id '" ++ id ++ "' appears " ++ toString count ++ " times in table '"
          ++ table.name ++ "'"
        location := some ("tables." ++ table.name) }

/-- How many rows of a table have no name. -/
def unnamedRows (table : Table) : Nat :=
  table.rows.countP fun row => row.get "Name" = ""

def enumName : Lint where
  name := "enum-name"
  description := "Detect rows that would produce an unnamed enumeration constant"
  check input :=
    if (input.templates.slot .enumeration).isNone then []
    else
      (input.dataset.tables.filter fun table => 0 < unnamedRows table).map fun table => {
        severity := .warning
        lint := "enum-name"
        message := toString (unnamedRows table) ++ " row(s) in table '" ++ table.name
          ++ "' have no Name; their constants will be unnamed"
        location := some ("tables." ++ table.name) }

/-- Every field of a dataset, with the name of its table. -/
def allFields (dataset : Dataset) : List (String × Field) :=
  dataset.tables.flatMap fun table => table.fields.map fun f => (table.name, f)

/-- Whether a field type has no entry in the type map and is no lookup. -/
def isUnmapped (types : TypeMap) (f : Field) : Bool :=
  f.type ≠ lookupType && !types.contains f.type

/-- The fields whose type is not in `seen` and not the type of an earlier field of the list. -/
def firstOfType (seen : List String) : List (String × Field) → List (String × Field)
  | [] => []
  | (table, f) :: rest =>
    if f.type ∈ seen then firstOfType seen rest
    else (table, f) :: firstOfType (f.type :: seen) rest

def unmappedType : Lint where
  name := "unmapped-type"
  description := "List field types with no entry in the type map"
  check input :=
    let unmapped := (allFields input.dataset).filter fun (_, f) => isUnmapped input.types f
    (firstOfType [] unmapped).map fun (table, f) => {
      severity := .info
      lint := "unmapped-type"
      message := "type '" ++ f.type ++ "' is not mapped and will be written as-is"
      location := some ("tables." ++ table ++ "." ++ f.name) }

/-- Every lint, in the order in which they run. -/
def all : List Lint := [missingFragment, duplicateRowId, enumName, unmappedType]

end Lint

/-- Runs every lint and sorts what they find by severity. -/
def CheckInput.diagnostics (input : CheckInput) : List Diagnostic :=
  Diagnostic.sortBySeverity (Lint.all.flatMap fun lint => lint.check input)

end TableForge
