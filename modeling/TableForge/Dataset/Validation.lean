import TableForge.Dataset.Draft
import TableForge.Disk
import TableForge.LoadError

/-!
# Which datasets are accepted

A draft becomes a dataset when all its cells are scalars, no two tables share a name, and a field
has a lookup target exactly if its type is `lookup`, the target being the name of a table of the
same dataset. Cells are looked at first, table names second and fields last, each in the order of
the file, and the first fault is reported.
-/
namespace TableForge

namespace Draft

/-- The first cell of a row that is no scalar. -/
def rowFault? (table : String) (number : Nat) (row : List (String × Toml.Value)) :
    Option Violation :=
  row.findSome? fun (column, value) =>
    match value.scalarText? with
    | some _ => none
    | none => some (.cellNotScalar table column number value.kindName)

/-- The first cell of a draft that is no scalar. -/
def cellFault? (d : Draft) : Option Violation :=
  d.tables.findSome? fun table =>
    (table.rows.zipIdx 1).findSome? fun (row, number) => rowFault? table.name number row

/-- The row with every cell as text. -/
def rowTexts (row : List (String × Toml.Value)) : Row :=
  .ofList (row.map fun (column, value) => (column, value.scalarText?.getD ""))

def tableTexts (t : DraftTable) : Table where
  name := t.name
  fields := t.fields
  rows := t.rows.map rowTexts

/-- The draft with every cell as text. -/
def texts (d : Draft) : Dataset where
  package := d.package
  tables := d.tables.map tableTexts

end Draft

namespace Dataset

/-- The first name of the list that is in `seen` or earlier in the list. -/
def firstRepeat? (seen : List String) : List String → Option String
  | [] => none
  | name :: rest => if name ∈ seen then some name else firstRepeat? (name :: seen) rest

def tableNames (d : Dataset) : List String :=
  d.tables.map Table.name

/-- What is wrong with a field, given the names of all tables. -/
def fieldFault? (source : Source) (names : List String) (table : String) (f : Field) :
    Option LoadError :=
  match f.isLookup, f.lookup with
  | true, none => some (source.violation (.lookupWithoutTarget table f.name))
  | true, some target =>
    if target ∈ names then none
    else some (.unknownLookupTable table f.name target (source.findQuoted target))
  | false, some _ => some (source.violation (.targetWithoutLookup table f.name f.type))
  | false, none => none

/-- The first fault of a dataset. -/
def fault? (source : Source) (d : Dataset) : Option LoadError :=
  match firstRepeat? [] d.tableNames with
  | some name =>
    let (first, second) := source.findQuotedTwice name
    some (.duplicateTable name first second)
  | none =>
    d.tables.findSome? fun table =>
      table.fields.findSome? (fieldFault? source d.tableNames table.name)

/-- Checks a draft; `source` is where the places of faults are looked for. -/
def ofDraft (source : Source) (draft : Draft) : Except LoadError Dataset :=
  match draft.cellFault? with
  | some violation => .error (source.violation violation)
  | none =>
    match fault? source draft.texts with
    | some error => .error error
    | none => .ok draft.texts

/-- Reads and checks the text of a data file. -/
def ofSource (source : Source) : Except LoadError Dataset :=
  match Draft.ofText? source.text with
  | none => .error (.malformed source.fileName)
  | some draft => ofDraft source draft

/-- Reads and checks a data file. -/
def load {m : Type → Type} [Monad m] [Disk m] (path : Path) : m (Except LoadError Dataset) := do
  match ← Disk.readText path with
  | .error fault => return .error (.unreadable path fault)
  | .ok text => return ofSource { text, fileName := path.text }

end Dataset

end TableForge
