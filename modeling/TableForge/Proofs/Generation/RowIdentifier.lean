import TableForge.Proofs.Check.IdCounts
import TableForge.Proofs.Dataset.Columns
import TableForge.Proofs.Generation.ClassReference
import TableForge.Template.Package

/-!
# The identifier of a row

The table pass names the variable of a row by the cell of the column `id`, and a lint counts the same
cells. The enumeration pass takes the value of a constant from the column `Id`. Mostly the two are
one cell, as names of columns need not agree in case. They are not where a row has several columns
that are called `id` up to case: then a constant and the variable of its row can have different
identifiers.
-/
namespace TableForge

/-- The file of constants with these constants. -/
def Enumeration.fileOf (ctx : Context) (template : TemplateFile) (className : String)
    (constants : List Fragment) : GeneratedFile :=
  ctx.classFile template className
    [(.className, className),
     (.variableList, ctx.block "// code generated list of all rows" constants)]

/-- The warnings about a table whose rows have these ids: one for every non-empty id that comes up
several times. -/
def Lint.idWarnings (table : String) (ids : List String) : List Diagnostic :=
  let counted := ids.filter (· ≠ "")
  (counted.eraseDups.filter fun id => 1 < counted.count id).map fun id => {
    severity := .warning
    lint := "duplicate-row-id"
    message := "row id '" ++ id ++ "' appears " ++ toString (counted.count id)
      ++ " times in table '" ++ table ++ "'"
    location := some ("tables." ++ table) }

theorem Row.id_ne_get_iff {row : Row} : row.get "Id" ≠ row.id ↔ row.ReadsApart "Id" "id" :=
  Row.get_ne_get_iff (by decide)

namespace Generator

/-- **When a row has one identifier.** The table pass puts the id of a row into the name of its
variable, the lint counts the same ids, and the enumeration pass gives the constant of the row the
cell of its column `Id`. The cell and the id are the same exactly if the row does not read apart
under the two spellings `Id` and `id`. -/
theorem row_identifiers_agree_iff (g : Generator) :
    g.context.outcome .enumeration = g.context.withTemplate .enumeration (fun template =>
      .rendered (g.dataset.tables.map fun table =>
        Enumeration.fileOf g.context template (g.context.enumClass table.name)
          (table.rows.map fun row => .constant (g.naming.constantName (row.get "Name"))
            (g.types.resolve "int") (row.get "Id")))) ∧
    g.context.outcome .table = g.context.withTemplate .table (fun template =>
      .rendered (g.dataset.tables.map fun table =>
        TableClass.fileOf g.context template (g.context.tableClass table.name)
          (g.context.rowClass table.name) table.name
          (table.rows.map fun row => .localVariable ("row" ++ row.id)
            (g.context.rowClass table.name)
            (g.renderer.render (TableClass.construction g.context table row))))) ∧
    Lint.duplicateRowId.check g.checkInput =
      (g.dataset.tables.flatMap fun table =>
        Lint.idWarnings table.name (table.rows.map Row.id)) ∧
    ∀ row : Row, row.get "Id" = row.id ↔ ¬ row.ReadsApart "Id" "id" := by
  refine ⟨rfl, rfl, List.flatMap_congr fun table _ => ?_, fun row => ?_⟩
  · rw [Lint.filter_entries_idCounts, List.map_map]
    rfl
  · rw [← Row.id_ne_get_iff, not_not]

/-- A table whose first row has two columns called `id` up to case. -/
def spelledTable : Table where
  name := "item"
  fields := []
  rows := [.ofList [("ID", "1"), ("id", "2"), ("Name", "Sword")],
    .ofList [("id", "2"), ("Name", "Shield")]]

def spelledSample : Generator where
  config := {}
  dataset := { package := none, tables := [spelledTable] }
  templates := {
    enumeration := some ⟨⟨"Enum.cs"⟩, "VARIABLE_LIST"⟩
    table := some ⟨⟨"Table.cs"⟩, "ROW_LIST"⟩ }
  renderer := FragmentPatterns.renderer {
    constant := some "const \x7btype\x7d \x7bname\x7d = \x7bvalue\x7d;"
    localVariable := some "\x7btype\x7d \x7bname\x7d = \x7bvalue\x7d;"
    newClassInstance := some "new \x7bname\x7d(\x7bvalue\x7d)" }
  types := .empty
  replacements := []
  naming := .standard

/-- Two rows share the id by which their variables are named and counted, and have constants of
different values. -/
theorem row_identifiers_differ :
    (spelledSample.context.outcome .enumeration).files.map GeneratedFile.content =
      ["// code generated list of all rows\nconst int SWORD = 1;\nconst int SHIELD = 2;"] ∧
    (spelledSample.context.outcome .table).files.map GeneratedFile.content =
      ["// code generated list of all rows\nItemRow row2 = new ItemRow();\nItemRow row2 = " ++
        "new ItemRow();"] ∧
    (Lint.duplicateRowId.check spelledSample.checkInput).map Diagnostic.message =
      ["row id '2' appears 2 times in table 'item'"] ∧
    ¬ ∀ row : Row, row.get "Id" = row.id := by
  refine ⟨by decide +kernel, by decide +kernel, by decide +kernel, ?_⟩
  intro hall
  have hfirst := hall (.ofList [("ID", "1"), ("id", "2")])
  revert hfirst
  decide +kernel

end Generator

end TableForge
