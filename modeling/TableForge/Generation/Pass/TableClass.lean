import TableForge.Generation.Pass
import TableForge.Text.Quoted

/-!
# The table pass

One class per table that holds all its rows. Every row is a variable named by the id of the row and
set to a new instance of the row class, with one argument per field in the order of the fields.
-/
namespace TableForge.TableClass

/-- What stands for an empty cell of a numeric field. -/
def emptyNumber : String := "-1"

/-- A cell as an argument: numbers as they are, everything else quoted. -/
def formatCell (f : Field) (cell : String) : String :=
  if f.isNumeric then if cell = "" then emptyNumber else cell
  else String.ofList (Text.quote cell.toList)

/-- The arguments that make a row, one per field. -/
def arguments (fields : List Field) (row : Row) : List String :=
  fields.map fun f => formatCell f (row.get f.name)

/-- The expression that makes a row. -/
def construction (ctx : Context) (table : Table) (row : Row) : Fragment :=
  .newClassInstance (ctx.rowClass table.name) (", ".intercalate (arguments table.fields row))

/-- The declaration of a row. -/
def declaration (ctx : Context) (table : Table) (row : Row) : Fragment :=
  .localVariable ("row" ++ row.id) (ctx.rowClass table.name)
    (ctx.renderer.render (construction ctx table row))

/-- The declarations of all rows of a table. -/
def declarations (ctx : Context) (table : Table) : List Fragment :=
  table.rows.map (declaration ctx table)

def file (ctx : Context) (template : TemplateFile) (table : Table) : GeneratedFile :=
  ctx.classFile template (ctx.tableClass table.name)
    [(.rowClassName, ctx.rowClass table.name),
     (.className, ctx.tableClass table.name),
     (.tableName, table.name),
     (.rowList, ctx.block "// code generated list of all rows" (declarations ctx table))]

def outcome (ctx : Context) : PassOutcome :=
  ctx.withTemplate .table fun template =>
    .rendered (ctx.dataset.tables.map (file ctx template))

end TableForge.TableClass
