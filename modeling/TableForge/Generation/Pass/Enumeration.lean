import TableForge.Generation.Pass

/-!
# The enumeration pass

One file of constants per table: every row is a constant with the name of the row and its id.
-/
namespace TableForge.Enumeration

def constant (ctx : Context) (row : Row) : Fragment :=
  .constant (ctx.naming.constantName (row.get "Name")) (ctx.types.resolve intType) (row.get "Id")

/-- The constants of a table, one per row. -/
def constants (ctx : Context) (table : Table) : List Fragment :=
  table.rows.map (constant ctx)

def file (ctx : Context) (template : TemplateFile) (table : Table) : GeneratedFile :=
  ctx.classFile template (ctx.enumClass table.name)
    [(.className, ctx.enumClass table.name),
     (.variableList, ctx.block "// code generated list of all rows" (constants ctx table))]

def outcome (ctx : Context) : PassOutcome :=
  ctx.withTemplate .enumeration fun template =>
    .rendered (ctx.dataset.tables.map (file ctx template))

end TableForge.Enumeration
