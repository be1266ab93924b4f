import TableForge.Generation.Pass

/-!
# The database pass

A single file with one member per table, declared in one block and set to a new instance of the
class of the table in another.
-/
namespace TableForge.Database

/-- The member that holds a table. -/
def memberName (ctx : Context) (table : Table) : String :=
  ctx.naming.constantName table.name

def declaration (ctx : Context) (table : Table) : Fragment :=
  .classVariable (memberName ctx table) (ctx.tableClass table.name)

/-- The expression that makes a table. -/
def construction (ctx : Context) (table : Table) : Fragment :=
  .newClassInstance (ctx.tableClass table.name) ""

def assignment (ctx : Context) (table : Table) : Fragment :=
  .localAssignment (memberName ctx table) (ctx.renderer.render (construction ctx table))

def file (ctx : Context) (template : TemplateFile) : GeneratedFile :=
  ctx.singleFile template
    [(.variableList,
      ctx.block "// code generated list of all tables" (ctx.dataset.tables.map (declaration ctx))),
     (.classList,
      ctx.block "// code generated list of all tables" (ctx.dataset.tables.map (assignment ctx)))]

def outcome (ctx : Context) : PassOutcome :=
  ctx.withTemplate .database fun template => .rendered [file ctx template]

end TableForge.Database
