import TableForge.Generation.Pass.Database
import TableForge.Generation.Pass.Enumeration
import TableForge.Generation.Pass.RowClass
import TableForge.Generation.Pass.TableClass

/-!
# The outcome of every pass
-/
namespace TableForge.Context

/-- The package pass copies its templates with the variables and the package name in place. -/
def packageFile (ctx : Context) (template : TemplateFile) : GeneratedFile :=
  ctx.singleFile template []

/-- What comes of a pass. -/
def outcome (ctx : Context) : PassKind → PassOutcome
  | .enumeration => Enumeration.outcome ctx
  | .row => RowClass.outcome ctx
  | .table => TableClass.outcome ctx
  | .database => Database.outcome ctx
  | .package => .rendered (ctx.templates.packageFiles.map ctx.packageFile)

/-- The outcomes of all passes in the order in which they run. -/
def outcomes (ctx : Context) : List (PassKind × PassOutcome) :=
  PassKind.all.map fun pass => (pass, ctx.outcome pass)

end TableForge.Context
