import TableForge.Fragment.Basic
import TableForge.Generation.Naming
import TableForge.Generation.TypeMap
import TableForge.Template.File
import TableForge.Template.Substitution

/-!
# Passes

A run consists of five passes, each of which renders the files of one kind. Three of them render one
file per table, one renders a single file that refers to all tables, and the last copies the files
of the template package that need nothing but the package name. What all passes share is said here:
their order, the fragments they need, what they read and what can come of them.
-/
namespace TableForge

inductive PassKind where
  | enumeration
  | row
  | table
  | database
  | package
deriving DecidableEq, Repr

namespace PassKind

/-- The passes in the order in which they run. -/
def all : List PassKind := [enumeration, row, table, database, package]

theorem mem_all (pass : PassKind) : pass ∈ all := by
  cases pass <;> decide

def name : PassKind → String
  | enumeration => "enumeration"
  | row => "row"
  | table => "table"
  | database => "database"
  | package => "package"

/-- What the files of a pass are called in the run log. -/
def label : PassKind → String
  | enumeration => "Enum"
  | row => "Row"
  | table => "Table"
  | database => "Database"
  | package => "Package"

/-- The kinds of fragments without which a pass does not run. -/
def required : PassKind → List FragmentKind
  | enumeration => [.constant]
  | row => [.classVariable, .classProperty, .localAssignment, .parameter]
  | table => [.newClassInstance, .localVariable]
  | database => [.newClassInstance, .localAssignment, .classVariable]
  | package => []

end PassKind

/-- The templates of a run; a kind without a template is skipped. -/
structure TemplateSet where
  database : Option TemplateFile := none
  table : Option TemplateFile := none
  row : Option TemplateFile := none
  enumeration : Option TemplateFile := none
  packageFiles : List TemplateFile := []
deriving Repr, Inhabited

/-- The template of a pass that has a single one. -/
def TemplateSet.slot (t : TemplateSet) : PassKind → Option TemplateFile
  | .enumeration => t.enumeration
  | .row => t.row
  | .table => t.table
  | .database => t.database
  | .package => none

/-- A rendered file; its path is relative to the folder that the run writes to. -/
structure GeneratedFile where
  /-- The name under which the file is reported. -/
  name : String
  path : Path
  content : String
deriving DecidableEq, Repr

/-- Everything a pass reads. -/
structure Context where
  dataset : Dataset
  templates : TemplateSet
  renderer : Renderer
  types : TypeMap
  naming : Naming
  /-- Tokens and values that are replaced in every template, in order. -/
  replacements : List (String × String)
  /-- The package name as it is written into files. -/
  package : String

namespace Context

/-- The text of a template with the variables and the package name in place. -/
def prepare (ctx : Context) (template : TemplateFile) : String :=
  Body.fill [(.packageString, ctx.package)]
    (Body.applyVariables ctx.replacements template.contents)

/-- A block of fragments under a comment, as it is put into a template. -/
def block (ctx : Context) (comment : String) (fragments : List Fragment) : String :=
  Body.trimLineEnds (TableForge.block comment (fragments.map ctx.renderer.render))

/-- A file named after a class, beside its template. -/
def classFile (ctx : Context) (template : TemplateFile) (className : String)
    (values : List (Placeholder × String)) : GeneratedFile where
  name := className ++ template.extension
  path := template.sibling className
  content := Body.fill values (ctx.prepare template)

/-- A file with the name of its template. -/
def singleFile (ctx : Context) (template : TemplateFile) (values : List (Placeholder × String)) :
    GeneratedFile where
  name := template.fileName.text
  path := template.fileName
  content := Body.fill values (ctx.prepare template)

/-- The first fragment that a pass needs and the renderer does not support. -/
def missingFragment? (ctx : Context) (pass : PassKind) : Option FragmentKind :=
  pass.required.find? fun kind => !ctx.renderer.supports kind

/-- The class names that belong to a table, the same in every pass. -/
def enumClass (ctx : Context) (table : String) : String := ctx.naming.className table ++ "Enum"
def rowClass (ctx : Context) (table : String) : String := ctx.naming.className table ++ "Row"
def tableClass (ctx : Context) (table : String) : String := ctx.naming.className table ++ "Table"

end Context

/-- Why a pass stops without rendering anything. -/
inductive PassError where
  | missingFragment (pass : PassKind) (fragment : FragmentKind)
  | missingLookupTarget (pass : PassKind) (table field : String)
deriving DecidableEq, Repr

def PassError.message : PassError → String
  | missingFragment pass fragment =>
    "No " ++ fragment.label ++ " fragment available to write " ++ pass.name ++ " template."
  | missingLookupTarget pass table field =>
    "Lookup field '" ++ table ++ "." ++ field ++ "' has no lookup target, cannot write "
      ++ pass.name ++ " template."

/-- What comes of a pass. -/
inductive PassOutcome where
  /-- There is no template. -/
  | skipped
  | aborted (error : PassError)
  | rendered (files : List GeneratedFile)
deriving DecidableEq, Repr

/-- A pass with a single template: it is skipped without one, aborted without the fragments it
needs, and otherwise renders. -/
def Context.withTemplate (ctx : Context) (pass : PassKind)
    (render : TemplateFile → PassOutcome) : PassOutcome :=
  match ctx.templates.slot pass with
  | none => .skipped
  | some template =>
    match ctx.missingFragment? pass with
    | some fragment => .aborted (.missingFragment pass fragment)
    | none => render template

end TableForge
