import TableForge.Generation.Pass

/-!
# The row pass

One class per table, whose instances are rows. Every field is a parameter of the constructor and is
assigned there. A plain field has a variable of its own name; a lookup field has a variable with
`Id` behind its name and a property of the class of the rows that it refers to; the field `id` has
neither, because row templates declare it themselves.
-/
namespace TableForge.RowClass

/-- The name of the field that row templates declare themselves. -/
def reservedName : String := "id"

/-- What a field is in a row class. -/
inductive Role where
  | plain
  /-- The reserved identifier. -/
  | identifier
  /-- A reference to a row of another table. -/
  | reference (target : String)
deriving DecidableEq, Repr

/-- The role of a field; a lookup field without a target has none. -/
def role? (f : Field) : Option Role :=
  if f.isLookup then f.lookup.map .reference
  else if f.name = reservedName then some .identifier
  else some .plain

/-- A field with its role. -/
structure Member where
  field : Field
  role : Role
deriving DecidableEq, Repr

def member? (f : Field) : Option Member :=
  (role? f).map fun role => { field := f, role }

namespace Member

/-- What stands behind the names that hold the member: references are held by their ids. -/
def ending (m : Member) : String :=
  match m.role with
  | .reference _ => "Id"
  | _ => ""

/-- The name that the member is stored under. -/
def storedName (m : Member) : String := m.field.name ++ m.ending

def parameterName (ctx : Context) (m : Member) : String :=
  "_" ++ ctx.naming.variableName m.field.name ++ m.ending

def typeName (ctx : Context) (m : Member) : String :=
  ctx.types.resolve m.field.type

def parameter (ctx : Context) (m : Member) : Fragment :=
  .parameter (m.parameterName ctx) (m.typeName ctx)

def assignment (ctx : Context) (m : Member) : Fragment :=
  .localAssignment m.storedName (m.parameterName ctx)

def declaration? (ctx : Context) (m : Member) : Option Fragment :=
  match m.role with
  | .identifier => none
  | _ => some (.classVariable m.storedName (m.typeName ctx))

def property? (ctx : Context) (m : Member) : Option Fragment :=
  match m.role with
  | .reference target => some (.classProperty m.field.name (ctx.rowClass target))
  | _ => none

end Member

/-- The parameters of the constructor, declared in the order of the fields. -/
def parameterList (ctx : Context) (members : List Member) : String :=
  ", ".intercalate (members.map fun m => ctx.renderer.render (m.parameter ctx))

def file (ctx : Context) (template : TemplateFile) (table : String) (members : List Member) :
    GeneratedFile :=
  ctx.classFile template (ctx.rowClass table)
    [(.className, ctx.rowClass table),
     (.variableList,
      ctx.block "// code generated list of variables" (members.filterMap (·.declaration? ctx))),
     (.propertyList,
      ctx.block "// code generated list of properties" (members.filterMap (·.property? ctx))),
     (.classParamsString, Body.trimLineEnds (parameterList ctx members)),
     (.classParamsList,
      ctx.block "// code generated list of params" (members.map (·.assignment ctx)))]

/-- The first lookup field without a target, with the name of its table. -/
def missingTarget? (tables : List Table) : Option (String × String) :=
  tables.findSome? fun table =>
    (table.fields.find? fun f => (role? f).isNone).map fun f => (table.name, f.name)

/-- The members of a table, its lookup fields having targets. -/
def members (table : Table) : List Member :=
  table.fields.filterMap member?

def outcome (ctx : Context) : PassOutcome :=
  ctx.withTemplate .row fun template =>
    match missingTarget? ctx.dataset.tables with
    | some (table, field) => .aborted (.missingLookupTarget .row table field)
    | none =>
      .rendered (ctx.dataset.tables.map fun table => file ctx template table.name (members table))

end TableForge.RowClass
