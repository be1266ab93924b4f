import TableForge.Proofs.Generation.RowConstruction

/-!
# The blocks of a row class

A row class is made of four blocks: variables, properties, the parameters of the constructor and the
assignments in it. Where lookup fields have targets each block is told by the fields in their order,
and the blocks fit together: a parameter is assigned to the variable of its own field, and the two
are of one type. The field `id` has an assignment but no variable; row templates declare it
themselves.
-/
namespace TableForge

namespace Field

/-- The name that a field is stored under. -/
def storedName (f : Field) : String := if f.isLookup then f.name ++ "Id" else f.name

def assignment (f : Field) (ctx : Context) : Fragment :=
  .localAssignment f.storedName
    ("_" ++ ctx.naming.variableName f.name ++ if f.isLookup then "Id" else "")

/-- Whether a field is the identifier that row templates declare themselves. -/
def IsIdentifier (f : Field) : Prop := f.isLookup = false ∧ f.name = "id"

instance (f : Field) : Decidable f.IsIdentifier :=
  inferInstanceAs (Decidable (f.isLookup = false ∧ f.name = "id"))

def declaration? (f : Field) (ctx : Context) : Option Fragment :=
  if f.IsIdentifier then none else some (.classVariable f.storedName (ctx.types.resolve f.type))

/-- The property of a lookup field with a target. -/
def property? (f : Field) (ctx : Context) : Option Fragment :=
  if f.isLookup then f.lookup.map fun target => .classProperty f.name (ctx.rowClass target)
  else none

end Field

namespace RowClass

variable {ctx : Context} {table : Table}

/-- The parts of a row file that come of some fields. -/
def partsOf (ctx : Context) (fields : List Field) : Parts where
  declarations := fields.filterMap (·.declaration? ctx)
  properties := fields.filterMap (·.property? ctx)
  parameters := fields.map (·.parameter ctx)
  assignments := fields.map (·.assignment ctx)

section Member

variable {f : Field} {role : Role}

theorem assignment_of_role? (h : role? f = some role) :
    Member.assignment ctx ⟨f, role⟩ = f.assignment ctx := by
  have hstored : Member.storedName ⟨f, role⟩ = f.storedName := by
    rw [Member.storedName, ending_of_role? h, Field.storedName]
    split
    · rfl
    · exact String.append_empty
  rw [Member.assignment, hstored, Member.parameterName, ending_of_role? h, Field.assignment]

theorem declaration?_of_role? (h : role? f = some role) :
    Member.declaration? ctx ⟨f, role⟩ = f.declaration? ctx := by
  obtain ⟨target, hl, -, rfl⟩ | ⟨hl, hid, rfl⟩ | ⟨hl, hid, rfl⟩ := role?_cases h
  · simp [Member.declaration?, Field.declaration?, Field.IsIdentifier, Member.storedName,
      Member.ending, Member.typeName, Field.storedName, hl]
  · simp [Member.declaration?, Field.declaration?, Field.IsIdentifier, hl, hid, reservedName]
  · have hno : ¬ f.IsIdentifier := fun hf => hid hf.2
    simp [Member.declaration?, Field.declaration?, hno, Member.storedName, Member.ending,
      Member.typeName, Field.storedName, hl]

theorem property?_of_role? (h : role? f = some role) :
    Member.property? ctx ⟨f, role⟩ = f.property? ctx := by
  obtain ⟨target, hl, ht, rfl⟩ | ⟨hl, -, rfl⟩ | ⟨hl, -, rfl⟩ := role?_cases h
  · simp [Member.property?, Field.property?, hl, ht]
  · simp [Member.property?, Field.property?, hl]
  · simp [Member.property?, Field.property?, hl]

end Member

/-- Where lookup fields have targets, a row file is made of what its fields contribute. -/
theorem parts_eq_partsOf (h : table.HasTargets) : parts ctx table = partsOf ctx table.fields := by
  have hparameters : (members table).map (·.parameter ctx) = table.fields.map (·.parameter ctx) :=
    parts_parameters h
  have hassignments : (members table).map (·.assignment ctx) =
      table.fields.map (·.assignment ctx) := map_members h fun _ _ => assignment_of_role?
  have hdeclarations : (members table).filterMap (·.declaration? ctx) =
      table.fields.filterMap (·.declaration? ctx) :=
    filterMap_members h fun _ _ => declaration?_of_role?
  have hproperties : (members table).filterMap (·.property? ctx) =
      table.fields.filterMap (·.property? ctx) := filterMap_members h fun _ _ => property?_of_role?
  simp only [parts, partsOf, hparameters, hassignments, hdeclarations, hproperties]

/-- The row pass renders these parts of every table unless a lookup field has no target. -/
theorem outcome_eq (ctx : Context) :
    ctx.outcome .row = ctx.withTemplate .row fun template =>
      match missingTarget? ctx.dataset.tables with
      | some (table, field) => .aborted (.missingLookupTarget .row table field)
      | none => .rendered (ctx.dataset.tables.map fun table =>
          fileOf ctx template (ctx.rowClass table.name) (parts ctx table)) := by
  simp only [← file_eq_fileOf]
  rfl

end RowClass

/-- **The blocks of a row class fit together.** The row pass renders the file of a table from its
parts, and where the lookup fields of the table have targets the parts are these. Every field has, in
the order of the fields, one parameter and one assignment, which assigns this parameter. There is a
variable for every name that is assigned to, in the same order and of the type of the parameter,
except for fields `id` that are no lookups. Every lookup field has one property with its own name; it
is assigned to under this name with `Id` behind it and has the type that `int` is called by, whatever
the type map has for `lookup`. A block is its comment with one line per fragment below it. -/
theorem row_blocks_match (ctx : Context) :
    ctx.outcome .row = ctx.withTemplate .row (fun template =>
      match RowClass.missingTarget? ctx.dataset.tables with
      | some (table, field) => .aborted (.missingLookupTarget .row table field)
      | none => .rendered (ctx.dataset.tables.map fun table =>
          RowClass.fileOf ctx template (ctx.rowClass table.name) (RowClass.parts ctx table))) ∧
    (∀ comment fragments, ctx.WritesBlock comment fragments (ctx.block comment fragments)) ∧
    ∃ stored parameter type target : Field → String,
      (∀ table : Table, table.HasTargets → RowClass.parts ctx table = {
        declarations := (table.fields.filter fun f => ¬ (f.isLookup = false ∧ f.name = "id")).map
          fun f => .classVariable (stored f) (type f)
        properties := (table.fields.filter fun f => f.isLookup = true).map
          fun f => .classProperty f.name (target f)
        parameters := table.fields.map fun f => .parameter (parameter f) (type f)
        assignments := table.fields.map fun f => .localAssignment (stored f) (parameter f) }) ∧
      (∀ f : Field, stored f = if f.isLookup then f.name ++ "Id" else f.name) ∧
      ∀ f : Field, type f =
        if f.isLookup then (ctx.types.get? "int").getD "int"
        else (ctx.types.get? f.type).getD f.type := by
  refine ⟨RowClass.outcome_eq ctx, ctx.writesBlock_block, Field.storedName,
    fun f => "_" ++ ctx.naming.variableName f.name ++ if f.isLookup then "Id" else "",
    fun f => ctx.types.resolve f.type, fun f => (f.lookup.map ctx.rowClass).getD "", ?_,
    fun f => rfl, ?_⟩
  · intro table h
    rw [RowClass.parts_eq_partsOf h, RowClass.partsOf]
    congr 1
    · rw [← List.filterMap_eq_map', List.filterMap_filter]
      refine List.filterMap_congr fun f _ => ?_
      by_cases hid : f.isLookup = false ∧ f.name = "id" <;>
        simp [Field.declaration?, Field.IsIdentifier, hid]
    · rw [← List.filterMap_eq_map', List.filterMap_filter]
      refine List.filterMap_congr fun f hf => ?_
      cases hl : f.isLookup with
      | true =>
        obtain ⟨target, htarget⟩ := Option.isSome_iff_exists.mp (h f hf hl)
        simp [Field.property?, hl, htarget]
      | false => simp [Field.property?, hl]
  · intro f
    simp [TypeMap.resolve, TypeMap.named, Field.isLookup, intType]

/-- A table with two fields `id`, one of them a lookup, and two fields that differ in case only. -/
def linkTable : Table where
  name := "link"
  fields := [⟨"id", "lookup", some "item_kind"⟩, ⟨"id", "int", none⟩,
    ⟨"kind", "lookup", some "item_kind"⟩, ⟨"Kind", "string", none⟩]
  rows := []

/-- A type map that has an entry for `lookup` and none for `int`. -/
def linkContext : Context :=
  { itemContext with
    dataset := { package := none, tables := [kindTable, linkTable] }
    types := .ofList [("lookup", "ref"), ("string", "text")] }

theorem row_blocks_match_links :
    linkTable.HasTargets ∧ ∃ parameter target : Field → String,
      RowClass.parts linkContext linkTable = {
        declarations := [.classVariable "idId" "int", .classVariable "kindId" "int",
          .classVariable "Kind" "text"]
        properties := [⟨"id", "lookup", some "item_kind"⟩, ⟨"kind", "lookup", some "item_kind"⟩].map
          fun f => .classProperty f.name (target f)
        parameters := (linkTable.fields.zip ["int", "int", "int", "text"]).map
          fun (f, type) => .parameter (parameter f) type
        assignments := (linkTable.fields.zip ["idId", "id", "kindId", "Kind"]).map
          fun (f, stored) => .localAssignment stored (parameter f) } := by
  have htargets : linkTable.HasTargets := by decide
  obtain ⟨-, -, stored, parameter, type, target, hparts, hstored, htype⟩ := row_blocks_match linkContext
  refine ⟨htargets, parameter, target, ?_⟩
  rw [hparts linkTable htargets]
  simp only [hstored, htype]
  rfl

end TableForge
