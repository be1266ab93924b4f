import TableForge.Proofs.Generation.ClassReference

/-!
# Rows are made as their class says

A row class declares the parameters of its constructor in one file, and rows are constructed in
another. Both go through the fields of the table: there is one parameter and, for every row, one
argument per field, in the order of the fields, so each value arrives in the field that its cell
belongs to. This needs nothing of the cells of a row, only that every lookup field has a target.
-/
namespace TableForge

/-- The parameter that a field is handed to the constructor as; lookup fields are held by their ids. -/
def Field.parameter (f : Field) (ctx : Context) : Fragment :=
  .parameter ("_" ++ ctx.naming.variableName f.name ++ if f.isLookup then "Id" else "")
    (ctx.types.resolve f.type)

/-- What the cell of a field is written as: a number as it is and `-1` if there is none, any other
text between quotes. -/
def Field.argument (f : Field) (cell : String) : String :=
  if f.type = "lookup" ∨ f.type = "int" ∨ f.type = "decimal" then
    if cell = "" then "-1" else cell
  else String.ofList (Text.quote cell.toList)

namespace RowClass

variable {ctx : Context} {table : Table}

/-- The three roles: references, the reserved identifier, and everything else. -/
theorem role?_cases {f : Field} {role : Role} (h : role? f = some role) :
    (∃ target, f.isLookup = true ∧ f.lookup = some target ∧ role = .reference target) ∨
    (f.isLookup = false ∧ f.name = reservedName ∧ role = .identifier) ∨
    (f.isLookup = false ∧ f.name ≠ reservedName ∧ role = .plain) := by
  cases hl : f.isLookup with
  | true =>
    simp only [role?, hl, if_true] at h
    obtain ⟨target, htarget, rfl⟩ := Option.map_eq_some_iff.mp h
    exact .inl ⟨target, rfl, htarget, rfl⟩
  | false =>
    by_cases hid : f.name = reservedName
    · simp only [role?, hl, hid, Bool.false_eq_true, if_false, if_true] at h
      exact .inr (.inl ⟨rfl, hid, (Option.some.inj h).symm⟩)
    · simp only [role?, hl, hid, Bool.false_eq_true, if_false] at h
      exact .inr (.inr ⟨rfl, hid, (Option.some.inj h).symm⟩)

/-- Whether the names that hold a member end in `Id` is told by its field. -/
theorem ending_of_role? {f : Field} {role : Role} (h : role? f = some role) :
    Member.ending ⟨f, role⟩ = if f.isLookup then "Id" else "" := by
  obtain ⟨target, hl, -, rfl⟩ | ⟨hl, -, rfl⟩ | ⟨hl, -, rfl⟩ := role?_cases h <;>
    simp [Member.ending, hl]

/-- The parameter of a member is that of its field. -/
theorem parameter_of_role? {f : Field} {role : Role} (h : role? f = some role) :
    Member.parameter ctx ⟨f, role⟩ = f.parameter ctx := by
  simp only [Member.parameter, Member.parameterName, Member.typeName, Field.parameter,
    ending_of_role? h]

/-- Where lookup fields have targets, the members of a table are its fields with their roles. -/
theorem filterMap_members (h : table.HasTargets) {β : Type} {ofMember : Member → Option β}
    {ofField : Field → Option β}
    (hof : ∀ f role, role? f = some role → ofMember ⟨f, role⟩ = ofField f) :
    (members table).filterMap ofMember = table.fields.filterMap ofField := by
  rw [members, List.filterMap_filterMap]
  apply List.filterMap_congr
  intro f hf
  obtain ⟨role, hrole⟩ := Option.isSome_iff_exists.mp (role?_isSome_iff.mpr (h f hf))
  rw [member?, hrole, Option.map_some, Option.bind_some, hof f role hrole]

theorem map_members (h : table.HasTargets) {β : Type} {ofMember : Member → β} {ofField : Field → β}
    (hof : ∀ f role, role? f = some role → ofMember ⟨f, role⟩ = ofField f) :
    (members table).map ofMember = table.fields.map ofField := by
  have hsome : (members table).filterMap (some ∘ ofMember) =
      table.fields.filterMap (some ∘ ofField) :=
    filterMap_members h fun f role hrole => congrArg some (hof f role hrole)
  simpa only [List.filterMap_eq_map] using hsome

/-- Where lookup fields have targets, no field is left out among the parameters. -/
theorem parts_parameters (h : table.HasTargets) :
    (parts ctx table).parameters = table.fields.map (·.parameter ctx) :=
  map_members h fun _ _ => parameter_of_role?

end RowClass

theorem TableClass.arguments_eq (fields : List Field) (row : Row) :
    arguments fields row = fields.map fun f => f.argument (row.get f.name) := by
  refine List.map_congr_left fun f _ => ?_
  simp [formatCell, Field.argument, Field.isNumeric, lookupType, intType, decimalType, emptyNumber]

/-- **Constructors and constructions agree position by position.** Where all lookup fields have
targets, and under any renderer, the row pass makes of every table a file with one parameter per
field, and the table pass makes of it a file with one declaration per row, in the order of the rows,
whose arguments are one per field. The parameter and the argument at a place are those of the field
at this place, the argument being made of the cell that the row has for this field. The declarations
are written one below the other, in the same order. -/
theorem constructions_match_parameters {ctx : Context}
    (h : ∀ table ∈ ctx.dataset.tables, table.HasTargets) :
    (∃ (rowClass tableClass : Table → String) (rowParts : Table → RowClass.Parts)
      (arguments : Table → Row → List String),
      ctx.outcome .row = ctx.withTemplate .row (fun template =>
        .rendered (ctx.dataset.tables.map fun table =>
          RowClass.fileOf ctx template (rowClass table) (rowParts table))) ∧
      ctx.outcome .table = ctx.withTemplate .table (fun template =>
        .rendered (ctx.dataset.tables.map fun table =>
          TableClass.fileOf ctx template (tableClass table) (rowClass table) table.name
            (table.rows.map fun row => .localVariable ("row" ++ row.id) (rowClass table)
              (ctx.renderer.render (.newClassInstance (rowClass table)
                (", ".intercalate (arguments table row))))))) ∧
      ∀ table ∈ ctx.dataset.tables,
        (rowParts table).parameters.length = table.fields.length ∧
        (∀ row ∈ table.rows, (arguments table row).length = table.fields.length) ∧
        ∀ (i : Nat) (f : Field), table.fields[i]? = some f →
          (rowParts table).parameters[i]? = some (f.parameter ctx) ∧
          ∀ row ∈ table.rows, (arguments table row)[i]? = some (f.argument (row.get f.name))) ∧
    ∀ comment fragments, ctx.WritesBlock comment fragments (ctx.block comment fragments) := by
  refine ⟨⟨fun table => ctx.rowClass table.name, fun table => ctx.tableClass table.name,
    RowClass.parts ctx, fun table row => table.fields.map fun f => f.argument (row.get f.name),
    ?_, ?_, ?_⟩, ctx.writesBlock_block⟩
  · exact Context.outcome_row (RowClass.missingTarget?_of_hasTargets h)
  · simp only [← TableClass.arguments_eq]
    rfl
  · intro table ht
    rw [RowClass.parts_parameters (h table ht)]
    refine ⟨List.length_map _, fun row _ => List.length_map _, ?_⟩
    intro i f hf
    refine ⟨?_, fun row _ => ?_⟩
    · rw [List.getElem?_map, hf, Option.map_some]
    · rw [List.getElem?_map, hf, Option.map_some]

/-- A row that spells a column its own way, has a quote in a cell and lacks another cell. -/
def quotedRow : Row := .ofList [("ID", "7"), ("extra", "x"), ("name", "the \"old\" one")]

/-- A table with two rows of the same id. -/
def heroTable : Table where
  name := "hero"
  fields := [⟨"id", "int", none⟩, ⟨"name", "string", none⟩, ⟨"kind", "lookup", some "item_kind"⟩]
  rows := [quotedRow, .ofList [("id", "7"), ("kind", "3")]]

def heroContext : Context :=
  { itemContext with dataset := { package := none, tables := [kindTable, heroTable] } }

theorem constructions_match_parameters_hero :
    (∀ table ∈ heroContext.dataset.tables, table.HasTargets) ∧
    ∃ (rowParts : Table → RowClass.Parts) (arguments : Table → Row → List String),
      (rowParts heroTable).parameters.length = 3 ∧
      (rowParts heroTable).parameters[2]? = some (.parameter "_kindId" "int") ∧
      (arguments heroTable quotedRow)[0]? = some "7" ∧
      (arguments heroTable quotedRow)[1]? = some "\"the \\\"old\\\" one\"" ∧
      (arguments heroTable quotedRow)[2]? = some "-1" := by
  have htargets : ∀ table ∈ heroContext.dataset.tables, table.HasTargets := by decide
  obtain ⟨⟨-, -, rowParts, arguments, -, -, hagree⟩, -⟩ := constructions_match_parameters htargets
  have hhero : heroTable ∈ heroContext.dataset.tables := by simp [heroContext]
  have hrow : quotedRow ∈ heroTable.rows := by simp [heroTable]
  obtain ⟨hlength, -, hplace⟩ := hagree heroTable hhero
  obtain ⟨-, hid⟩ := hplace 0 ⟨"id", "int", none⟩ rfl
  obtain ⟨-, hname⟩ := hplace 1 ⟨"name", "string", none⟩ rfl
  obtain ⟨hkind, hnone⟩ := hplace 2 ⟨"kind", "lookup", some "item_kind"⟩ rfl
  refine ⟨htargets, rowParts, arguments, hlength, ?_, ?_, ?_, ?_⟩
  · rw [hkind]
    decide +kernel
  · rw [hid quotedRow hrow]
    decide
  · rw [hname quotedRow hrow]
    decide
  · rw [hnone quotedRow hrow]
    decide

end TableForge
