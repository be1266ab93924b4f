import TableForge.Fragment.Pattern
import TableForge.Generation.Outcome
import TableForge.Proofs.Dataset.WellFormed
import TableForge.Proofs.Generation.Block

/-!
# References between generated classes

The passes do not see each other's files: each names the classes it refers to on its own, from the
names of tables. Over a well-formed dataset the names agree. A lookup field has a property of the
class of the row file of the table that it refers to, a table file declares and constructs rows of
the class of the row file of its own table, and the database file declares and constructs the
classes of the table files. Files are told here by what goes into them: their class and the
fragments that are rendered into their blocks.
-/
namespace TableForge

/-- The table that a field refers to. -/
def Dataset.target? (d : Dataset) (f : Field) : Option Table :=
  f.lookup.bind fun name => d.tables.find? fun table => table.name = name

namespace Dataset

variable {d : Dataset} {f : Field}

/-- A field that is no lookup refers to nothing. -/
theorem target?_of_untargeted (h : f.Targeted d.tableNames) (hlookup : f.isLookup = false) :
    d.target? f = none := by
  rw [target?, h.untargeted hlookup]
  rfl

theorem exists_target? (h : f.Targeted d.tableNames) (hlookup : f.isLookup = true) :
    ∃ table ∈ d.tables, d.target? f = some table ∧ f.lookup = some table.name := by
  obtain ⟨name, hname, htarget⟩ := h.target hlookup
  obtain ⟨named, hmem, hnamed⟩ := List.mem_map.mp hname
  have hsome : (d.tables.find? fun table => table.name = name).isSome = true := by
    rw [List.find?_isSome]
    exact ⟨named, hmem, by simpa using hnamed⟩
  obtain ⟨table, hfind⟩ := Option.isSome_iff_exists.mp hsome
  have htable : table.name = name := by simpa using List.find?_some hfind
  refine ⟨table, List.mem_of_find?_eq_some hfind, ?_, by rw [htarget, htable]⟩
  rw [target?, htarget]
  exact hfind

end Dataset

/-! ## What files are made of -/

namespace RowClass

/-- The fragments that are rendered into a row file. -/
structure Parts where
  declarations : List Fragment
  properties : List Fragment
  parameters : List Fragment
  assignments : List Fragment

/-- The file of a row class that is made of these parts. -/
def fileOf (ctx : Context) (template : TemplateFile) (className : String) (parts : Parts) :
    GeneratedFile :=
  ctx.classFile template className
    [(.className, className),
     (.variableList, ctx.block "// code generated list of variables" parts.declarations),
     (.propertyList, ctx.block "// code generated list of properties" parts.properties),
     (.classParamsString,
      Body.trimLineEnds (", ".intercalate (parts.parameters.map ctx.renderer.render))),
     (.classParamsList, ctx.block "// code generated list of params" parts.assignments)]

/-- The parts of the row file of a table. -/
def parts (ctx : Context) (table : Table) : Parts where
  declarations := (members table).filterMap (·.declaration? ctx)
  properties := (members table).filterMap (·.property? ctx)
  parameters := (members table).map (·.parameter ctx)
  assignments := (members table).map (·.assignment ctx)

theorem file_eq_fileOf (ctx : Context) (template : TemplateFile) (table : Table) :
    file ctx template table.name (members table) =
      fileOf ctx template (ctx.rowClass table.name) (parts ctx table) := by
  simp only [file, fileOf, parts, parameterList, List.map_map]
  rfl

end RowClass

/-- The file of a table class that declares these rows, which are of the given row class. -/
def TableClass.fileOf (ctx : Context) (template : TemplateFile) (className rowClass table : String)
    (declarations : List Fragment) : GeneratedFile :=
  ctx.classFile template className
    [(.rowClassName, rowClass),
     (.className, className),
     (.tableName, table),
     (.rowList, ctx.block "// code generated list of all rows" declarations)]

/-- The database file with these declarations and assignments of members. -/
def Database.fileOf (ctx : Context) (template : TemplateFile)
    (declarations assignments : List Fragment) : GeneratedFile :=
  ctx.singleFile template
    [(.variableList, ctx.block "// code generated list of all tables" declarations),
     (.classList, ctx.block "// code generated list of all tables" assignments)]

/-! ## Passes that render -/

namespace Context

variable {ctx : Context}

/-- With its template and all its fragments a pass renders. -/
theorem withTemplate_of_supports {pass : PassKind} {template : TemplateFile}
    (hslot : ctx.templates.slot pass = some template)
    (hsupports : ∀ kind, ctx.renderer.supports kind = true)
    (render : TemplateFile → PassOutcome) : ctx.withTemplate pass render = render template := by
  have hmissing : ctx.missingFragment? pass = none := by
    simp [missingFragment?, List.find?_eq_none, hsupports]
  simp only [withTemplate, hslot, hmissing]

/-- Where every lookup field has a target, the row pass stops for missing fragments only. -/
theorem outcome_row (h : RowClass.missingTarget? ctx.dataset.tables = none) :
    ctx.outcome .row = ctx.withTemplate .row fun template =>
      .rendered (ctx.dataset.tables.map fun table =>
        RowClass.fileOf ctx template (ctx.rowClass table.name) (RowClass.parts ctx table)) := by
  simp only [outcome, RowClass.outcome, h, RowClass.file_eq_fileOf]

end Context

/-! ## Properties of lookup fields -/

namespace RowClass

variable {ctx : Context} {table : Table}

theorem property?_of_targeted {f : Field} (h : f.Targeted ctx.dataset.tableNames) :
    (member? f).bind (·.property? ctx) =
      (ctx.dataset.target? f).map fun target =>
        .classProperty f.name (ctx.rowClass target.name) := by
  cases hl : f.isLookup with
  | true =>
    obtain ⟨target, -, htarget, hlookup⟩ := Dataset.exists_target? h hl
    rw [htarget]
    simp [member?, role?, hl, hlookup, Member.property?]
  | false =>
    rw [Dataset.target?_of_untargeted h hl]
    by_cases hid : f.name = reservedName <;> simp [member?, role?, hl, hid, Member.property?]

/-- There is one property for every lookup field, of the class of the rows that it refers to. -/
theorem parts_properties (h : ∀ f ∈ table.fields, f.Targeted ctx.dataset.tableNames) :
    (parts ctx table).properties =
      table.fields.filterMap fun f => (ctx.dataset.target? f).map fun target =>
        .classProperty f.name (ctx.rowClass target.name) := by
  simp only [parts, members, List.filterMap_filterMap]
  exact List.filterMap_congr fun f hf => property?_of_targeted (h f hf)

/-- No other part of a row file asks for a property. -/
theorem kind_ne_classProperty_of_mem_parts {fragment : Fragment}
    (h : fragment ∈ (parts ctx table).declarations ++ (parts ctx table).parameters ++
      (parts ctx table).assignments) : fragment.kind ≠ .classProperty := by
  rcases List.mem_append.mp h with h | h
  · rcases List.mem_append.mp h with h | h
    · obtain ⟨m, -, hm⟩ := List.mem_filterMap.mp h
      unfold Member.declaration? at hm
      split at hm
      · cases hm
      · cases hm
        simp [Fragment.kind]
    · obtain ⟨m, -, rfl⟩ := List.mem_map.mp h
      simp [Member.parameter, Fragment.kind]
  · obtain ⟨m, -, rfl⟩ := List.mem_map.mp h
    simp [Member.assignment, Fragment.kind]

end RowClass

/-- **Classes that are referred to are generated.** Over an accepted dataset, under any names and
types and with all fragments and the templates of the row, the table and the database pass, every
table has one class for its rows and one for itself. They are the classes of its row file and of its
table file. The properties of a row file are those of its lookup fields, and each is of the class of
the row file of the table that the field refers to. The table file uses the class of the row file of
its table wherever it names, declares or constructs rows. The database file declares one member per
table and constructs it under the same name, both of the class of the table file. A block of these
files has a line for each of its fragments, in order. -/
theorem class_references_resolve {source : Source} {ctx : Context}
    (haccepted : Dataset.ofSource source = .ok ctx.dataset)
    (hsupports : ∀ kind, ctx.renderer.supports kind = true)
    {rowTemplate tableTemplate databaseTemplate : TemplateFile}
    (hrow : ctx.templates.row = some rowTemplate)
    (htable : ctx.templates.table = some tableTemplate)
    (hdatabase : ctx.templates.database = some databaseTemplate) :
    (∃ (rowClass tableClass member : Table → String) (rowParts : Table → RowClass.Parts),
      ctx.outcome .row = .rendered (ctx.dataset.tables.map fun table =>
        RowClass.fileOf ctx rowTemplate (rowClass table) (rowParts table)) ∧
      (∀ table ∈ ctx.dataset.tables,
        (rowParts table).properties =
          (table.fields.filterMap fun f => (ctx.dataset.target? f).map fun target =>
            .classProperty f.name (rowClass target)) ∧
        (∀ fragment ∈ (rowParts table).declarations ++ (rowParts table).parameters ++
          (rowParts table).assignments, fragment.kind ≠ .classProperty) ∧
        ∀ f ∈ table.fields, f.isLookup = true → ∃ target ∈ ctx.dataset.tables,
          ctx.dataset.target? f = some target ∧ f.lookup = some target.name) ∧
      ctx.outcome .table = .rendered (ctx.dataset.tables.map fun table =>
        TableClass.fileOf ctx tableTemplate (tableClass table) (rowClass table) table.name
          (table.rows.map fun row => .localVariable ("row" ++ row.id) (rowClass table)
            (ctx.renderer.render (.newClassInstance (rowClass table)
              (", ".intercalate (TableClass.arguments table.fields row)))))) ∧
      ctx.outcome .database = .rendered [Database.fileOf ctx databaseTemplate
        (ctx.dataset.tables.map fun table => .classVariable (member table) (tableClass table))
        (ctx.dataset.tables.map fun table => .localAssignment (member table)
          (ctx.renderer.render (.newClassInstance (tableClass table) "")))]) ∧
    ∀ comment fragments, ctx.WritesBlock comment fragments (ctx.block comment fragments) := by
  have hwell := Dataset.wellFormed_of_ofSource haccepted
  refine ⟨⟨fun table => ctx.rowClass table.name, fun table => ctx.tableClass table.name,
    fun table => ctx.naming.constantName table.name, RowClass.parts ctx, ?_, ?_, ?_, ?_⟩,
    ctx.writesBlock_block⟩
  · have hslot : ctx.templates.slot .row = some rowTemplate := hrow
    rw [Context.outcome_row (RowClass.missingTarget?_of_wellFormed hwell)]
    exact Context.withTemplate_of_supports hslot hsupports _
  · intro table ht
    have htargeted := hwell.targeted table ht
    exact ⟨RowClass.parts_properties htargeted,
      fun _ => RowClass.kind_ne_classProperty_of_mem_parts,
      fun f hf => Dataset.exists_target? (htargeted f hf)⟩
  · have hslot : ctx.templates.slot .table = some tableTemplate := htable
    exact Context.withTemplate_of_supports hslot hsupports _
  · have hslot : ctx.templates.slot .database = some databaseTemplate := hdatabase
    exact Context.withTemplate_of_supports hslot hsupports _

/-- A table whose rows refer to those of another one, which is declared behind it. -/
def itemSource : Source where
  text := "[[tables]]\nname = 'item'\n" ++
    "fields = [\x7bname = 'id', type = 'int'\x7d, " ++
    "\x7bname = 'kind', type = 'lookup', lookup = 'item_kind'\x7d]\n" ++
    "rows = [\x7bid = 1, kind = 3\x7d]\n" ++
    "[[tables]]\nname = 'item_kind'\n"
  fileName := "data.toml"

def kindTable : Table where
  name := "item_kind"
  fields := []
  rows := []

def itemTable : Table where
  name := "item"
  fields := [⟨"id", "int", none⟩, ⟨"kind", "lookup", some "item_kind"⟩]
  rows := [.ofList [("id", "1"), ("kind", "3")]]

def itemContext : Context where
  dataset := { package := none, tables := [itemTable, kindTable] }
  templates := {
    row := some ⟨⟨"Row.cs"⟩, "CLASS_NAME"⟩
    table := some ⟨⟨"Table.cs"⟩, "ROW_LIST"⟩
    database := some ⟨⟨"Database.cs"⟩, "CLASS_LIST"⟩ }
  renderer := FragmentPatterns.renderer {
    classVariable := some "\x7btype\x7d \x7bname\x7d;"
    classProperty := some "\x7btype\x7d \x7bname\x7d => Find(\x7bname\x7dId);"
    constant := some "const \x7btype\x7d \x7bname\x7d = \x7bvalue\x7d;"
    localVariable := some "\x7btype\x7d \x7bname\x7d = \x7bvalue\x7d;"
    localAssignment := some "\x7bname\x7d = \x7bvalue\x7d;"
    newClassInstance := some "new \x7bname\x7d(\x7bvalue\x7d)"
    parameter := some "\x7btype\x7d \x7bname\x7d" }
  types := .empty
  naming := .standard
  replacements := []
  package := ""

theorem class_references_resolve_item :
    Dataset.ofSource itemSource = .ok itemContext.dataset ∧
    (∀ kind, itemContext.renderer.supports kind = true) ∧
    ∃ (rowClass : Table → String) (rowParts : Table → RowClass.Parts),
      itemContext.outcome .row = .rendered ([itemTable, kindTable].map fun table =>
        RowClass.fileOf itemContext ⟨⟨"Row.cs"⟩, "CLASS_NAME"⟩ (rowClass table) (rowParts table)) ∧
      (rowParts itemTable).properties = [.classProperty "kind" (rowClass kindTable)] := by
  have hsource : Dataset.ofSource itemSource = .ok itemContext.dataset := by decide +kernel
  have hsupports : ∀ kind, itemContext.renderer.supports kind = true := by
    intro kind
    cases kind <;> rfl
  obtain ⟨⟨rowClass, -, -, rowParts, hrow, hparts, -⟩, -⟩ :=
    class_references_resolve hsource hsupports rfl rfl rfl
  have hitem := (hparts itemTable List.mem_cons_self).1
  exact ⟨hsource, hsupports, rowClass, rowParts, hrow, hitem⟩

end TableForge
