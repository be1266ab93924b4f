import TableForge.Proofs.Generation.RowBlocks

/-!
# The reserved field

Row templates declare the identifier of a row themselves, so a row class is to have no variable and
no property for the field `id`, and one parameter that is assigned to it once. The row pass looks at
the type of a field before its name, and fields may share a name. So the rule is kept by the tables
that have one field of this name, which is no lookup, and by no others.
-/
namespace TableForge.RowClass

/-- The fields that are called `id`. -/
def identifiers (fields : List Field) : List Field :=
  fields.filter fun f => f.name = "id"

/-- The reserved-field rule for a row class with these fields. -/
structure LeavesIdentifier (ctx : Context) (fields : List Field) : Prop where
  no_variable : (partsOf ctx (identifiers fields)).declarations = []
  no_property : ∀ type, .classProperty "id" type ∉ (partsOf ctx fields).properties
  one_parameter : (partsOf ctx (identifiers fields)).parameters.length = 1
  one_assignment : (partsOf ctx (identifiers fields)).assignments.length = 1

variable {ctx : Context} {fields : List Field}

theorem mem_identifiers {f : Field} : f ∈ identifiers fields ↔ f ∈ fields ∧ f.name = "id" := by
  simp [identifiers]

/-- A field `id` has a variable exactly if it is a lookup. -/
theorem length_declarations_identifiers (ctx : Context) (fields : List Field) :
    (partsOf ctx (identifiers fields)).declarations.length =
      (identifiers fields).countP Field.isLookup := by
  rw [partsOf, List.length_filterMap_eq_countP]
  apply List.countP_congr
  intro f hf
  have hname := (mem_identifiers.mp hf).2
  cases hl : f.isLookup <;> simp [Field.declaration?, Field.IsIdentifier, hl, hname]

/-- A field `id` has a property exactly if it is a lookup with a target. -/
theorem length_properties_identifiers
    (h : ∀ f ∈ fields, f.isLookup = true → f.lookup.isSome = true) :
    (partsOf ctx (identifiers fields)).properties.length =
      (identifiers fields).countP Field.isLookup := by
  rw [partsOf, List.length_filterMap_eq_countP]
  apply List.countP_congr
  intro f hf
  have htarget := h f (mem_identifiers.mp hf).1
  cases hl : f.isLookup with
  | true => simp [Field.property?, hl, htarget hl]
  | false => simp [Field.property?, hl]

/-- A property with the name of a field is that of a lookup field. -/
theorem exists_lookup_of_property {name type : String}
    (h : .classProperty name type ∈ (partsOf ctx fields).properties) :
    ∃ f ∈ fields, f.name = name ∧ f.isLookup = true := by
  obtain ⟨f, hf, hproperty⟩ := List.mem_filterMap.mp h
  cases hl : f.isLookup with
  | false => simp [Field.property?, hl] at hproperty
  | true =>
    simp only [Field.property?, hl, if_true] at hproperty
    obtain ⟨target, -, he⟩ := Option.map_eq_some_iff.mp hproperty
    exact ⟨f, hf, (Fragment.classProperty.inj he).1, hl⟩

/-- The rule is kept by the tables with one field `id` that is no lookup. -/
theorem leavesIdentifier_iff :
    LeavesIdentifier ctx fields ↔ ∃ f, identifiers fields = [f] ∧ f.isLookup = false := by
  constructor
  · intro h
    have hone : (identifiers fields).length = 1 := by
      have hparameter := h.one_parameter
      rwa [partsOf, List.length_map] at hparameter
    obtain ⟨f, hf⟩ := List.length_eq_one_iff.mp hone
    have hcount := length_declarations_identifiers ctx fields
    rw [h.no_variable, List.length_nil, eq_comm, List.countP_eq_zero] at hcount
    exact ⟨f, hf, by simpa using hcount f (by simp [hf])⟩
  · rintro ⟨f, hf, hl⟩
    refine ⟨?_, ?_, ?_, ?_⟩
    · rw [List.eq_nil_iff_length_eq_zero, length_declarations_identifiers, hf]
      simp [hl]
    · intro type hmem
      obtain ⟨g, hg, hname, hlookup⟩ := exists_lookup_of_property hmem
      have hgf : g ∈ identifiers fields := mem_identifiers.mpr ⟨hg, hname⟩
      rw [hf, List.mem_singleton] at hgf
      rw [hgf, hl] at hlookup
      cases hlookup
    · simp [partsOf, hf]
    · simp [partsOf, hf]

/-- **When a row class leaves the field `id` to its template.** Of every table of an accepted dataset
the row pass renders what its fields contribute. A field `id` contributes one parameter and one
assignment, and a variable and a property exactly if it is a lookup. So a table keeps the
reserved-field rule exactly if it has one field `id` and this is no lookup. -/
theorem reserved_field_left_iff {source : Source} {ctx : Context}
    (haccepted : Dataset.ofSource source = .ok ctx.dataset) :
    ctx.outcome .row = ctx.withTemplate .row (fun template =>
      .rendered (ctx.dataset.tables.map fun table =>
        fileOf ctx template (ctx.rowClass table.name) (partsOf ctx table.fields))) ∧
    ∀ table ∈ ctx.dataset.tables,
      (partsOf ctx (identifiers table.fields)).parameters.length =
        (identifiers table.fields).length ∧
      (partsOf ctx (identifiers table.fields)).assignments.length =
        (identifiers table.fields).length ∧
      (partsOf ctx (identifiers table.fields)).declarations.length =
        (identifiers table.fields).countP Field.isLookup ∧
      (partsOf ctx (identifiers table.fields)).properties.length =
        (identifiers table.fields).countP Field.isLookup ∧
      (LeavesIdentifier ctx table.fields ↔
        ∃ f, identifiers table.fields = [f] ∧ f.isLookup = false) := by
  have hwell := Dataset.wellFormed_of_ofSource haccepted
  refine ⟨?_, fun table ht => ⟨?_, ?_, ?_, ?_, leavesIdentifier_iff⟩⟩
  · have hfiles (template : TemplateFile) : (ctx.dataset.tables.map fun table =>
          fileOf ctx template (ctx.rowClass table.name) (parts ctx table)) =
        ctx.dataset.tables.map fun table =>
          fileOf ctx template (ctx.rowClass table.name) (partsOf ctx table.fields) := by
      apply List.map_congr_left
      intro table ht
      rw [parts_eq_partsOf (hwell.hasTargets table ht)]
    simp only [Context.outcome_row (missingTarget?_of_wellFormed hwell), hfiles]
  · rw [partsOf, List.length_map]
  · rw [partsOf, List.length_map]
  · exact length_declarations_identifiers ctx table.fields
  · exact length_properties_identifiers (hwell.hasTargets table ht)

def numberField : Field := ⟨"id", "int", none⟩

/-- A field `id` that refers to its own table. -/
def selfField : Field := ⟨"id", "lookup", some "part"⟩

def partSource (fields : String) : Source where
  text := "[[tables]]\nname = 'part'\nfields = [" ++ fields ++ "]\n"
  fileName := "data.toml"

def partTable (fields : List Field) : Table where
  name := "part"
  fields
  rows := []

def partContext (fields : List Field) : Context :=
  { itemContext with dataset := { package := none, tables := [partTable fields] } }

theorem reserved_field_left_iff_number :
    Dataset.ofSource (partSource "\x7bname = 'id', type = 'int'\x7d") =
      .ok (partContext [numberField]).dataset ∧
    partTable [numberField] ∈ (partContext [numberField]).dataset.tables ∧
    LeavesIdentifier (partContext [numberField]) [numberField] := by
  have hsource : Dataset.ofSource (partSource "\x7bname = 'id', type = 'int'\x7d") =
      .ok (partContext [numberField]).dataset := by decide +kernel
  have hmem : partTable [numberField] ∈ (partContext [numberField]).dataset.tables :=
    List.mem_cons_self
  obtain ⟨-, hall⟩ := reserved_field_left_iff hsource
  obtain ⟨-, -, -, -, hrule⟩ := hall (partTable [numberField]) hmem
  exact ⟨hsource, hmem, hrule.mpr ⟨numberField, by decide, by decide⟩⟩

/-- A lookup field `id` is not refused and gets a variable and a property. Nor are two fields `id`
refused, and they get two parameters of one name and two assignments. -/
theorem reserved_field_declared :
    Dataset.ofSource (partSource "\x7bname = 'id', type = 'lookup', lookup = 'part'\x7d") =
      .ok (partContext [selfField]).dataset ∧
    (partContext [selfField]).outcome .row =
      .rendered [fileOf (partContext [selfField]) ⟨⟨"Row.cs"⟩, "CLASS_NAME"⟩ "PartRow" {
        declarations := [.classVariable "idId" "int"]
        properties := [.classProperty "id" "PartRow"]
        parameters := [.parameter "_idId" "int"]
        assignments := [.localAssignment "idId" "_idId"] }] ∧
    ¬ LeavesIdentifier (partContext [selfField]) [selfField] ∧
    Dataset.ofSource (partSource
        "\x7bname = 'id', type = 'int'\x7d, \x7bname = 'id', type = 'int'\x7d") =
      .ok (partContext [numberField, numberField]).dataset ∧
    (partContext [numberField, numberField]).outcome .row =
      .rendered [fileOf (partContext [numberField, numberField]) ⟨⟨"Row.cs"⟩, "CLASS_NAME"⟩
        "PartRow" {
          declarations := []
          properties := []
          parameters := [.parameter "_id" "int", .parameter "_id" "int"]
          assignments := [.localAssignment "id" "_id", .localAssignment "id" "_id"] }] ∧
    ¬ LeavesIdentifier (partContext [numberField, numberField]) [numberField, numberField] := by
  refine ⟨by decide +kernel, by decide +kernel, fun h => ?_, by decide +kernel, by decide +kernel,
    fun h => ?_⟩
  · exact absurd h.no_variable (by decide)
  · exact absurd h.one_parameter (by decide)

end TableForge.RowClass
