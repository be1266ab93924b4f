import TableForge.Proofs.Generation.ClassReference
import TableForge.Proofs.Template.Loading

/-!
# What outputs depend on

A pass reads its own template, the settings of the run and the tables, and of these it may not read
more than its files need. Three comparisons of two runs say so. Exchanging the template of one pass
leaves the outcomes of the others as they are. Exchanging the rows of the tables leaves the passes
alone that write no rows. And the passes that render a file per table go table by table: as long as
lookup fields have targets, so that no table stops the pass for all of them, the file of a table does
not depend on the tables around it, and files follow their tables when these are rearranged.
-/
namespace TableForge

/-- The items at these places, in the order of the places. -/
def arranged {α : Type} (items : List α) (order : List Nat) : List α :=
  order.filterMap (items[·]?)

theorem arranged_map {α β : Type} (f : α → β) (items : List α) (order : List Nat) :
    arranged (items.map f) order = (arranged items order).map f := by
  simp [arranged, List.map_filterMap]

theorem arranged_nil {α : Type} (order : List Nat) : arranged ([] : List α) order = [] := by
  simp [arranged]

def Table.withoutRows (table : Table) : Table := { table with rows := [] }

/-- The dataset with the names and fields of its tables only. -/
def Dataset.withoutRows (d : Dataset) : Dataset :=
  { d with tables := d.tables.map Table.withoutRows }

/-- The generator over another dataset. -/
def Generator.over (g : Generator) (d : Dataset) : Generator := { g with dataset := d }

/-! ## Templates -/

theorem TemplateSet.slot_eq_of_ofPass {t t' : TemplateSet} {pass : PassKind}
    (h : t.ofPass pass = t'.ofPass pass) : t.slot pass = t'.slot pass := by
  by_cases hpass : pass = .package
  · rw [hpass]
    rfl
  · have hslot (t : TemplateSet) : (t.ofPass pass).head? = t.slot pass := by
      cases pass <;> first | exact Option.head?_toList | exact absurd rfl hpass
    rw [← hslot t, h, hslot t']

namespace Context

variable {ctx ctx' : Context} {pass : PassKind}

/-- Of the context, a pass with a single template looks at this template and at what its renderer
lacks before it renders. -/
theorem withTemplate_congr {render render' : TemplateFile → PassOutcome}
    (hslot : ctx.templates.slot pass = ctx'.templates.slot pass)
    (hmissing : ctx.missingFragment? pass = ctx'.missingFragment? pass)
    (hrender : ∀ template, render template = render' template) :
    ctx.withTemplate pass render = ctx'.withTemplate pass render' := by
  unfold withTemplate
  rw [hslot, hmissing, funext hrender]

/-- Exchanging templates of other passes leaves the outcome of a pass as it is. -/
theorem outcome_of_ofPass {templates : TemplateSet}
    (h : templates.ofPass pass = ctx.templates.ofPass pass) :
    ({ ctx with templates } : Context).outcome pass = ctx.outcome pass := by
  have hslot := TemplateSet.slot_eq_of_ofPass h
  cases pass with
  | enumeration => exact withTemplate_congr hslot rfl fun _ => rfl
  | row => exact withTemplate_congr hslot rfl fun _ => rfl
  | table => exact withTemplate_congr hslot rfl fun _ => rfl
  | database => exact withTemplate_congr hslot rfl fun _ => rfl
  | package =>
    have hfiles : templates.packageFiles = ctx.templates.packageFiles := h
    simp only [outcome, hfiles]
    rfl

/-! ## Rows -/

theorem missingTarget?_withoutRows (tables : List Table) :
    RowClass.missingTarget? (tables.map Table.withoutRows) = RowClass.missingTarget? tables := by
  rw [RowClass.missingTarget?, List.findSome?_map]
  rfl

/-- The passes that write no rows do not read any. -/
theorem outcome_withoutRows (h : pass ∈ [PassKind.row, .database, .package]) :
    ({ ctx with dataset := ctx.dataset.withoutRows } : Context).outcome pass =
      ctx.outcome pass := by
  cases pass with
  | enumeration => simp at h
  | table => simp at h
  | package => rfl
  | row =>
    refine withTemplate_congr rfl rfl fun template => ?_
    simp only [Dataset.withoutRows, missingTarget?_withoutRows, List.map_map]
    rfl
  | database =>
    refine withTemplate_congr rfl rfl fun template => ?_
    simp only [Database.file, Dataset.withoutRows, List.map_map]
    rfl

end Context

namespace Generator

variable {g : Generator} {d d' : Dataset} {pass : PassKind}

theorem outcome_eq_of_withoutRows (h : d.withoutRows = d'.withoutRows)
    (hpass : pass ∈ [PassKind.row, .database, .package]) :
    (g.over d).context.outcome pass = (g.over d').context.outcome pass := by
  have hrows (d : Dataset) : (g.over d).context.outcome pass =
      (g.over d.withoutRows).context.outcome pass :=
    (Context.outcome_withoutRows hpass).symm
  rw [hrows d, h, ← hrows d']

/-! ## Tables -/

/-- Whether files are made table by table: none of any table, or one of each. -/
def Tablewise (files : Dataset → List GeneratedFile) : Prop :=
  (∀ d, d.HasTargets → files d = []) ∨
    ∃ file : Table → GeneratedFile, ∀ d, d.HasTargets → files d = d.tables.map file

namespace Tablewise

variable {files : Dataset → List GeneratedFile}

/-- The file of a table does not depend on the tables around it. -/
theorem getElem?_eq (h : Tablewise files) (hd : d.HasTargets) (hd' : d'.HasTargets) {i j : Nat}
    (htable : d.tables[i]? = d'.tables[j]?) : (files d)[i]? = (files d')[j]? := by
  rcases h with hnone | ⟨file, hfile⟩
  · rw [hnone d hd, hnone d' hd']
    rfl
  · rw [hfile d hd, hfile d' hd', List.getElem?_map, List.getElem?_map, htable]

/-- Files follow their tables. -/
theorem eq_arranged (h : Tablewise files) (hd : d.HasTargets) (hd' : d'.HasTargets)
    {order : List Nat} (horder : d'.tables = arranged d.tables order) :
    files d' = arranged (files d) order := by
  rcases h with hnone | ⟨file, hfile⟩
  · rw [hnone d hd, hnone d' hd', arranged_nil]
  · rw [hfile d hd, hfile d' hd', arranged_map, horder]

end Tablewise

/-- Whether a pass with a single template renders is decided without the dataset. -/
theorem tablewise_of_withTemplate (file : TemplateFile → Table → GeneratedFile)
    (h : ∀ d, d.HasTargets → (g.over d).context.outcome pass =
      g.context.withTemplate pass fun template => .rendered (d.tables.map (file template))) :
    Tablewise fun d => ((g.over d).context.outcome pass).files := by
  cases hslot : g.context.templates.slot pass with
  | none =>
    left
    intro d hd
    simp only [h d hd, Context.withTemplate, hslot]
    rfl
  | some template =>
    cases hmissing : g.context.missingFragment? pass with
    | some fragment =>
      left
      intro d hd
      simp only [h d hd, Context.withTemplate, hslot, hmissing]
      rfl
    | none =>
      right
      refine ⟨file template, fun d hd => ?_⟩
      simp only [h d hd, Context.withTemplate, hslot, hmissing]
      rfl

theorem outcome_row_over (hd : d.HasTargets) : (g.over d).context.outcome .row =
    g.context.withTemplate .row fun template => .rendered (d.tables.map fun table =>
      RowClass.file g.context template table.name (RowClass.members table)) := by
  have hmissing : RowClass.missingTarget? (g.over d).context.dataset.tables = none :=
    RowClass.missingTarget?_of_hasTargets hd
  refine Context.withTemplate_congr rfl rfl fun template => ?_
  rw [hmissing]
  rfl

theorem tablewise_files (hpass : pass ∈ [PassKind.enumeration, .row, .table]) :
    Tablewise fun d => ((g.over d).context.outcome pass).files := by
  cases pass with
  | enumeration => exact tablewise_of_withTemplate (Enumeration.file g.context) fun _ _ => rfl
  | row => exact tablewise_of_withTemplate _ fun _ hd => outcome_row_over hd
  | table => exact tablewise_of_withTemplate (TableClass.file g.context) fun _ _ => rfl
  | database => simp at hpass
  | package => simp at hpass

/-- What the database pass makes of lists of declarations and assignments. -/
def databaseOutcome (g : Generator) (declarations assignments : List Fragment) : PassOutcome :=
  g.context.withTemplate .database fun template =>
    .rendered [Database.fileOf g.context template declarations assignments]

/-- The tables come into the database file by their declarations and assignments only. -/
theorem outcome_database_over (g : Generator) (d : Dataset) :
    (g.over d).context.outcome .database =
      g.databaseOutcome (d.tables.map (Database.declaration g.context))
        (d.tables.map (Database.assignment g.context)) :=
  rfl

/-- **Outputs depend on their own inputs only.** Two runs that differ in the template of one pass, its
text, its path or whether there is one, have the same outcome of all other passes. Two runs whose
datasets differ in rows have the same outcome of the row, the database and the package pass. If in
both datasets every lookup field has a target, a table that occurs in both has the same file in the
enumeration, the row and the table pass, whatever tables are around it; and if the tables of one
dataset are those of the other in some order, so are the files of these passes and the declarations
and assignments of the database file. -/
theorem outcomes_depend_on_own_inputs (g : Generator) :
    (∀ (pass : PassKind) (templates : TemplateSet),
      (∀ other, other ≠ pass → templates.ofPass other = g.templates.ofPass other) →
      ∀ other, other ≠ pass →
        ({ g with templates } : Generator).context.outcome other = g.context.outcome other) ∧
    (∀ d d' : Dataset, d.withoutRows = d'.withoutRows →
      ∀ pass ∈ [PassKind.row, .database, .package],
        (g.over d).context.outcome pass = (g.over d').context.outcome pass) ∧
    ∀ d d' : Dataset, d.HasTargets → d'.HasTargets →
      (∀ pass ∈ [PassKind.enumeration, .row, .table], ∀ (i j : Nat) (table : Table),
        d.tables[i]? = some table → d'.tables[j]? = some table →
          ((g.over d).context.outcome pass).files[i]? =
            ((g.over d').context.outcome pass).files[j]?) ∧
      ∀ order : List Nat, d'.tables = arranged d.tables order →
        (∀ pass ∈ [PassKind.enumeration, .row, .table],
          ((g.over d').context.outcome pass).files =
            arranged ((g.over d).context.outcome pass).files order) ∧
        (g.over d).context.outcome .database =
          g.databaseOutcome (d.tables.map (Database.declaration g.context))
            (d.tables.map (Database.assignment g.context)) ∧
        (g.over d').context.outcome .database =
          g.databaseOutcome (arranged (d.tables.map (Database.declaration g.context)) order)
            (arranged (d.tables.map (Database.assignment g.context)) order) := by
  refine ⟨?_, ?_, ?_⟩
  · intro pass templates htemplates other hother
    have hother : templates.ofPass other = g.context.templates.ofPass other :=
      htemplates other hother
    exact Context.outcome_of_ofPass hother
  · intro d d' hrows pass hpass
    exact outcome_eq_of_withoutRows hrows hpass
  · intro d d' hd hd'
    refine ⟨?_, ?_⟩
    · intro pass hpass i j table hi hj
      exact (tablewise_files hpass).getElem?_eq hd hd' (hi.trans hj.symm)
    · intro order horder
      refine ⟨fun pass hpass => (tablewise_files hpass).eq_arranged hd hd' horder, ?_, ?_⟩
      · exact outcome_database_over g d
      · rw [outcome_database_over, arranged_map, arranged_map, horder]

/-- Items of some kinds, the field of a kind being a lookup. -/
def shopTables : List Table :=
  [{ name := "kind", fields := [⟨"id", "int", none⟩], rows := [.ofList [("id", "1")]] },
    { name := "item"
      fields := [⟨"id", "int", none⟩, ⟨"kind", "lookup", some "kind"⟩]
      rows := [.ofList [("id", "7"), ("kind", "1")]] }]

def shopSample : Generator where
  config := {}
  dataset := { package := none, tables := shopTables }
  templates := {
    row := some ⟨⟨"Row.txt"⟩, "CLASS_PARAMS_STRING"⟩
    table := some ⟨⟨"Table.txt"⟩, "ROW_LIST"⟩ }
  renderer := FragmentPatterns.renderer {
    classVariable := some "{type} {name};"
    classProperty := some "{type} {name};"
    localAssignment := some "{name} = {value};"
    parameter := some "{type} {name}"
    newClassInstance := some "new {name}({value})"
    localVariable := some "{name} = {value};" }
  types := .empty
  replacements := []
  naming := .standard

/-- The shop without its row template, without any rows, and with its tables in the other order. -/
theorem outcomes_depend_on_own_inputs_shop :
    ({ shopSample with templates := { shopSample.templates with row := none } } :
      Generator).context.outcome .table = shopSample.context.outcome .table ∧
    shopSample.dataset.withoutRows ≠ shopSample.dataset ∧
    (shopSample.over shopSample.dataset.withoutRows).context.outcome .row =
      shopSample.context.outcome .row ∧
    shopSample.dataset.HasTargets ∧
    ((shopSample.over { package := none, tables := shopTables.reverse }).context.outcome
      .table).files =
      arranged (shopSample.context.outcome .table).files [1, 0] ∧
    (shopSample.context.outcome .table).files.map (·.content) =
      ["// code generated list of all rows\nrow1 = new KindRow(1);",
        "// code generated list of all rows\nrow7 = new ItemRow(7, 1);"] := by
  obtain ⟨htemplates, hrows, htables⟩ := outcomes_depend_on_own_inputs shopSample
  have htargets : shopSample.dataset.HasTargets := by decide
  have hreverse : ({ package := none, tables := shopTables.reverse } : Dataset).HasTargets := by
    decide
  have hother : ∀ other, other ≠ PassKind.row →
      ({ shopSample.templates with row := none } : TemplateSet).ofPass other =
        shopSample.templates.ofPass other := by
    intro other hne
    cases other <;> first | rfl | exact absurd rfl hne
  refine ⟨?_, by decide, ?_, htargets, ?_, by decide +kernel⟩
  · exact htemplates .row _ hother .table (by decide)
  · exact hrows _ shopSample.dataset (by decide) .row (by decide)
  · exact ((htables _ _ htargets hreverse).2 [1, 0] (by decide)).1 .table (by decide)

end Generator

end TableForge
