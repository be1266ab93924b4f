import TableForge.Proofs.Generation.Isolation
import TableForge.Proofs.Generation.PassEnding

/-!
# Required fragments cover the ones that are used

Each pass declares the kinds of fragments that it needs, and a renderer that lacks one of them keeps
the pass from rendering. What the pass then asks the renderer for is written down apart from that
list. The list covers it: what comes of a pass depends on the renderer only through the fragments
that are asked for, and these are of the declared kinds. So the text that a renderer has for a kind
that it does not support gets into no file.
-/
namespace TableForge

/-- Whether two renderers support the same kinds. -/
def Renderer.SameKinds (r r' : Renderer) : Prop :=
  ∀ kind, r.supports kind = r'.supports kind

/-- Whether two renderers have the same code for these fragments. -/
def Renderer.AgreeOn (r r' : Renderer) (fragments : List Fragment) : Prop :=
  ∀ f ∈ fragments, r.render f = r'.render f

namespace Renderer

variable {r r' : Renderer} {a b : List Fragment}

theorem agreeOn_append : r.AgreeOn r' (a ++ b) ↔ r.AgreeOn r' a ∧ r.AgreeOn r' b :=
  List.forall_mem_append

theorem agreeOn_flatMap {tables : List Table} {fragments : Table → List Fragment} :
    r.AgreeOn r' (tables.flatMap fragments) ↔ ∀ table ∈ tables, r.AgreeOn r' (fragments table) :=
  List.forall_mem_flatMap

theorem AgreeOn.map_render (h : r.AgreeOn r' a) : a.map r.render = a.map r'.render :=
  List.map_congr_left h

end Renderer

namespace RowClass

/-- The fragments of all parts of a row file. -/
def Parts.fragments (p : Parts) : List Fragment :=
  p.declarations ++ p.properties ++ p.parameters ++ p.assignments

end RowClass

namespace Context

/-- The context with another renderer. -/
def withRenderer (ctx : Context) (r : Renderer) : Context := { ctx with renderer := r }

/-- The fragments that a pass asks its renderer for when it renders all its tables. -/
def asked (ctx : Context) : PassKind → List Fragment
  | .enumeration => ctx.dataset.tables.flatMap (Enumeration.constants ctx)
  | .row => ctx.dataset.tables.flatMap fun table => (RowClass.parts ctx table).fragments
  | .table => ctx.dataset.tables.flatMap fun table =>
      table.rows.map (TableClass.construction ctx table) ++ TableClass.declarations ctx table
  | .database => ctx.dataset.tables.map (Database.declaration ctx) ++
      ctx.dataset.tables.map (Database.construction ctx) ++
      ctx.dataset.tables.map (Database.assignment ctx)
  | .package => []

variable {ctx : Context} {r r' : Renderer} {pass : PassKind}

theorem block_congr (ctx : Context) {fragments : List Fragment} (h : r.AgreeOn r' fragments)
    (comment : String) :
    (ctx.withRenderer r).block comment fragments =
      (ctx.withRenderer r').block comment fragments := by
  rw [block, block]
  exact congrArg (fun lines => Body.trimLineEnds (TableForge.block comment lines)) h.map_render

theorem missingFragment?_congr (ctx : Context) (h : r.SameKinds r') :
    (ctx.withRenderer r).missingFragment? pass = (ctx.withRenderer r').missingFragment? pass := by
  rw [missingFragment?, missingFragment?]
  exact congrArg pass.required.find? (funext fun kind => congrArg (!·) (h kind))

/-! ## Pass by pass -/

theorem enumeration_file_congr {template : TemplateFile} {table : Table}
    (h : r.AgreeOn r' (Enumeration.constants ctx table)) :
    Enumeration.file (ctx.withRenderer r) template table =
      Enumeration.file (ctx.withRenderer r') template table := by
  have hblock := block_congr ctx h "// code generated list of all rows"
  exact congrArg (fun block => ctx.classFile template (ctx.enumClass table.name)
    [(.className, ctx.enumClass table.name), (.variableList, block)]) hblock

theorem row_fileOf_congr {template : TemplateFile} {className : String} {parts : RowClass.Parts}
    (h : r.AgreeOn r' parts.fragments) :
    RowClass.fileOf (ctx.withRenderer r) template className parts =
      RowClass.fileOf (ctx.withRenderer r') template className parts := by
  obtain ⟨hfront, hassignments⟩ := Renderer.agreeOn_append.mp h
  obtain ⟨hfront, hparameters⟩ := Renderer.agreeOn_append.mp hfront
  obtain ⟨hdeclarations, hproperties⟩ := Renderer.agreeOn_append.mp hfront
  have hlist : parts.parameters.map (ctx.withRenderer r).renderer.render =
      parts.parameters.map (ctx.withRenderer r').renderer.render := hparameters.map_render
  rw [RowClass.fileOf, RowClass.fileOf, block_congr ctx hdeclarations, block_congr ctx hproperties,
    block_congr ctx hassignments, hlist]
  rfl

theorem declarations_congr {table : Table}
    (h : r.AgreeOn r' (table.rows.map (TableClass.construction ctx table))) :
    TableClass.declarations (ctx.withRenderer r) table =
      TableClass.declarations (ctx.withRenderer r') table := by
  refine List.map_congr_left fun row hrow => ?_
  have hconstruction := h _ (List.mem_map_of_mem hrow)
  exact congrArg (Fragment.localVariable ("row" ++ row.id) (ctx.rowClass table.name)) hconstruction

theorem table_file_congr {template : TemplateFile} {table : Table}
    (hconstructions : r.AgreeOn r' (table.rows.map (TableClass.construction ctx table)))
    (hdeclarations : r.AgreeOn r' (TableClass.declarations (ctx.withRenderer r) table)) :
    TableClass.file (ctx.withRenderer r) template table =
      TableClass.file (ctx.withRenderer r') template table := by
  have hblock := block_congr ctx hdeclarations "// code generated list of all rows"
  rw [TableClass.file, TableClass.file, ← declarations_congr hconstructions, hblock]
  rfl

theorem database_fileOf_congr {template : TemplateFile} {declarations assignments : List Fragment}
    (hdeclarations : r.AgreeOn r' declarations) (hassignments : r.AgreeOn r' assignments) :
    Database.fileOf (ctx.withRenderer r) template declarations assignments =
      Database.fileOf (ctx.withRenderer r') template declarations assignments := by
  rw [Database.fileOf, Database.fileOf, block_congr ctx hdeclarations,
    block_congr ctx hassignments]
  rfl

theorem assignments_congr (ctx : Context) {tables : List Table}
    (h : r.AgreeOn r' (tables.map (Database.construction ctx))) :
    tables.map (Database.assignment (ctx.withRenderer r)) =
      tables.map (Database.assignment (ctx.withRenderer r')) := by
  refine List.map_congr_left fun table htable => ?_
  have hconstruction := h _ (List.mem_map_of_mem htable)
  exact congrArg (Fragment.localAssignment (Database.memberName ctx table)) hconstruction

theorem database_file_congr {template : TemplateFile}
    (h : r.AgreeOn r' ((ctx.withRenderer r).asked .database)) :
    Database.file (ctx.withRenderer r) template = Database.file (ctx.withRenderer r') template := by
  obtain ⟨hfront, hassignments⟩ := Renderer.agreeOn_append.mp h
  obtain ⟨hdeclarations, hconstructions⟩ := Renderer.agreeOn_append.mp hfront
  have hvalues := assignments_congr ctx hconstructions
  exact (database_fileOf_congr hdeclarations hassignments).trans
    (congrArg (Database.fileOf (ctx.withRenderer r') template _) hvalues)

/-- What comes of a pass depends on the renderer through what it is asked for. -/
theorem outcome_congr (hkinds : r.SameKinds r')
    (h : r.AgreeOn r' ((ctx.withRenderer r).asked pass)) :
    (ctx.withRenderer r).outcome pass = (ctx.withRenderer r').outcome pass := by
  have hmissing {pass : PassKind} : (ctx.withRenderer r).missingFragment? pass =
      (ctx.withRenderer r').missingFragment? pass := missingFragment?_congr ctx hkinds
  cases pass with
  | enumeration =>
    refine withTemplate_congr rfl hmissing fun template => ?_
    refine congrArg PassOutcome.rendered (List.map_congr_left fun table htable => ?_)
    exact enumeration_file_congr (Renderer.agreeOn_flatMap.mp h table htable)
  | row =>
    refine withTemplate_congr rfl hmissing fun template => ?_
    have hfiles : ((ctx.withRenderer r).dataset.tables.map fun table =>
          RowClass.file (ctx.withRenderer r) template table.name (RowClass.members table)) =
        (ctx.withRenderer r').dataset.tables.map fun table =>
          RowClass.file (ctx.withRenderer r') template table.name (RowClass.members table) := by
      refine List.map_congr_left fun table htable => ?_
      rw [RowClass.file_eq_fileOf, RowClass.file_eq_fileOf]
      exact row_fileOf_congr (Renderer.agreeOn_flatMap.mp h table htable)
    rw [hfiles]
    rfl
  | table =>
    refine withTemplate_congr rfl hmissing fun template => ?_
    refine congrArg PassOutcome.rendered (List.map_congr_left fun table htable => ?_)
    obtain ⟨hconstructions, hdeclarations⟩ :=
      Renderer.agreeOn_append.mp (Renderer.agreeOn_flatMap.mp h table htable)
    exact table_file_congr hconstructions hdeclarations
  | database =>
    refine withTemplate_congr rfl hmissing fun template => ?_
    exact congrArg (fun file => PassOutcome.rendered [file]) (database_file_congr h)
  | package => rfl

/-! ## What is asked for and what is required -/

theorem kind_of_mem_parts {table : Table} {f : Fragment}
    (h : f ∈ (RowClass.parts ctx table).fragments) : f.kind ∈ PassKind.required .row := by
  simp only [RowClass.Parts.fragments, RowClass.parts, List.mem_append, List.mem_filterMap,
    List.mem_map, or_assoc] at h
  rcases h with ⟨m, -, hf⟩ | ⟨m, -, hf⟩ | ⟨m, -, rfl⟩ | ⟨m, -, rfl⟩
  · unfold RowClass.Member.declaration? at hf
    split at hf
    · cases hf
    · cases hf
      simp [Fragment.kind, PassKind.required]
  · unfold RowClass.Member.property? at hf
    split at hf
    · cases hf
      simp [Fragment.kind, PassKind.required]
    · cases hf
  · simp [RowClass.Member.parameter, Fragment.kind, PassKind.required]
  · simp [RowClass.Member.assignment, Fragment.kind, PassKind.required]

/-- A pass asks for no fragment but those of the kinds that it requires. -/
theorem kind_of_mem_asked {f : Fragment} (h : f ∈ ctx.asked pass) : f.kind ∈ pass.required := by
  cases pass with
  | enumeration =>
    obtain ⟨table, -, hf⟩ := List.mem_flatMap.mp h
    obtain ⟨row, -, rfl⟩ := List.mem_map.mp hf
    simp [Enumeration.constant, Fragment.kind, PassKind.required]
  | row =>
    obtain ⟨table, -, hf⟩ := List.mem_flatMap.mp h
    exact kind_of_mem_parts hf
  | table =>
    obtain ⟨table, -, hf⟩ := List.mem_flatMap.mp h
    rcases List.mem_append.mp hf with hf | hf
    · obtain ⟨row, -, rfl⟩ := List.mem_map.mp hf
      simp [TableClass.construction, Fragment.kind, PassKind.required]
    · obtain ⟨row, -, rfl⟩ := List.mem_map.mp hf
      simp [TableClass.declaration, Fragment.kind, PassKind.required]
  | database =>
    rcases List.mem_append.mp h with h | h
    · rcases List.mem_append.mp h with h | h
      · obtain ⟨table, -, rfl⟩ := List.mem_map.mp h
        simp [Database.declaration, Fragment.kind, PassKind.required]
      · obtain ⟨table, -, rfl⟩ := List.mem_map.mp h
        simp [Database.construction, Fragment.kind, PassKind.required]
    · obtain ⟨table, -, rfl⟩ := List.mem_map.mp h
      simp [Database.assignment, Fragment.kind, PassKind.required]
  | package => cases h

/-- Without a fragment that it requires a pass stops before it renders. -/
theorem outcome_of_missing {fragment : FragmentKind}
    (h : ctx.missingFragment? pass = some fragment) :
    ctx.outcome pass =
      if (ctx.templates.slot pass).isSome then .aborted (.missingFragment pass fragment)
      else .skipped := by
  have hstops (render : TemplateFile → PassOutcome) : ctx.withTemplate pass render =
      if (ctx.templates.slot pass).isSome then .aborted (.missingFragment pass fragment)
      else .skipped := by
    unfold withTemplate
    rw [h]
    cases ctx.templates.slot pass <;> rfl
  cases pass with
  | enumeration => exact hstops _
  | row => exact hstops _
  | table => exact hstops _
  | database => exact hstops _
  | package => cases h

theorem exists_missing (ctx : Context) {kind : FragmentKind} (hkind : kind ∈ pass.required)
    (hsupports : ctx.renderer.supports kind = false) :
    ∃ fragment ∈ pass.required, ctx.renderer.supports fragment = false ∧
      ctx.missingFragment? pass = some fragment := by
  have hsome : (ctx.missingFragment? pass).isSome = true :=
    List.find?_isSome.mpr ⟨kind, hkind, by simp [hsupports]⟩
  obtain ⟨fragment, hfragment⟩ := Option.isSome_iff_exists.mp hsome
  exact ⟨fragment, List.mem_of_find?_eq_some hfragment,
    (missingFragment?_eq_some_iff.mp hfragment).1, hfragment⟩

/-- The text that stands for a fragment that is not supported gets into no file. -/
theorem outcome_congr_supported (hkinds : r.SameKinds r')
    (h : ∀ f, r.supports f.kind = true → r.render f = r'.render f) :
    (ctx.withRenderer r).outcome pass = (ctx.withRenderer r').outcome pass := by
  cases hmissing : (ctx.withRenderer r).missingFragment? pass with
  | none =>
    have hsupports := missingFragment?_eq_none_iff.mp hmissing
    exact outcome_congr hkinds fun f hf => h f (hsupports _ (kind_of_mem_asked hf))
  | some fragment =>
    rw [outcome_of_missing hmissing,
      outcome_of_missing ((missingFragment?_congr ctx hkinds).symm.trans hmissing)]
    rfl

/-- **Required fragments cover the ones that are used.** Whatever a pass asks its renderer for is of a
kind that it requires. Two renderers that support the same kinds lead to the same outcome of a pass
if they agree on what is asked for, hence if they agree on the required kinds, and also if they
agree on the kinds that they support, whatever they have for the others. A pass with a template
that asks for a fragment of a kind that is not supported is aborted for a required fragment, without
any files. -/
theorem required_fragments_suffice (ctx : Context) (pass : PassKind) (r : Renderer) :
    (∀ f ∈ (ctx.withRenderer r).asked pass, f.kind ∈ pass.required) ∧
    (∀ r' : Renderer, r.SameKinds r' →
      (r.AgreeOn r' ((ctx.withRenderer r).asked pass) ∨
        (∀ f : Fragment, f.kind ∈ pass.required → r.render f = r'.render f) ∨
        (∀ f : Fragment, r.supports f.kind = true → r.render f = r'.render f)) →
      (ctx.withRenderer r).outcome pass = (ctx.withRenderer r').outcome pass) ∧
    ∀ f ∈ (ctx.withRenderer r).asked pass, r.supports f.kind = false →
      (ctx.templates.slot pass).isSome = true →
      ∃ fragment ∈ pass.required, r.supports fragment = false ∧
        (ctx.withRenderer r).outcome pass = .aborted (.missingFragment pass fragment) := by
  refine ⟨fun f => kind_of_mem_asked, ?_, ?_⟩
  · rintro r' hkinds (hasked | hrequired | hsupported)
    · exact outcome_congr hkinds hasked
    · exact outcome_congr hkinds fun f hf => hrequired f (kind_of_mem_asked hf)
    · exact outcome_congr_supported hkinds hsupported
  · intro f hf hsupports htemplate
    obtain ⟨fragment, hrequired, hlacks, hmissing⟩ :=
      exists_missing (ctx.withRenderer r) (kind_of_mem_asked hf) hsupports
    refine ⟨fragment, hrequired, hlacks, ?_⟩
    have htemplate' : ((ctx.withRenderer r).templates.slot pass).isSome = true := htemplate
    rw [outcome_of_missing hmissing, if_pos htemplate']

/-- Players of teams, the team of a player being a lookup. -/
def teamTables : List Table :=
  [{ name := "team", fields := [⟨"id", "int", none⟩], rows := [.ofList [("id", "1")]] },
    { name := "player"
      fields := [⟨"id", "int", none⟩, ⟨"team", "lookup", some "team"⟩]
      rows := [.ofList [("id", "7"), ("team", "1")]] }]

def teamContext : Context where
  dataset := { package := none, tables := teamTables }
  templates := {
    row := some ⟨⟨"Row.txt"⟩, "PROPERTY_LIST"⟩
    table := some ⟨⟨"Table.txt"⟩, "ROW_LIST"⟩ }
  renderer := FragmentPatterns.renderer {}
  types := .empty
  naming := .standard
  replacements := []
  package := ""

/-- A renderer without properties, with this text in their place. -/
def withoutProperties (text : String) : Renderer where
  supports kind := kind ≠ .classProperty
  render f := if f.kind = .classProperty then text else (f.argument .name) ++ (f.argument .value)

/-- The table pass has no use for properties and takes no notice of their text. The row pass asks for
one and is aborted. -/
theorem required_fragments_suffice_team :
    (withoutProperties "").SameKinds (withoutProperties "?") ∧
    (teamContext.withRenderer (withoutProperties "")).outcome .table =
      (teamContext.withRenderer (withoutProperties "?")).outcome .table ∧
    ((teamContext.withRenderer (withoutProperties "")).outcome .table).files.map (·.content) =
      ["// code generated list of all rows\nrow1TeamRow1",
        "// code generated list of all rows\nrow7PlayerRow7, 1"] ∧
    .classProperty "team" "TeamRow" ∈
      (teamContext.withRenderer (withoutProperties "")).asked .row ∧
    ∃ fragment ∈ PassKind.required .row, (withoutProperties "").supports fragment = false ∧
      (teamContext.withRenderer (withoutProperties "")).outcome .row =
        .aborted (.missingFragment .row fragment) := by
  have hkinds : (withoutProperties "").SameKinds (withoutProperties "?") := fun _ => rfl
  have hsupported : ∀ f : Fragment, (withoutProperties "").supports f.kind = true →
      (withoutProperties "").render f = (withoutProperties "?").render f := by
    intro f hf
    have hkind : f.kind ≠ .classProperty := of_decide_eq_true hf
    simp [withoutProperties, hkind]
  have hasked : .classProperty "team" "TeamRow" ∈
      (teamContext.withRenderer (withoutProperties "")).asked .row := by decide +kernel
  obtain ⟨-, hsame, -⟩ := required_fragments_suffice teamContext .table (withoutProperties "")
  obtain ⟨-, -, haborts⟩ := required_fragments_suffice teamContext .row (withoutProperties "")
  exact ⟨hkinds, hsame _ hkinds (Or.inr (Or.inr hsupported)), by decide +kernel, hasked,
    haborts _ hasked rfl rfl⟩

end Context

end TableForge
