import TableForge.Proofs.Generation.Destination
import TableForge.Proofs.Text.Stretches

/-!
# Placeholders in any order

A pass puts its texts into a template one placeholder after another, and each replacement sees what
the earlier ones have put in; `CLASS_NAME` even stands inside `ROW_CLASS_NAME`. Over a template in
which placeholders stand apart from other uppercase words, and with texts that hold no placeholders
themselves, none of this shows: the file is the template with every placeholder exchanged for its
text in one step.
-/
namespace TableForge

/-- The placeholders of a pass, in the order in which they are replaced. -/
def PassKind.placeholders : PassKind → List Placeholder
  | .enumeration => [.packageString, .className, .variableList]
  | .row =>
    [.packageString, .className, .variableList, .propertyList, .classParamsString, .classParamsList]
  | .table => [.packageString, .rowClassName, .className, .tableName, .rowList]
  | .database => [.packageString, .variableList, .classList]
  | .package => [.packageString]

namespace Body

/-- The placeholders as character lists, each with what is put in for it. -/
def tokens (values : List (Placeholder × String)) : List (List Char × List Char) :=
  values.map fun (placeholder, value) => (placeholder.token.toList, value.toList)

/-- The body with every stretch that is a placeholder exchanged for its text, all in one step. -/
def fillAtOnce (values : List (Placeholder × String)) (body : String) : String :=
  String.ofList (Text.replaceStretches (tokens values) body.toList)

/-- Every maximal run of uppercase letters and underscores is one of the placeholders or contains
none of them. -/
def WellDelimited (placeholders : List Placeholder) (body : String) : Prop :=
  Text.WellDelimited (placeholders.map fun p => p.token.toList) body.toList

/-- A placeholder is a run of its own somewhere in a body. -/
def StandsIn (placeholder : Placeholder) (body : String) : Prop :=
  placeholder.token.toList ∈ Text.stretches body.toList

/-- A text contains the characters of a placeholder. -/
def Mentions (text : String) (placeholder : Placeholder) : Prop :=
  placeholder.token.toList <:+: text.toList

instance (placeholders : List Placeholder) (body : String) :
    Decidable (WellDelimited placeholders body) :=
  inferInstanceAs (Decidable (∀ stretch ∈ Text.stretches body.toList, _ → _))

instance (placeholder : Placeholder) (body : String) : Decidable (StandsIn placeholder body) :=
  inferInstanceAs (Decidable (_ ∈ _))

instance (text : String) (placeholder : Placeholder) : Decidable (Mentions text placeholder) :=
  inferInstanceAs (Decidable (_ <:+: _))

theorem isToken_token (p : Placeholder) : Text.IsToken p.token.toList := by
  have hall : p.token.toList ≠ [] ∧ p.token.toList.all Text.isTokenChar = true := by
    cases p <;> decide
  exact ⟨hall.1, List.all_eq_true.mp hall.2⟩

theorem toList_fill (values : List (Placeholder × String)) (body : String) :
    (fill values body).toList =
      (tokens values).foldl (fun text v => Text.replaceAll v.1 v.2 text) body.toList := by
  induction values generalizing body with
  | nil => rfl
  | cons v values ih =>
    have hstep := ih (replace v.1.token v.2 body)
    rw [replace, String.toList_ofList] at hstep
    exact hstep

/-- Placeholders may be replaced in order, if none contains an earlier one. -/
theorem fill_eq_fillAtOnce {values : List (Placeholder × String)} {body : String}
    (horder : (values.map Prod.fst).Pairwise fun p q => ¬ Mentions q.token p)
    (hdelimited : WellDelimited (values.map Prod.fst) body)
    (hinserted : ∀ v ∈ values, StandsIn v.1 body → ∀ q ∈ values.map Prod.fst, ¬ Mentions v.2 q) :
    fill values body = fillAtOnce values body := by
  refine String.toList_injective ?_
  rw [toList_fill, fillAtOnce, String.toList_ofList]
  refine Text.foldl_replaceAll_eq_replaceStretches ?_ ?_ ?_ ?_
  · intro v hv
    obtain ⟨w, -, rfl⟩ := List.mem_map.mp hv
    exact isToken_token w.1
  · rw [tokens, List.pairwise_map]
    exact List.pairwise_map.mp horder
  · rw [tokens, List.map_map]
    rw [WellDelimited, List.map_map] at hdelimited
    exact hdelimited
  · intro v hv hstands w hw
    obtain ⟨v', hv', rfl⟩ := List.mem_map.mp hv
    obtain ⟨w', hw', rfl⟩ := List.mem_map.mp hw
    exact hinserted v' hv' hstands w'.1 (List.mem_map_of_mem hw')

end Body

namespace Context

variable {ctx : Context} {pass : PassKind} {template : TemplateFile} {table : Table}
  {f : GeneratedFile} {i : Nat}

/-- What a pass puts in for its placeholders. The texts of the enumeration, the row and the table
pass are those of a table. -/
def insertions (ctx : Context) : PassKind → Table → List (Placeholder × String)
  | .enumeration, table =>
    [(.packageString, ctx.package), (.className, ctx.enumClass table.name),
     (.variableList,
      ctx.block "// code generated list of all rows" (Enumeration.constants ctx table))]
  | .row, table =>
    let members := RowClass.members table
    [(.packageString, ctx.package), (.className, ctx.rowClass table.name),
     (.variableList,
      ctx.block "// code generated list of variables" (members.filterMap (·.declaration? ctx))),
     (.propertyList,
      ctx.block "// code generated list of properties" (members.filterMap (·.property? ctx))),
     (.classParamsString, Body.trimLineEnds (RowClass.parameterList ctx members)),
     (.classParamsList,
      ctx.block "// code generated list of params" (members.map (·.assignment ctx)))]
  | .table, table =>
    [(.packageString, ctx.package), (.rowClassName, ctx.rowClass table.name),
     (.className, ctx.tableClass table.name), (.tableName, table.name),
     (.rowList,
      ctx.block "// code generated list of all rows" (TableClass.declarations ctx table))]
  | .database, _ =>
    [(.packageString, ctx.package),
     (.variableList,
      ctx.block "// code generated list of all tables"
        (ctx.dataset.tables.map (Database.declaration ctx))),
     (.classList,
      ctx.block "// code generated list of all tables"
        (ctx.dataset.tables.map (Database.assignment ctx)))]
  | .package, _ => [(.packageString, ctx.package)]

theorem map_fst_insertions (ctx : Context) (pass : PassKind) (table : Table) :
    (ctx.insertions pass table).map Prod.fst = pass.placeholders := by
  cases pass <;> rfl

theorem placeholders_ordered (pass : PassKind) :
    pass.placeholders.Pairwise fun p q => ¬ Body.Mentions q.token p := by
  cases pass <;> decide +kernel

/-- The files of a pass are those that it renders from its template. -/
theorem mem_files_of_withTemplate {render : TemplateFile → PassOutcome}
    (hslot : ctx.templates.slot pass = some template)
    (hf : (ctx.withTemplate pass render).files[i]? = some f) :
    (render template).files[i]? = some f := by
  rcases files_withTemplate pass render with hnone | ⟨other, hother, hfiles⟩
  · rw [hnone] at hf
    cases hf
  · rw [hslot] at hother
    cases hother
    rw [← hfiles]
    exact hf

theorem eq_of_getElem?_map {file : Table → GeneratedFile} {tables : List Table}
    (htable : tables[i]? = some table) (hf : (tables.map file)[i]? = some f) : f = file table := by
  rw [List.getElem?_map, htable] at hf
  exact (Option.some.inj hf).symm

/-- A rendered file is its template filled in one placeholder after another. -/
theorem content_of_getElem?_files (hslot : ctx.templates.slot pass = some template)
    (hf : (ctx.outcome pass).files[i]? = some f)
    (htable : pass.ending?.isSome = true → ctx.dataset.tables[i]? = some table) :
    f.content = Body.fill (ctx.insertions pass table)
      (Body.applyVariables ctx.replacements template.contents) := by
  cases pass with
  | enumeration =>
    rw [eq_of_getElem?_map (htable rfl) (mem_files_of_withTemplate hslot hf)]
    rfl
  | row =>
    have hfiles := mem_files_of_withTemplate hslot hf
    split at hfiles
    · cases hfiles
    · rw [eq_of_getElem?_map (htable rfl) hfiles]
      rfl
  | table =>
    rw [eq_of_getElem?_map (htable rfl) (mem_files_of_withTemplate hslot hf)]
    rfl
  | database =>
    have hmem := List.mem_of_getElem? (mem_files_of_withTemplate hslot hf)
    rw [List.mem_singleton.mp hmem]
    rfl
  | package => cases hslot

/-- **Placeholders are replaced as if all at once.** Let a pass with a template of its own render a
file, which for the enumeration, the row and the table pass is that of the table at its place. If in
the template, with the variables in place, every run of uppercase letters and underscores is one of
the placeholders of the pass or contains none of them, and no text that is put in contains one
either, then the file is this template with each run that is a placeholder exchanged for its text and
everything else as it was. -/
theorem content_eq_fillAtOnce (hslot : ctx.templates.slot pass = some template)
    (hf : (ctx.outcome pass).files[i]? = some f)
    (htable : pass.ending?.isSome = true → ctx.dataset.tables[i]? = some table)
    (hdelimited : Body.WellDelimited pass.placeholders
      (Body.applyVariables ctx.replacements template.contents))
    (hinserted : ∀ v ∈ ctx.insertions pass table,
      Body.StandsIn v.1 (Body.applyVariables ctx.replacements template.contents) →
        ∀ placeholder ∈ pass.placeholders, ¬ Body.Mentions v.2 placeholder) :
    f.content = Body.fillAtOnce (ctx.insertions pass table)
      (Body.applyVariables ctx.replacements template.contents) := by
  rw [content_of_getElem?_files hslot hf htable]
  have hkinds := map_fst_insertions ctx pass table
  refine Body.fill_eq_fillAtOnce ?_ ?_ ?_
  · rw [hkinds]
    exact placeholders_ordered pass
  · rw [hkinds]
    exact hdelimited
  · rw [hkinds]
    exact hinserted

/-- A table template with an uppercase word of its own and the names of both classes. -/
def seasonTemplate : TemplateFile where
  fileName := ⟨"Table.cs"⟩
  contents := "CLASS_NAME : Of<ROW_CLASS_NAME>, MAX_ROWS\nROW_LIST"

def seasonTable : Table where
  name := "season"
  fields := [⟨"id", "int", none⟩]
  rows := [.ofList [("id", "1")]]

def seasonContext : Context where
  dataset := { package := none, tables := [seasonTable] }
  templates := { table := some seasonTemplate }
  renderer := FragmentPatterns.renderer {
    localVariable := some "\x7bname\x7d = \x7bvalue\x7d"
    newClassInstance := some "\x7bname\x7d(\x7bvalue\x7d)" }
  types := .empty
  naming := .standard
  replacements := []
  package := "net"

/-- `ROW_CLASS_NAME` is not damaged by the replacement of `CLASS_NAME`, and neither is `MAX_ROWS`. -/
theorem content_eq_fillAtOnce_season :
    Body.WellDelimited PassKind.table.placeholders seasonTemplate.contents ∧
    (∀ v ∈ seasonContext.insertions .table seasonTable,
      ∀ placeholder ∈ PassKind.table.placeholders, ¬ Body.Mentions v.2 placeholder) ∧
    ∃ f, (seasonContext.outcome .table).files[0]? = some f ∧
      f.content = "SeasonTable : Of<SeasonRow>, MAX_ROWS\n" ++
        "// code generated list of all rows\nrow1 = SeasonRow(1)" := by
  have hdelimited : Body.WellDelimited PassKind.table.placeholders seasonTemplate.contents := by
    decide +kernel
  have hinserted : ∀ v ∈ seasonContext.insertions .table seasonTable,
      ∀ placeholder ∈ PassKind.table.placeholders, ¬ Body.Mentions v.2 placeholder := by
    decide +kernel
  have hslot : seasonContext.templates.slot .table = some seasonTemplate := rfl
  have hfile : (seasonContext.outcome .table).files[0]? =
      some (TableClass.file seasonContext seasonTemplate seasonTable) := rfl
  refine ⟨hdelimited, hinserted, _, hfile, ?_⟩
  rw [content_eq_fillAtOnce hslot hfile (fun _ => rfl) hdelimited fun v hv _ => hinserted v hv]
  decide +kernel

end Context

end TableForge
