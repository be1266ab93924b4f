import TableForge.Generation.Generator
import TableForge.Proofs.Dataset.WellFormed

/-!
# How each pass ends

A pass looks for three things, one after the other: its template, the fragments that it needs, and,
in the row pass, the targets of lookup fields. The first that it does not find decides how it ends,
and of the things it looks for the first that is missing is named. A pass that finds everything
renders as many files as it has tables, the database pass a single one. The package pass looks for
nothing.
-/
namespace TableForge

/-- Whether a field is a lookup without a target. -/
def Field.Dangling (f : Field) : Prop := f.isLookup = true ∧ f.lookup = none

theorem Field.not_dangling_iff {f : Field} :
    ¬ f.Dangling ↔ (f.isLookup = true → f.lookup.isSome = true) := by
  rw [Dangling, not_and, Option.isSome_iff_ne_none]

namespace RowClass

theorem role?_isNone_iff {f : Field} : (role? f).isNone = true ↔ f.Dangling := by
  rw [← not_iff_not, Field.not_dangling_iff, ← role?_isSome_iff, Option.isSome_iff_ne_none,
    Option.isNone_iff_eq_none]

theorem find?_dangling_eq_none_iff {table : Table} :
    (table.fields.find? fun f => (role? f).isNone) = none ↔ table.HasTargets := by
  simp only [List.find?_eq_none, role?_isNone_iff, Field.not_dangling_iff]
  rfl

theorem find?_dangling_eq_some_iff {table : Table} {f : Field} :
    (table.fields.find? fun f => (role? f).isNone) = some f ↔
      f.Dangling ∧ ∃ front rest, table.fields = front ++ f :: rest ∧
        ∀ g ∈ front, ¬ g.Dangling := by
  have hnot (g : Field) : (!(role? g).isNone) = true ↔ ¬ g.Dangling := by
    rw [Bool.not_eq_true', ← Bool.not_eq_true, role?_isNone_iff]
  simp only [List.find?_eq_some_iff_append, role?_isNone_iff, hnot]

theorem missingTarget?_eq_none_iff {d : Dataset} :
    missingTarget? d.tables = none ↔ d.HasTargets := by
  simp only [missingTarget?, List.findSome?_eq_none_iff, Option.map_eq_none_iff,
    find?_dangling_eq_none_iff]
  rfl

/-- The pass stops at the first dangling field of the first table that has any. -/
theorem missingTarget?_eq_some_iff {tables : List Table} {name field : String} :
    missingTarget? tables = some (name, field) ↔
      ∃ before table after front f rest, tables = before ++ table :: after ∧
        (∀ other ∈ before, other.HasTargets) ∧ table.fields = front ++ f :: rest ∧
        (∀ g ∈ front, ¬ g.Dangling) ∧ f.Dangling ∧ table.name = name ∧ f.name = field := by
  simp only [missingTarget?, List.findSome?_eq_some_iff, Option.map_eq_some_iff,
    Option.map_eq_none_iff, find?_dangling_eq_none_iff, find?_dangling_eq_some_iff]
  constructor
  · rintro ⟨before, table, after, htables, ⟨f, ⟨hf, front, rest, hfields, hfront⟩, he⟩, hbefore⟩
    obtain ⟨hname, hfield⟩ := Prod.mk.inj he
    exact ⟨before, table, after, front, f, rest, htables, hbefore, hfields, hfront, hf, hname,
      hfield⟩
  · rintro ⟨before, table, after, front, f, rest, htables, hbefore, hfields, hfront, hf, hname,
      hfield⟩
    exact ⟨before, table, after, htables, ⟨f, ⟨hf, front, rest, hfields, hfront⟩,
      Prod.ext hname hfield⟩, hbefore⟩

end RowClass

namespace Context

/-- Whether a pass has a template and all fragments that it needs. -/
structure Equipped (ctx : Context) (pass : PassKind) : Prop where
  template : (ctx.templates.slot pass).isSome = true
  fragments : ∀ kind ∈ pass.required, ctx.renderer.supports kind = true

/-- The number of files of a pass that renders. -/
def fileCount (ctx : Context) : PassKind → Nat
  | .database => 1
  | .package => ctx.templates.packageFiles.length
  | _ => ctx.dataset.tables.length

/-- How a pass ends, told by what it finds. -/
inductive Ends (ctx : Context) : PassKind → PassStatus → Prop
  | skipped {pass : PassKind} (hpass : pass ≠ .package) (hslot : ctx.templates.slot pass = none) :
    Ends ctx pass .skipped
  | missingFragment {pass : PassKind} {before after : List FragmentKind} {fragment : FragmentKind}
    (htemplate : (ctx.templates.slot pass).isSome = true)
    (hrequired : pass.required = before ++ fragment :: after)
    (hbefore : ∀ kind ∈ before, ctx.renderer.supports kind = true)
    (hfragment : ctx.renderer.supports fragment = false) :
    Ends ctx pass (.aborted (.missingFragment pass fragment))
  | missingTarget {before after : List Table} {table : Table} {front rest : List Field} {f : Field}
    (hequipped : ctx.Equipped .row) (htables : ctx.dataset.tables = before ++ table :: after)
    (hbefore : ∀ other ∈ before, other.HasTargets) (hfields : table.fields = front ++ f :: rest)
    (hfront : ∀ g ∈ front, ¬ g.Dangling) (hf : f.Dangling) :
    Ends ctx .row (.aborted (.missingLookupTarget .row table.name f.name))
  | rendered {pass : PassKind} (hequipped : ctx.Equipped pass)
    (htargets : pass = .row → ctx.dataset.HasTargets) :
    Ends ctx pass (.completed (ctx.fileCount pass))
  | copied : Ends ctx .package (.completed (ctx.fileCount .package))

variable {ctx : Context} {pass : PassKind} {status : PassStatus}

theorem missingFragment?_eq_some_iff {fragment : FragmentKind} :
    ctx.missingFragment? pass = some fragment ↔
      ctx.renderer.supports fragment = false ∧
        ∃ before after, pass.required = before ++ fragment :: after ∧
          ∀ kind ∈ before, ctx.renderer.supports kind = true := by
  simp only [missingFragment?, List.find?_eq_some_iff_append, Bool.not_eq_true', Bool.not_not]

theorem missingFragment?_eq_none_iff :
    ctx.missingFragment? pass = none ↔
      ∀ kind ∈ pass.required, ctx.renderer.supports kind = true := by
  simp [missingFragment?, List.find?_eq_none]

/-- How a pass ends that is equipped: the row pass may still miss a target. -/
def equippedStatus (ctx : Context) : PassKind → PassStatus
  | .row =>
    match RowClass.missingTarget? ctx.dataset.tables with
    | some (table, field) => .aborted (.missingLookupTarget .row table field)
    | none => .completed (ctx.fileCount .row)
  | pass => .completed (ctx.fileCount pass)

theorem equippedStatus_of_ne_row (hpass : pass ≠ .row) :
    ctx.equippedStatus pass = .completed (ctx.fileCount pass) := by
  cases pass with
  | row => exact absurd rfl hpass
  | enumeration => rfl
  | table => rfl
  | database => rfl
  | package => rfl

theorem status_withTemplate {render : TemplateFile → PassOutcome}
    (hrender : ∀ template, (render template).status = ctx.equippedStatus pass) :
    (ctx.withTemplate pass render).status =
      if (ctx.templates.slot pass).isSome then
        match ctx.missingFragment? pass with
        | some fragment => .aborted (.missingFragment pass fragment)
        | none => ctx.equippedStatus pass
      else .skipped := by
  unfold withTemplate
  cases ctx.templates.slot pass with
  | none => rfl
  | some template =>
    cases ctx.missingFragment? pass with
    | some fragment => rfl
    | none => exact hrender template

theorem status_rendered_map (file : Table → GeneratedFile) :
    (PassOutcome.rendered (ctx.dataset.tables.map file)).status =
      .completed ctx.dataset.tables.length := by
  rw [PassOutcome.status, List.length_map]

/-- A pass looks for its template first, then for its fragments, and for targets last. -/
theorem status_outcome (hpass : pass ≠ .package) :
    (ctx.outcome pass).status =
      if (ctx.templates.slot pass).isSome then
        match ctx.missingFragment? pass with
        | some fragment => .aborted (.missingFragment pass fragment)
        | none => ctx.equippedStatus pass
      else .skipped := by
  cases pass with
  | package => exact absurd rfl hpass
  | enumeration => exact status_withTemplate fun template => status_rendered_map _
  | table => exact status_withTemplate fun template => status_rendered_map _
  | database => exact status_withTemplate fun template => rfl
  | row =>
    refine status_withTemplate fun template => ?_
    unfold equippedStatus
    cases RowClass.missingTarget? ctx.dataset.tables with
    | none => exact status_rendered_map _
    | some found => rfl

theorem ne_package_of_isSome (h : (ctx.templates.slot pass).isSome = true) : pass ≠ .package := by
  rintro rfl
  cases h

theorem Equipped.status_outcome (h : ctx.Equipped pass) :
    (ctx.outcome pass).status = ctx.equippedStatus pass := by
  rw [Context.status_outcome (ne_package_of_isSome h.template), if_pos h.template,
    missingFragment?_eq_none_iff.mpr h.fragments]

theorem status_package (ctx : Context) :
    (ctx.outcome .package).status = .completed (ctx.fileCount .package) := by
  rw [outcome, PassOutcome.status, List.length_map]
  rfl

theorem Ends.status_outcome (h : ctx.Ends pass status) : (ctx.outcome pass).status = status := by
  cases h with
  | skipped hpass hslot =>
    rw [Context.status_outcome hpass, hslot]
    rfl
  | missingFragment htemplate hrequired hbefore hfragment =>
    have hmissing := missingFragment?_eq_some_iff.mpr ⟨hfragment, _, _, hrequired, hbefore⟩
    rw [Context.status_outcome (ne_package_of_isSome htemplate), if_pos htemplate, hmissing]
  | missingTarget hequipped htables hbefore hfields hfront hf =>
    have hmissing := RowClass.missingTarget?_eq_some_iff.mpr
      ⟨_, _, _, _, _, _, htables, hbefore, hfields, hfront, hf, rfl, rfl⟩
    rw [hequipped.status_outcome]
    simp only [equippedStatus, hmissing]
  | rendered hequipped htargets =>
    rw [hequipped.status_outcome]
    by_cases hpass : pass = .row
    · subst hpass
      simp only [equippedStatus, RowClass.missingTarget?_eq_none_iff.mpr (htargets rfl)]
    · exact equippedStatus_of_ne_row hpass
  | copied => exact status_package ctx

theorem Equipped.ends (h : ctx.Equipped pass) : ctx.Ends pass (ctx.equippedStatus pass) := by
  by_cases hpass : pass = .row
  · subst hpass
    cases hmissing : RowClass.missingTarget? ctx.dataset.tables with
    | some found =>
      obtain ⟨table, field⟩ := found
      simp only [equippedStatus, hmissing]
      obtain ⟨before, table, after, front, f, rest, htables, hbefore, hfields, hfront, hf, rfl,
        rfl⟩ := RowClass.missingTarget?_eq_some_iff.mp hmissing
      exact .missingTarget h htables hbefore hfields hfront hf
    | none =>
      simp only [equippedStatus, hmissing]
      exact .rendered h fun _ => RowClass.missingTarget?_eq_none_iff.mp hmissing
  · rw [equippedStatus_of_ne_row hpass]
    exact .rendered h fun hrow => absurd hrow hpass

/-- Every pass ends in exactly one of these ways. -/
theorem ends_iff : ctx.Ends pass status ↔ (ctx.outcome pass).status = status := by
  constructor
  · exact Ends.status_outcome
  · rintro rfl
    by_cases hpass : pass = .package
    · rw [hpass, status_package]
      exact .copied
    · rw [status_outcome hpass]
      split
      · next htemplate =>
        split
        · next fragment hmissing =>
          obtain ⟨hfragment, before, after, hrequired, hbefore⟩ :=
            missingFragment?_eq_some_iff.mp hmissing
          exact .missingFragment htemplate hrequired hbefore hfragment
        · next hmissing =>
          exact Equipped.ends ⟨htemplate, missingFragment?_eq_none_iff.mp hmissing⟩
      · next htemplate =>
        exact .skipped hpass (Option.not_isSome_iff_eq_none.mp htemplate)

end Context

end TableForge
