import TableForge.Proofs.Generation.PassEnding
import TableForge.Template.Package

/-!
# The template of a pass

A set of templates has a field for every pass. What a pass renders is made from the template in its
own field and is there only if that field is filled and nothing else is missing; the other fields
have no part in it. The lints do not ask the passes but look a template up by the kind of the pass,
and find one exactly for the passes that are not skipped.
-/
namespace TableForge

namespace Context

variable {ctx : Context} {pass : PassKind} {render : TemplateFile → PassOutcome}

theorem withTemplate_eq_rendered_iff {files : List GeneratedFile} :
    ctx.withTemplate pass render = .rendered files ↔
      ∃ template, ctx.templates.slot pass = some template ∧
        (∀ kind ∈ pass.required, ctx.renderer.supports kind = true) ∧
          render template = .rendered files := by
  rw [← missingFragment?_eq_none_iff]
  unfold withTemplate
  cases ctx.templates.slot pass with
  | none => simp
  | some template => cases ctx.missingFragment? pass <;> simp

theorem withTemplate_eq_skipped_iff (hrender : ∀ template, render template ≠ .skipped) :
    ctx.withTemplate pass render = .skipped ↔ ctx.templates.slot pass = none := by
  unfold withTemplate
  cases ctx.templates.slot pass with
  | none => simp
  | some template => cases ctx.missingFragment? pass <;> simp [hrender]

end Context

/-! ## Rendering -/

variable {ctx : Context} {files : List GeneratedFile}

theorem Enumeration.outcome_eq_rendered_iff :
    Enumeration.outcome ctx = .rendered files ↔
      ∃ template, ctx.templates.enumeration = some template ∧
        (∀ kind ∈ PassKind.enumeration.required, ctx.renderer.supports kind = true) ∧
          ctx.dataset.tables.map (file ctx template) = files := by
  simp only [outcome, Context.withTemplate_eq_rendered_iff, PassOutcome.rendered.injEq]
  rfl

/-- Of the passes only this one can find something missing in the tables. -/
theorem RowClass.outcome_eq_rendered_iff :
    RowClass.outcome ctx = .rendered files ↔
      ∃ template, ctx.templates.row = some template ∧
        (∀ kind ∈ PassKind.row.required, ctx.renderer.supports kind = true) ∧
          ctx.dataset.HasTargets ∧
            (ctx.dataset.tables.map fun table : Table =>
              file ctx template table.name (members table)) = files := by
  cases hmissing : missingTarget? ctx.dataset.tables with
  | some missing =>
    have htargets : ¬ ctx.dataset.HasTargets := by
      rw [← missingTarget?_eq_none_iff, hmissing]
      exact Option.some_ne_none missing
    simp [outcome, hmissing, Context.withTemplate_eq_rendered_iff, htargets]
  | none =>
    have htargets := missingTarget?_eq_none_iff.mp hmissing
    simp only [outcome, hmissing, Context.withTemplate_eq_rendered_iff,
      PassOutcome.rendered.injEq, htargets, true_and]
    rfl

theorem TableClass.outcome_eq_rendered_iff :
    TableClass.outcome ctx = .rendered files ↔
      ∃ template, ctx.templates.table = some template ∧
        (∀ kind ∈ PassKind.table.required, ctx.renderer.supports kind = true) ∧
          ctx.dataset.tables.map (file ctx template) = files := by
  simp only [outcome, Context.withTemplate_eq_rendered_iff, PassOutcome.rendered.injEq]
  rfl

theorem Database.outcome_eq_rendered_iff :
    Database.outcome ctx = .rendered files ↔
      ∃ template, ctx.templates.database = some template ∧
        (∀ kind ∈ PassKind.database.required, ctx.renderer.supports kind = true) ∧
          [file ctx template] = files := by
  simp only [outcome, Context.withTemplate_eq_rendered_iff, PassOutcome.rendered.injEq]
  rfl

/-! ## Skipping -/

namespace Context

/-- **A pass is skipped exactly when its own field is empty.** -/
theorem outcome_eq_skipped_iff (ctx : Context) :
    (ctx.outcome .enumeration = .skipped ↔ ctx.templates.enumeration = none) ∧
    (ctx.outcome .row = .skipped ↔ ctx.templates.row = none) ∧
    (ctx.outcome .table = .skipped ↔ ctx.templates.table = none) ∧
    (ctx.outcome .database = .skipped ↔ ctx.templates.database = none) ∧
    ctx.outcome .package ≠ .skipped := by
  refine ⟨?_, ?_, ?_, ?_, ?_⟩
  · exact withTemplate_eq_skipped_iff fun template => by simp
  · exact withTemplate_eq_skipped_iff fun template => by
      cases RowClass.missingTarget? ctx.dataset.tables <;> simp
  · exact withTemplate_eq_skipped_iff fun template => by simp
  · exact withTemplate_eq_skipped_iff fun template => by simp
  · simp [outcome]

end Context

/-- The lints find a template for the passes that are not skipped. -/
theorem Generator.isSome_slot_iff (g : Generator) {pass : PassKind} (hpass : pass ≠ .package) :
    (g.checkInput.templates.slot pass).isSome = true ↔ g.context.outcome pass ≠ .skipped := by
  rw [Option.isSome_iff_ne_none, not_iff_not]
  obtain ⟨henumeration, hrow, htable, hdatabase, -⟩ := g.context.outcome_eq_skipped_iff
  cases pass with
  | enumeration => exact henumeration.symm
  | row => exact hrow.symm
  | table => exact htable.symm
  | database => exact hdatabase.symm
  | package => exact absurd rfl hpass

end TableForge
