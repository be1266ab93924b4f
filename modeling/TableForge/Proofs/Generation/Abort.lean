import TableForge.Check.Lint
import TableForge.Proofs.Dataset.WellFormed
import TableForge.Template.Package

/-!
# When a pass is aborted

Over a well-formed dataset a pass is aborted exactly if it has a template and a fragment that it
needs is missing, and then for the first such fragment. The pass reports of a run show this pass by
pass.
-/
namespace TableForge

namespace Context

variable {ctx : Context} {pass : PassKind}

/-- A pass whose rendering never stops is aborted for its first missing fragment only. -/
theorem withTemplate_eq_aborted_iff {render : TemplateFile → PassOutcome} {error : PassError}
    (hrender : ∀ template, render template ≠ .aborted error) :
    ctx.withTemplate pass render = .aborted error ↔
      (ctx.templates.slot pass).isSome = true ∧
        ∃ fragment, ctx.missingFragment? pass = some fragment ∧
          error = .missingFragment pass fragment := by
  unfold withTemplate
  cases ctx.templates.slot pass with
  | none => simp
  | some template =>
    cases ctx.missingFragment? pass with
    | none => simpa using hrender template
    | some fragment =>
      simp only [PassOutcome.aborted.injEq, Option.isSome_some, Option.some.injEq, true_and,
        exists_eq_left']
      exact eq_comm

theorem outcome_eq_aborted_iff_missingFragment? {error : PassError} (h : ctx.dataset.WellFormed) :
    ctx.outcome pass = .aborted error ↔
      (ctx.templates.slot pass).isSome = true ∧
        ∃ fragment, ctx.missingFragment? pass = some fragment ∧
          error = .missingFragment pass fragment := by
  cases pass with
  | enumeration => exact withTemplate_eq_aborted_iff (by simp)
  | row =>
    have hmissing := RowClass.missingTarget?_of_wellFormed h
    exact withTemplate_eq_aborted_iff fun template => by simp [hmissing]
  | table => exact withTemplate_eq_aborted_iff (by simp)
  | database => exact withTemplate_eq_aborted_iff (by simp)
  | package => simp [outcome, TemplateSet.slot]

end Context

namespace Generator

/-- What a lint lists first as missing is what the pass finds missing. -/
theorem head?_missingFragments (g : Generator) (pass : PassKind) :
    (Lint.missingFragments g.checkInput pass).head? =
      if (g.templates.slot pass).isSome then g.context.missingFragment? pass else none := by
  unfold Lint.missingFragments
  split
  · next h =>
    have hslot : (g.templates.slot pass).isSome = true := h
    rw [if_pos hslot, List.head?_filter]
    rfl
  · next h =>
    have hslot : ¬ (g.templates.slot pass).isSome = true := h
    rw [if_neg hslot]
    rfl

theorem outcome_eq_aborted_iff {g : Generator} (h : g.dataset.WellFormed) (pass : PassKind)
    (error : PassError) :
    g.context.outcome pass = .aborted error ↔
      ∃ fragment, (Lint.missingFragments g.checkInput pass).head? = some fragment ∧
        error = .missingFragment pass fragment := by
  have hcontext : g.context.dataset.WellFormed := h
  rw [Context.outcome_eq_aborted_iff_missingFragment? hcontext, head?_missingFragments]
  have hslot : g.context.templates.slot pass = g.templates.slot pass := rfl
  rw [hslot]
  by_cases hs : (g.templates.slot pass).isSome = true <;> simp [hs]

/-- There is one report for every pass. -/
theorem mem_passReports_iff {g : Generator} {r : PassReport} :
    r ∈ g.passReports ↔ r.status = (g.context.outcome r.pass).status := by
  simp only [passReports, outcomes, Context.outcomes, List.map_map, List.mem_map]
  constructor
  · rintro ⟨pass, -, rfl⟩
    rfl
  · intro h
    exact ⟨r.pass, r.pass.mem_all, by rw [Function.comp_apply, ← h]⟩

theorem aborted_mem_passReports_iff {g : Generator} {pass : PassKind} {error : PassError} :
    ⟨pass, .aborted error⟩ ∈ g.passReports ↔ g.context.outcome pass = .aborted error := by
  rw [mem_passReports_iff]
  cases g.context.outcome pass with
  | skipped => simp [PassOutcome.status]
  | aborted other => simp [PassOutcome.status, eq_comm]
  | rendered files => simp [PassOutcome.status]

end Generator

end TableForge
