import Mathlib.Data.List.Nodup
import TableForge.Dataset.Validation
import TableForge.Generation.Pass.RowClass

/-!
# Well-formed datasets

A dataset is well-formed when its tables have different names and its fields have a target exactly
if they are lookups, the target being one of those names. This is what checking a dataset comes to,
so every accepted dataset is well-formed. In particular each of its fields has a role in a row
class, and the row pass has nothing to stop for but a missing fragment.
-/
namespace TableForge

/-- A field that refers to one of the named tables, or to nothing. -/
structure Field.Targeted (names : List String) (f : Field) : Prop where
  /-- A lookup field has a target, which is one of the names. -/
  target : f.isLookup = true → ∃ target ∈ names, f.lookup = some target
  /-- Any other field has none. -/
  untargeted : f.isLookup = false → f.lookup = none

structure Dataset.WellFormed (d : Dataset) : Prop where
  names_nodup : d.tableNames.Nodup
  targeted : ∀ table ∈ d.tables, ∀ f ∈ table.fields, f.Targeted d.tableNames

namespace Dataset

/-- No name comes up twice exactly if the names differ among themselves and from those seen. -/
theorem firstRepeat?_eq_none_iff {seen names : List String} :
    firstRepeat? seen names = none ↔ names.Nodup ∧ ∀ name ∈ names, name ∉ seen := by
  induction names generalizing seen with
  | nil => simp [firstRepeat?]
  | cons name rest ih =>
    by_cases h : name ∈ seen
    · simp [firstRepeat?, h]
    · simp only [firstRepeat?, if_neg h, ih, List.nodup_cons, List.mem_cons, not_or,
        forall_eq_or_imp]
      constructor
      · rintro ⟨hrest, hseen⟩
        exact ⟨⟨fun hmem => (hseen name hmem).1 rfl, hrest⟩, h, fun x hx => (hseen x hx).2⟩
      · rintro ⟨⟨hnot, hrest⟩, -, hseen⟩
        exact ⟨hrest, fun x hx => ⟨fun hxn => hnot (hxn ▸ hx), hseen x hx⟩⟩

theorem fieldFault?_eq_none_iff {source : Source} {names : List String} {table : String}
    {f : Field} : fieldFault? source names table f = none ↔ f.Targeted names := by
  cases hl : f.isLookup with
  | true =>
    cases ht : f.lookup with
    | none =>
      have hno : ¬ f.Targeted names := fun h => by simpa [ht] using h.target hl
      simp [fieldFault?, hl, ht, hno]
    | some target =>
      have hiff : f.Targeted names ↔ target ∈ names := by
        constructor
        · intro h
          obtain ⟨other, hmem, hother⟩ := h.target hl
          rw [ht] at hother
          exact Option.some.inj hother ▸ hmem
        · intro h
          exact ⟨fun _ => ⟨target, h, ht⟩, fun h => by simp [hl] at h⟩
      simp [fieldFault?, hl, ht, hiff]
  | false =>
    have hiff : f.Targeted names ↔ f.lookup = none :=
      ⟨fun h => h.untargeted hl, fun h => ⟨fun h => by simp [hl] at h, fun _ => h⟩⟩
    cases ht : f.lookup <;> simp [fieldFault?, hl, ht, hiff]

/-- A dataset has no fault exactly if it is well-formed, whatever text faults are looked for in. -/
theorem fault?_eq_none_iff {source : Source} {d : Dataset} :
    fault? source d = none ↔ d.WellFormed := by
  have htargets : (d.tables.findSome? fun table =>
      table.fields.findSome? (fieldFault? source d.tableNames table.name)) = none ↔
      ∀ table ∈ d.tables, ∀ f ∈ table.fields, f.Targeted d.tableNames := by
    simp only [List.findSome?_eq_none_iff, fieldFault?_eq_none_iff]
  cases hr : firstRepeat? [] d.tableNames with
  | some name =>
    have hno : ¬ d.WellFormed := fun h => by
      rw [firstRepeat?_eq_none_iff.mpr ⟨h.names_nodup, by simp⟩] at hr
      cases hr
    simp [fault?, hr, hno]
  | none =>
    have hnodup := (firstRepeat?_eq_none_iff.mp hr).1
    simp only [fault?, hr, htargets]
    exact ⟨fun h => ⟨hnodup, h⟩, WellFormed.targeted⟩

theorem wellFormed_of_ofSource {source : Source} {d : Dataset} (h : ofSource source = .ok d) :
    d.WellFormed := by
  cases hd : Draft.ofText? source.text with
  | none => simp [ofSource, hd] at h
  | some draft =>
    simp only [ofSource, hd, ofDraft] at h
    split at h
    · cases h
    · split at h
      · cases h
      · next hf =>
        cases h
        exact fault?_eq_none_iff.mp hf

end Dataset

/-- Whether the lookup fields of a table have targets. -/
def Table.HasTargets (table : Table) : Prop :=
  ∀ f ∈ table.fields, f.isLookup = true → f.lookup.isSome = true

instance (table : Table) : Decidable table.HasTargets :=
  inferInstanceAs (Decidable (∀ f ∈ table.fields, f.isLookup = true → f.lookup.isSome = true))

/-- Whether the lookup fields of all tables have targets. -/
def Dataset.HasTargets (d : Dataset) : Prop := ∀ table ∈ d.tables, table.HasTargets

instance (d : Dataset) : Decidable d.HasTargets :=
  inferInstanceAs (Decidable (∀ table ∈ d.tables, table.HasTargets))

theorem Dataset.WellFormed.hasTargets {d : Dataset} (h : d.WellFormed) :
    ∀ table ∈ d.tables, table.HasTargets := by
  intro table ht f hf hl
  obtain ⟨target, -, hlookup⟩ := (h.targeted table ht f hf).target hl
  rw [hlookup]
  rfl

namespace RowClass

/-- A field has a role unless it is a lookup field without a target. -/
theorem role?_isSome_iff {f : Field} :
    (role? f).isSome = true ↔ (f.isLookup = true → f.lookup.isSome = true) := by
  cases hl : f.isLookup with
  | true => simp [role?, hl]
  | false => by_cases hid : f.name = reservedName <;> simp [role?, hl, hid]

theorem missingTarget?_of_hasTargets {tables : List Table}
    (h : ∀ table ∈ tables, table.HasTargets) : missingTarget? tables = none := by
  simp only [missingTarget?, List.findSome?_eq_none_iff, Option.map_eq_none_iff, List.find?_eq_none]
  intro table ht f hf
  have hrole := role?_isSome_iff.mpr (h table ht f hf)
  simp [Option.isNone_eq_false_iff.mpr hrole]

theorem missingTarget?_of_wellFormed {d : Dataset} (h : d.WellFormed) :
    missingTarget? d.tables = none :=
  missingTarget?_of_hasTargets h.hasTargets

end RowClass

end TableForge
