import Mathlib.Data.List.Basic
import TableForge.Dataset.Basic

/-!
# Cells under two spellings

A cell is read by the name of its column: the column of exactly this name if there is one, else the
first whose name is the same up to case. Two spellings of a name have the same first column to fall
back on, so they can only be told apart by a column that has one of them exactly. They read different
cells in three ways, which are the constructors of `Row.ReadsApart`.
-/
namespace TableForge

theorem sameUpToCase_iff {a b : String} :
    sameUpToCase a b = true ↔ a.toList.map Char.toLower = b.toList.map Char.toLower :=
  decide_eq_true_iff

namespace Row

variable {r : Row} {a b column cell : String}

/-- The first column whose name is the given one up to case, with its cell. -/
def firstSpelling? (r : Row) (column : String) : Option (String × String) :=
  r.cells.entries.find? fun e => sameUpToCase e.1 column

/-- The ways in which a row has different cells for two spellings of a column. -/
inductive ReadsApart (r : Row) (a b : String) : Prop
  /-- Both spellings are columns of their own. -/
  | both {x y : String} (left : r.cells.get? a = some x) (right : r.cells.get? b = some y)
      (differ : x ≠ y)
  /-- Only the first spelling is a column, and the second falls back on another one. -/
  | left {x : String} {first : String × String} (left : r.cells.get? a = some x)
      (right : r.cells.get? b = none) (fallback : r.firstSpelling? b = some first)
      (differ : x ≠ first.2)
  /-- Only the second spelling is a column, and the first falls back on another one. -/
  | right {y : String} {first : String × String} (left : r.cells.get? a = none)
      (right : r.cells.get? b = some y) (fallback : r.firstSpelling? a = some first)
      (differ : first.2 ≠ y)

theorem get_of_exact (h : r.cells.get? column = some cell) : r.get column = cell := by
  simp only [get, h]

theorem get_of_firstSpelling? {first : String × String} (h : r.cells.get? column = none)
    (hfirst : r.firstSpelling? column = some first) : r.get column = first.2 := by
  rw [firstSpelling?] at hfirst
  simp only [get, h, hfirst]

/-- Spellings of one name fall back on the same column. -/
theorem firstSpelling?_congr (h : sameUpToCase a b = true) :
    r.firstSpelling? a = r.firstSpelling? b := by
  have hsame := sameUpToCase_iff.mp h
  simp only [firstSpelling?, sameUpToCase, hsame]

/-- A column is a spelling of itself. -/
theorem exists_firstSpelling? (h : r.cells.get? column = some cell) :
    ∃ first, r.firstSpelling? column = some first := by
  obtain ⟨before, after, hentries, -⟩ := List.lookup_eq_some_iff.mp h
  apply Option.isSome_iff_exists.mp
  rw [firstSpelling?, List.find?_isSome]
  exact ⟨(column, cell), by simp [hentries], sameUpToCase_iff.mpr rfl⟩

theorem get_eq_of_no_exact (h : sameUpToCase a b = true) (ha : r.cells.get? a = none)
    (hb : r.cells.get? b = none) : r.get a = r.get b := by
  have hfirst : r.firstSpelling? a = r.firstSpelling? b := firstSpelling?_congr h
  rw [firstSpelling?, firstSpelling?] at hfirst
  simp only [get, ha, hb, hfirst]

/-- Two spellings of a column read different cells in no other way than these. -/
theorem get_ne_get_iff (h : sameUpToCase a b = true) : r.get a ≠ r.get b ↔ r.ReadsApart a b := by
  have hfirst : r.firstSpelling? a = r.firstSpelling? b := firstSpelling?_congr h
  constructor
  · intro hne
    cases ha : r.cells.get? a with
    | none =>
      cases hb : r.cells.get? b with
      | none => exact absurd (get_eq_of_no_exact h ha hb) hne
      | some y =>
        obtain ⟨first, hspelling⟩ := exists_firstSpelling? hb
        rw [← hfirst] at hspelling
        rw [get_of_firstSpelling? ha hspelling, get_of_exact hb] at hne
        exact .right ha hb hspelling hne
    | some x =>
      rw [get_of_exact ha] at hne
      cases hb : r.cells.get? b with
      | none =>
        obtain ⟨first, hspelling⟩ := exists_firstSpelling? ha
        rw [hfirst] at hspelling
        rw [get_of_firstSpelling? hb hspelling] at hne
        exact .left ha hb hspelling hne
      | some y =>
        rw [get_of_exact hb] at hne
        exact .both ha hb hne
  · intro hapart
    cases hapart with
    | both ha hb differ => rwa [get_of_exact ha, get_of_exact hb]
    | left ha hb fallback differ => rwa [get_of_exact ha, get_of_firstSpelling? hb fallback]
    | right ha hb fallback differ => rwa [get_of_firstSpelling? ha fallback, get_of_exact hb]

end Row

end TableForge
