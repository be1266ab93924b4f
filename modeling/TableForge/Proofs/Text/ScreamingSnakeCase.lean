import Mathlib.Data.List.Basic
import TableForge.Text.Words

/-!
# Names that are spelled without a letter

A name in screaming snake case is made of the uppercase forms of its words. No word is empty and no
character loses its uppercase form, so the result is empty for the names without alphanumeric
characters and for no others.
-/
namespace TableForge.Text

theorem mapCase_ne_nil {expansions : List (Nat × List Nat)}
    (h : ∀ e ∈ expansions, e.2 ≠ []) (shifts : List (Nat × Nat × Nat × Nat)) (c : Char) :
    mapCase expansions shifts c ≠ [] := by
  unfold mapCase
  split
  · next image hl =>
    obtain ⟨before, after, htable, -⟩ := List.lookup_eq_some_iff.mp hl
    have himage := h (c.toNat, image) (by simp [htable])
    simpa using himage
  · split <;> exact List.cons_ne_nil _ _

theorem upperChar_ne_nil (c : Char) : upperChar c ≠ [] := by
  have htable : ∀ e ∈ uppercaseExpansions, e.2 ≠ [] := by decide +kernel
  unfold upperChar
  split
  · exact List.cons_ne_nil _ _
  · exact mapCase_ne_nil htable _ c

theorem upper_eq_nil_iff {text : List Char} : upper text = [] ↔ text = [] := by
  cases text with
  | nil => simp [upper]
  | cons c rest => simp [upper, upperChar_ne_nil]

theorem ne_nil_of_mem_cutAtBoundaries {run word : List Char} (h : word ∈ cutAtBoundaries run) :
    word ≠ [] := by
  fun_induction cutAtBoundaries run with
  | case1 => cases h
  | case2 c =>
    rw [List.mem_singleton.mp h]
    exact List.cons_ne_nil _ _
  | case3 a b rest hcut ih =>
    rcases List.mem_cons.mp h with rfl | h
    · exact List.cons_ne_nil _ _
    · exact ih h
  | case4 a b rest hcut ih =>
    cases hwords : cutAtBoundaries (b :: rest) with
    | nil => simp [hwords] at h
    | cons first others =>
      rw [hwords, List.modifyHead_cons] at h
      rcases List.mem_cons.mp h with rfl | h
      · exact List.cons_ne_nil _ _
      · exact ih (by simp [hwords, h])

theorem ne_nil_of_mem_words {name word : List Char} (h : word ∈ words name) : word ≠ [] := by
  obtain ⟨run, -, hword⟩ := List.mem_flatMap.mp h
  exact ne_nil_of_mem_cutAtBoundaries hword

theorem words_eq_nil_iff {name : List Char} :
    words name = [] ↔ ∀ c ∈ name, isAlphanumeric c = false := by
  have hflatten : (words name).flatten = [] ↔ ∀ c ∈ name, isAlphanumeric c = false := by
    rw [flatten_words]
    simp
  rw [← hflatten]
  constructor
  · intro h
    rw [h, List.flatten_nil]
  · intro h
    apply List.eq_nil_iff_forall_not_mem.mpr
    intro word hword
    exact ne_nil_of_mem_words hword (List.flatten_eq_nil_iff.mp h word hword)

/-- Nothing is left of a name without alphanumeric characters, and something of every other. -/
theorem screamingSnakeCase_eq_nil_iff {name : List Char} :
    screamingSnakeCase name = [] ↔ ∀ c ∈ name, isAlphanumeric c = false := by
  rw [← words_eq_nil_iff, screamingSnakeCase]
  cases hwords : words name with
  | nil => simp
  | cons word rest =>
    have hword : word ≠ [] := ne_nil_of_mem_words (by rw [hwords]; exact List.mem_cons_self)
    have hupper : upper word ≠ [] := fun h => hword (upper_eq_nil_iff.mp h)
    cases rest with
    | nil => simp [hupper]
    | cons next others => simp [List.intercalate_cons_cons, hupper]

end TableForge.Text
