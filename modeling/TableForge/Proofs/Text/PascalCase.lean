import Mathlib.Data.List.Basic
import TableForge.Generation.Naming

/-!
# Class names as file names

A name in Pascal case consists of alphanumeric characters and of the uppercase forms of such. None
of these is a slash or a dot, so a class name is never taken for more than one segment of a path,
and an extension put behind it begins where the class name ends.
-/
namespace TableForge.Text

theorem isAlphanumeric_of_mem_runs {name run : List Char} {c : Char} (hrun : run ∈ runs name)
    (hc : c ∈ run) : isAlphanumeric c = true := by
  have hmem : c ∈ (runs name).flatten := List.mem_flatten.mpr ⟨run, hrun, hc⟩
  rw [flatten_runs] at hmem
  exact (List.mem_filter.mp hmem).2

/-- The separators of paths and of file names. -/
def separators : List Char := ['/', '.']

variable {separator : Char}

theorem eq_of_mem_separators (h : separator ∈ separators) : separator = '/' ∨ separator = '.' := by
  simpa [separators] using h

theorem toUpper_ne_separator {c : Char} (hsep : separator ∈ separators) (hascii : c.toNat < 128)
    (h : c ≠ separator) : c.toUpper ≠ separator := by
  have htable : ∀ n < 128, Char.ofNat n ≠ separator → (Char.ofNat n).toUpper ≠ separator := by
    rcases eq_of_mem_separators hsep with rfl | rfl <;> decide
  have hc := htable c.toNat hascii
  rw [Char.ofNat_toNat] at hc
  exact hc h

theorem uppercaseExpansions_ne_separator (hsep : separator ∈ separators) :
    ∀ e ∈ uppercaseExpansions, ∀ n ∈ e.2, Char.ofNat n ≠ separator := by
  rcases eq_of_mem_separators hsep with rfl | rfl <;> decide +kernel

theorem lt_target_uppercaseShifts : ∀ run ∈ uppercaseShifts, 47 < run.2.2.2 := by
  decide +kernel

theorem lt_shiftIn {runs : List (Nat × Nat × Nat × Nat)} {bound n image : Nat}
    (hruns : ∀ run ∈ runs, bound < run.2.2.2) (h : shiftIn runs n = some image) :
    bound < image := by
  obtain ⟨run, hfind, rfl⟩ := Option.map_eq_some_iff.mp h
  have hrun := hruns run (List.mem_of_find?_eq_some hfind)
  obtain ⟨first, last, step, target⟩ := run
  exact Nat.lt_add_right _ hrun

theorem ofNat_ne_separator (hsep : separator ∈ separators) {n : Nat} (h : 47 < n) :
    Char.ofNat n ≠ separator := by
  have hbounds : separator.toNat ≤ 47 ∧ separator.toNat ≠ 0 := by
    rcases eq_of_mem_separators hsep with rfl | rfl <;> decide
  obtain ⟨hle, hzero⟩ := hbounds
  intro he
  have hn := congrArg Char.toNat he
  by_cases hvalid : n.isValidChar
  · rw [Char.ofNat, dif_pos hvalid] at hn
    have hsame : n = separator.toNat := hn
    omega
  · rw [Char.ofNat, dif_neg hvalid] at hn
    exact hzero hn.symm

/-- No character but a separator itself has it in its uppercase form. -/
theorem separator_not_mem_upperChar (hsep : separator ∈ separators) {c : Char} (h : c ≠ separator) :
    separator ∉ upperChar c := by
  unfold upperChar
  split
  · next hascii =>
    intro hmem
    exact toUpper_ne_separator hsep hascii h (List.mem_singleton.mp hmem).symm
  · unfold mapCase
    split
    · next image hl =>
      intro hmem
      obtain ⟨n, hn, he⟩ := List.mem_map.mp hmem
      obtain ⟨before, after, htable, -⟩ := List.lookup_eq_some_iff.mp hl
      exact uppercaseExpansions_ne_separator hsep (c.toNat, image) (by simp [htable]) n hn he
    · split
      · next image hs =>
        have hlt := lt_shiftIn lt_target_uppercaseShifts hs
        intro hmem
        exact ofNat_ne_separator hsep hlt (List.mem_singleton.mp hmem).symm
      · intro hmem
        exact h (List.mem_singleton.mp hmem).symm

theorem separator_not_mem_pascalCase (hsep : separator ∈ separators) (name : List Char) :
    separator ∉ pascalCase name := by
  have hother : isAlphanumeric separator = false := by
    rcases eq_of_mem_separators hsep with rfl | rfl <;> decide
  intro hmem
  obtain ⟨run, hrun, hc⟩ := List.mem_flatMap.mp hmem
  have hne : ∀ c ∈ run, c ≠ separator := by
    rintro c hrest rfl
    have h := isAlphanumeric_of_mem_runs hrun hrest
    rw [hother] at h
    cases h
  cases run with
  | nil => cases hc
  | cons c rest =>
    rcases List.mem_append.mp hc with h | h
    · exact separator_not_mem_upperChar hsep (hne c List.mem_cons_self) h
    · exact hne separator (List.mem_cons_of_mem _ h) rfl

end TableForge.Text
