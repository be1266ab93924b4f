import Mathlib.Algebra.GroupWithZero.Nat
import Mathlib.Data.List.Basic
import Mathlib.Data.List.Induction
import TableForge.Toml.Datetime

/-!
# Numerals

`IsNumeral` says which texts write a number in decimal, by the value of their digits and not by how
they are made: for each number and each width there is exactly one. The digits that a number is
printed with are a numeral, and so is a number that is padded with zeros.
-/
namespace TableForge

/-- `text` writes `n` in decimal, with zeros in front up to `width` digits but none beyond. -/
structure IsNumeral (width n : Nat) (text : List Char) : Prop where
  digits : ∀ c ∈ text, c.isDigit = true
  value : Nat.ofDigitChars 10 text 0 = n
  width_le : width ≤ text.length
  head : width < text.length → text.head? ≠ some '0'

/-! ## The value of digits -/

theorem toNat_sub_lt_ten {c : Char} (h : c.isDigit = true) : c.toNat - '0'.toNat < 10 := by
  simp only [Char.isDigit, ge_iff_le, Bool.and_eq_true, decide_eq_true_eq] at h
  have h9 : c.toNat ≤ '9'.toNat := h.2
  have h0 : '0'.toNat = 48 := rfl
  have h9' : '9'.toNat = 57 := rfl
  omega

theorem ofDigitChars_concat (text : List Char) (c : Char) :
    Nat.ofDigitChars 10 (text ++ [c]) 0 =
      10 * Nat.ofDigitChars 10 text 0 + (c.toNat - '0'.toNat) := by
  rw [Nat.ofDigitChars_append, Nat.ofDigitChars_cons, Nat.ofDigitChars_nil]

/-- Digits in front count by the place of what follows them. -/
theorem ofDigitChars_append_eq (front back : List Char) :
    Nat.ofDigitChars 10 (front ++ back) 0 =
      10 ^ back.length * Nat.ofDigitChars 10 front 0 + Nat.ofDigitChars 10 back 0 := by
  rw [Nat.ofDigitChars_append, Nat.ofDigitChars_eq_ofDigitChars_zero]

theorem ofDigitChars_lt {text : List Char} (h : ∀ c ∈ text, c.isDigit = true) :
    Nat.ofDigitChars 10 text 0 < 10 ^ text.length := by
  induction text using List.reverseRecOn with
  | nil => decide
  | append_singleton front c ih =>
    obtain ⟨hfront, hc⟩ := List.forall_mem_append.mp h
    have hlt := toNat_sub_lt_ten (hc c (List.mem_singleton_self c))
    have ih := ih hfront
    rw [ofDigitChars_concat, List.length_append, List.length_singleton, Nat.pow_succ]
    omega

theorem isDigit_injective {c d : Char} (hc : c.isDigit = true) (hd : d.isDigit = true)
    (h : c.toNat - '0'.toNat = d.toNat - '0'.toNat) : c = d := by
  simp only [Char.isDigit, ge_iff_le, Bool.and_eq_true, decide_eq_true_eq] at hc hd
  have hc0 : '0'.toNat ≤ c.toNat := hc.1
  have hd0 : '0'.toNat ≤ d.toNat := hd.1
  exact Char.toNat_inj.mp (by omega)

/-- Digits are told by their number and their value. -/
theorem eq_of_ofDigitChars_eq {s t : List Char} (hs : ∀ c ∈ s, c.isDigit = true)
    (ht : ∀ c ∈ t, c.isDigit = true) (hlength : s.length = t.length)
    (hvalue : Nat.ofDigitChars 10 s 0 = Nat.ofDigitChars 10 t 0) : s = t := by
  induction s using List.reverseRecOn generalizing t with
  | nil => exact (List.length_eq_zero_iff.mp hlength.symm).symm
  | append_singleton s c ih =>
    obtain rfl | ⟨t, d, rfl⟩ := List.eq_nil_or_concat' t
    · simp at hlength
    · obtain ⟨hs, hc⟩ := List.forall_mem_append.mp hs
      obtain ⟨ht, hd⟩ := List.forall_mem_append.mp ht
      have hc := hc c (List.mem_singleton_self c)
      have hd := hd d (List.mem_singleton_self d)
      have hclt := toNat_sub_lt_ten hc
      have hdlt := toNat_sub_lt_ten hd
      rw [ofDigitChars_concat, ofDigitChars_concat] at hvalue
      rw [ih hs ht (by simpa using hlength) (by omega), isDigit_injective hc hd (by omega)]

/-- A digit other than zero in front tells how many digits there are. -/
theorem pow_le_ofDigitChars {text : List Char} (h : ∀ c ∈ text, c.isDigit = true)
    (hne : text ≠ []) (hhead : text.head? ≠ some '0') :
    10 ^ (text.length - 1) ≤ Nat.ofDigitChars 10 text 0 := by
  obtain ⟨c, rest, rfl⟩ := List.exists_cons_of_ne_nil hne
  have hc := h c List.mem_cons_self
  have hpos : 0 < c.toNat - '0'.toNat := by
    refine Nat.pos_of_ne_zero fun hzero => hhead ?_
    rw [List.head?_cons, isDigit_injective hc (d := '0') rfl hzero]
  calc 10 ^ ((c :: rest).length - 1) ≤ 10 ^ rest.length * (c.toNat - '0'.toNat) :=
        Nat.le_mul_of_pos_right _ hpos
    _ ≤ Nat.ofDigitChars 10 (c :: rest) 0 := by
      rw [← List.singleton_append, ofDigitChars_append_eq, Nat.ofDigitChars_cons,
        Nat.ofDigitChars_nil, Nat.mul_zero, Nat.zero_add]
      exact Nat.le_add_right _ _

/-! ## Numerals -/

theorem IsNumeral.unique {width n : Nat} {s t : List Char} (hwidth : 0 < width)
    (hs : IsNumeral width n s) (ht : IsNumeral width n t) : s = t := by
  -- a numeral that is longer than the width has no zero in front, so no other one is shorter
  have hle : ∀ {s t : List Char}, IsNumeral width n s → IsNumeral width n t →
      s.length ≤ t.length := by
    intro s t hs ht
    by_cases hlong : width < s.length
    · have hne : s ≠ [] := List.ne_nil_of_length_pos (by omega)
      have hlow := pow_le_ofDigitChars hs.digits hne (hs.head hlong)
      have hhigh := ofDigitChars_lt ht.digits
      rw [hs.value] at hlow
      rw [ht.value] at hhigh
      have hlt : s.length - 1 < t.length :=
        (Nat.pow_lt_pow_iff_right (by decide)).mp (Nat.lt_of_le_of_lt hlow hhigh)
      omega
    · exact Nat.le_trans (Nat.not_lt.mp hlong) ht.width_le
  exact eq_of_ofDigitChars_eq hs.digits ht.digits (Nat.le_antisymm (hle hs ht) (hle ht hs))
    (hs.value.trans ht.value.symm)

theorem head?_toDigits {n : Nat} (h : 0 < n) : (Nat.toDigits 10 n).head? ≠ some '0' := by
  induction n using Nat.strongRecOn with
  | ind n ih =>
    by_cases hlt : n < 10
    · have hdigit : ∀ n < 10, 0 < n → n.digitChar ≠ '0' := by decide
      rw [Nat.toDigits_of_lt_base hlt, List.head?_cons]
      exact fun he => hdigit n hlt h (Option.some.inj he)
    · have hrec := ih (n / 10) (by omega) (by omega)
      rw [Nat.toDigits_of_base_le (by decide) (by omega)]
      rw [List.head?_append_of_ne_nil _ Nat.toDigits_ne_nil]
      exact hrec

theorem isNumeral_toDigits (n : Nat) : IsNumeral 1 n (Nat.toDigits 10 n) where
  digits c hc := Nat.isDigit_of_mem_toDigits (by decide) (by decide) hc
  value := Nat.ofDigitChars_ten_toDigits
  width_le := Nat.length_toDigits_pos
  head hlong := by
    refine head?_toDigits (Nat.pos_of_ne_zero ?_)
    rintro rfl
    simp at hlong

/-- Zeros in front keep the value, and there are none where the digits already reach the width. -/
theorem IsNumeral.pad {width n : Nat} {text : List Char} (h : IsNumeral 1 n text)
    (hwidth : 0 < width) :
    IsNumeral width n (List.replicate (width - text.length) '0' ++ text) where
  digits c hc := by
    rcases List.mem_append.mp hc with hc | hc
    · rw [List.eq_of_mem_replicate hc]
      rfl
    · exact h.digits c hc
  value := by
    rw [Nat.ofDigitChars_append, Nat.ofDigitChars_replicate_zero, Nat.mul_zero, h.value]
  width_le := by
    rw [List.length_append, List.length_replicate]
    omega
  head hlong := by
    rw [List.length_append, List.length_replicate] at hlong
    have hnone : width - text.length = 0 := by omega
    rw [hnone, List.replicate_zero, List.nil_append]
    exact h.head (by omega)

theorem isNumeral_zeros (width : Nat) : IsNumeral width 0 (List.replicate width '0') where
  digits c hc := by
    rw [List.eq_of_mem_replicate hc]
    rfl
  value := by rw [Nat.ofDigitChars_replicate_zero, Nat.mul_zero]
  width_le := Nat.le_of_eq List.length_replicate.symm
  head hlong := by
    rw [List.length_replicate] at hlong
    exact absurd hlong (Nat.lt_irrefl width)

namespace Toml

theorem isNumeral_padded (width n : Nat) (hwidth : 0 < width) :
    IsNumeral width n (padded width n).toList := by
  rw [padded, String.toList_ofList]
  exact (isNumeral_toDigits n).pad hwidth

end Toml

end TableForge
