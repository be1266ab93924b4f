import Mathlib.Algebra.Order.Field.Power
import Mathlib.Data.Nat.Cast.Order.Field
import Mathlib.Data.Rat.Cast.Order
import Mathlib.Tactic.FieldSimp
import Mathlib.Tactic.Linarith
import Mathlib.Tactic.Positivity
import TableForge.Decimal.Shortest
import TableForge.Proofs.Decimal.Numeral

/-!
# Reading a decimal is rounding it

Which decimals read back as a given number is a question about rationals: they are those in the
rounding interval of the number. A finite number that was read has its one canonical form, with a
mantissa of 53 bits wherever the exponent is not the smallest, and for these the interval is exact.
-/
namespace TableForge.Binary64

/-- The rational number `mantissa * 2 ^ exponent`. -/
def magnitude (mantissa : Nat) (exponent : Int) : ℚ := mantissa * 2 ^ exponent

/-- The one form in which a finite number is stored. -/
structure IsCanonical (mantissa : Nat) (exponent : Int) : Prop where
  lt : mantissa < 2 ^ 53
  min_le : -1074 ≤ exponent
  le_max : exponent ≤ 971
  normal : 2 ^ 52 ≤ mantissa ∨ exponent = -1074

/-- What is true of every number that was read. -/
def Canonical : Binary64 → Prop
  | finite _ mantissa exponent => IsCanonical mantissa exponent
  | _ => True

/-- `k` is an integer nearest to `y`, the even one of two. -/
def IsNearest (y : ℚ) (k : Nat) : Prop :=
  if k % 2 = 0 then |y - k| ≤ 1 / 2 else |y - k| < 1 / 2

/-- A number that is measured in the interval's unit lies in it. -/
def RoundingInterval.Contains (i : RoundingInterval) (t : ℚ) : Prop :=
  if i.closed then i.low ≤ t ∧ t ≤ i.high else i.low < t ∧ t < i.high

/-- `q` lies in the rounding interval, which counts in quarters of the last binary place. -/
def Rounds (mantissa : Nat) (exponent : Int) (q : ℚ) : Prop :=
  (roundingInterval mantissa exponent).Contains (q / 2 ^ (exponent - 2))

variable {mantissa num den : Nat} {exponent : Int} {q : ℚ} {negative : Bool}

/-! ## Nearest integers -/

theorem IsNearest.abs_sub_le {y : ℚ} {k : Nat} (h : IsNearest y k) : |y - k| ≤ 1 / 2 := by
  unfold IsNearest at h
  split at h
  · exact h
  · exact h.le

theorem IsNearest.of_abs_lt {y : ℚ} {k : Nat} (h : |y - k| < 1 / 2) : IsNearest y k := by
  unfold IsNearest
  split
  · exact h.le
  · exact h

theorem IsNearest.unique {y : ℚ} {j k : Nat} (hj : IsNearest y j) (hk : IsNearest y k) : j = k := by
  have hle : ∀ {j k : Nat}, IsNearest y j → IsNearest y k → j ≤ k := by
    intro j k hj hk
    by_contra hlt
    have hstep : (k : ℚ) + 1 ≤ j := by exact_mod_cast not_le.mp hlt
    have hjle := (abs_le.mp hj.abs_sub_le).1
    have hkle := (abs_le.mp hk.abs_sub_le).2
    -- both are half a step away, so both are even and at least two steps apart
    unfold IsNearest at hj hk
    split at hj
    · split at hk
      · have htwo : (k : ℚ) + 2 ≤ j := by exact_mod_cast (by omega : k + 2 ≤ j)
        linarith
      · linarith [(abs_lt.mp hk).2]
    · linarith [(abs_lt.mp hj).1]
  exact le_antisymm (hle hj hk) (hle hk hj)

theorem isNearest_nearestEven (n : Nat) {d : Nat} (hd : 0 < d) :
    IsNearest ((n : ℚ) / d) (nearestEven n d) := by
  have hd' : (0 : ℚ) < d := by exact_mod_cast hd
  have hsplit : (n : ℚ) = d * (n / d : Nat) + (n % d : Nat) := by
    exact_mod_cast (Nat.div_add_mod n d).symm
  have hy : (n : ℚ) / d = (n / d : Nat) + ((n % d : Nat) : ℚ) / d := by
    rw [hsplit]
    field_simp
  have hrest : (0 : ℚ) ≤ ((n % d : Nat) : ℚ) / d := by positivity
  have hlt : ((n % d : Nat) : ℚ) / d < 1 := by
    rw [div_lt_one hd']
    exact_mod_cast Nat.mod_lt n hd
  have hhalf : ∀ r : ℚ, r / d < 1 / 2 ↔ 2 * r < d := fun r => by
    rw [div_lt_iff₀ hd']
    constructor <;> intro h <;> linarith
  have hhalf' : ∀ r : ℚ, 1 / 2 < r / d ↔ d < 2 * r := fun r => by
    rw [lt_div_iff₀ hd']
    constructor <;> intro h <;> linarith
  rw [hy, nearestEven]
  split
  · next hbelow =>
    have hbelow := (hhalf (n % d : Nat)).mpr (by exact_mod_cast hbelow)
    refine .of_abs_lt ?_
    rw [abs_lt]
    constructor <;> linarith
  · split
    · next habove =>
      have habove := (hhalf' (n % d : Nat)).mpr (by exact_mod_cast habove)
      refine .of_abs_lt ?_
      push_cast
      rw [abs_lt]
      constructor <;> linarith
    · next hnotbelow hnotabove =>
      -- a tie: adding the parity of the floor makes it even
      have htie : ((n % d : Nat) : ℚ) / d = 1 / 2 := by
        have hge := (not_congr (hhalf (n % d : Nat))).mpr (by exact_mod_cast hnotbelow)
        have hle := (not_congr (hhalf' (n % d : Nat))).mpr (by exact_mod_cast hnotabove)
        exact le_antisymm (not_lt.mp hle) (not_lt.mp hge)
      have heven : (n / d + n / d % 2) % 2 = 0 := by omega
      rw [IsNearest, if_pos heven, htie, abs_le]
      rcases Nat.mod_two_eq_zero_or_one (n / d) with h | h
      · rw [h]
        push_cast
        constructor <;> linarith
      · rw [h]
        push_cast
        constructor <;> linarith

/-! ## The scale of a fraction -/

theorem scaleRatio_spec (num : Nat) (hden : 0 < den) (e : Int) :
    0 < (scaleRatio num den e).2 ∧
      ((scaleRatio num den e).1 : ℚ) / (scaleRatio num den e).2 = (num : ℚ) / den / 2 ^ e := by
  unfold scaleRatio
  split
  · next he =>
    obtain ⟨k, rfl⟩ := Int.eq_ofNat_of_zero_le he
    refine ⟨Nat.mul_pos hden (Nat.two_pow_pos k), ?_⟩
    simp only [Nat.pow_eq, Int.toNat_natCast, Nat.cast_mul, Nat.cast_pow, Nat.cast_ofNat,
      zpow_natCast]
    rw [div_div]
  · next he =>
    obtain ⟨k, hk⟩ := Int.eq_ofNat_of_zero_le (Int.neg_nonneg.mpr (not_le.mp he).le)
    obtain rfl : e = -(k : Int) := by omega
    refine ⟨hden, ?_⟩
    simp only [Nat.pow_eq, neg_neg, Int.toNat_natCast, Nat.cast_mul, Nat.cast_pow, Nat.cast_ofNat,
      zpow_neg, zpow_natCast, div_inv_eq_mul]
    rw [div_mul_eq_mul_div]

/-- The logarithms of a fraction leave two binades open. -/
theorem log2_bounds (hnum : 0 < num) (hden : 0 < den) {guess : Int}
    (hguess : (num.log2 : Int) - (den.log2 : Int) = guess) :
    (2 : ℚ) ^ (guess - 1) ≤ (num : ℚ) / den ∧ (num : ℚ) / den < 2 ^ (guess + 1) := by
  have hden' : (0 : ℚ) < den := by exact_mod_cast hden
  have hnlow : (2 : ℚ) ^ (num.log2 : Int) ≤ num := by
    exact_mod_cast Nat.log2_self_le (Nat.ne_of_gt hnum)
  have hnhigh : (num : ℚ) < 2 ^ ((num.log2 : Int) + 1) := by
    exact_mod_cast (Nat.lt_log2_self (n := num))
  have hdlow : (2 : ℚ) ^ (den.log2 : Int) ≤ den := by
    exact_mod_cast Nat.log2_self_le (Nat.ne_of_gt hden)
  have hdhigh : (den : ℚ) < 2 ^ ((den.log2 : Int) + 1) := by
    exact_mod_cast (Nat.lt_log2_self (n := den))
  constructor
  · rw [le_div_iff₀ hden']
    calc (2 : ℚ) ^ (guess - 1) * den ≤ 2 ^ (guess - 1) * 2 ^ ((den.log2 : Int) + 1) := by gcongr
      _ = 2 ^ (num.log2 : Int) := by
        rw [← zpow_add₀ two_ne_zero]
        congr 1
        omega
      _ ≤ num := hnlow
  · rw [div_lt_iff₀ hden']
    calc (num : ℚ) < 2 ^ ((num.log2 : Int) + 1) := hnhigh
      _ = 2 ^ (guess + 1) * 2 ^ (den.log2 : Int) := by
        rw [← zpow_add₀ two_ne_zero]
        congr 1
        omega
      _ ≤ 2 ^ (guess + 1) * den := by gcongr

/-- The comparison decides between the two binades. -/
theorem binaryOrder_spec (hnum : 0 < num) (hden : 0 < den) :
    (2 : ℚ) ^ binaryOrder num den ≤ (num : ℚ) / den ∧
      (num : ℚ) / den < 2 ^ (binaryOrder num den + 1) := by
  unfold binaryOrder
  dsimp only
  generalize hguess : (num.log2 : Int) - (den.log2 : Int) = guess
  obtain ⟨hlower, hupper⟩ := log2_bounds hnum hden hguess
  obtain ⟨hpos, hratio⟩ := scaleRatio_spec num hden guess
  have hpos' : (0 : ℚ) < (scaleRatio num den guess).2 := by exact_mod_cast hpos
  have hcompare : (scaleRatio num den guess).2 ≤ (scaleRatio num den guess).1 ↔
      (2 : ℚ) ^ guess ≤ (num : ℚ) / den := by
    rw [← one_le_div (by positivity : (0 : ℚ) < 2 ^ guess), ← hratio, one_le_div hpos']
    exact Nat.cast_le.symm
  split
  · next h => exact ⟨hcompare.mp h, hupper⟩
  · next h =>
    refine ⟨hlower, ?_⟩
    rw [sub_add_cancel]
    exact not_le.mp (hcompare.not.mp h)

/-! ## Rounding a fraction -/

/-- The exponent and the mantissa that a positive number is first rounded to. -/
structure Scaled (q : ℚ) (exponent : Int) (mantissa : Nat) : Prop where
  nearest : IsNearest (q / 2 ^ exponent) mantissa
  min_le : -1074 ≤ exponent
  lt : q < 2 ^ (exponent + 53)
  le : exponent = -1074 ∨ (2 : ℚ) ^ (exponent + 52) ≤ q

theorem Scaled.unique {e e' : Int} {m m' : Nat} (h : Scaled q e m) (h' : Scaled q e' m') :
    e = e' ∧ m = m' := by
  have hle : ∀ {e e' : Int} {m m' : Nat}, Scaled q e m → Scaled q e' m' → e' ≤ e := by
    intro e e' m m' h h'
    rcases h'.le with hmin | hlow
    · exact hmin ▸ h.min_le
    · have hlt := (zpow_lt_zpow_iff_right₀ (by norm_num)).mp (hlow.trans_lt h.lt)
      omega
  obtain rfl := le_antisymm (hle h' h) (hle h h')
  exact ⟨rfl, h.nearest.unique h'.nearest⟩

theorem zpow_add_le_iff (e : Int) (k : Nat) : (2 : ℚ) ^ (e + k) ≤ q ↔ 2 ^ k ≤ q / 2 ^ e := by
  rw [le_div_iff₀ (by positivity), zpow_add₀ two_ne_zero, zpow_natCast, mul_comm]

theorem lt_zpow_add_iff (e : Int) (k : Nat) : q < (2 : ℚ) ^ (e + k) ↔ q / 2 ^ e < 2 ^ k := by
  rw [div_lt_iff₀ (by positivity), zpow_add₀ two_ne_zero, zpow_natCast, mul_comm]

/-- The mantissa of a number at least as large as the smallest normal one has all its bits. -/
theorem Scaled.mantissa_bounds {e : Int} {m : Nat} (h : Scaled q e m) :
    m ≤ 2 ^ 53 ∧ (e = -1074 ∨ 2 ^ 52 ≤ m) := by
  have hnear := abs_le.mp h.nearest.abs_sub_le
  have hhigh := (lt_zpow_add_iff e 53).mp h.lt
  have hm : (m : ℚ) < (2 ^ 53 + 1 : Nat) := by
    push_cast
    linarith
  refine ⟨Nat.lt_succ_iff.mp (by exact_mod_cast hm), h.le.imp_right fun hlow => ?_⟩
  have hlow := (zpow_add_le_iff e 52).mp hlow
  have hm : (2 ^ 52 : Nat) < (m : ℚ) + 1 := by
    push_cast
    linarith
  exact Nat.lt_succ_iff.mp (by exact_mod_cast hm)

/-- The number of a mantissa and an exponent that may be too large. -/
def limited (negative : Bool) (mantissa : Nat) (exponent : Int) : Binary64 :=
  if maxExponent < exponent then infinite negative else finite negative mantissa exponent

theorem exists_scaled (negative : Bool) (hnum : 0 < num) (hden : 0 < den) :
    ∃ e m, Scaled ((num : ℚ) / den) e m ∧ ofRatio negative num den =
      if m = 2 ^ 53 then limited negative (2 ^ 52) (e + 1) else limited negative m e := by
  obtain ⟨hlow, hhigh⟩ := binaryOrder_spec hnum hden
  generalize horder : binaryOrder num den = order at hlow hhigh
  obtain ⟨e, he⟩ : ∃ e, e = max (order - 52) (-1074) := ⟨_, rfl⟩
  obtain ⟨hpos, hratio⟩ := scaleRatio_spec num hden e
  refine ⟨e, nearestEven (scaleRatio num den e).1 (scaleRatio num den e).2, ⟨?_, ?_, ?_, ?_⟩, ?_⟩
  · rw [← hratio]
    exact isNearest_nearestEven _ hpos
  · omega
  · exact hhigh.trans_le (zpow_le_zpow_right₀ (by norm_num) (by omega))
  · rcases le_total (order - 52) (-1074) with h | h
    · exact .inl (by omega)
    · refine .inr ?_
      rwa [he, max_eq_left h, sub_add_cancel]
  · have hexponent : max (binaryOrder num den - ((mantissaBits : Int) - 1)) minExponent = e := by
      rw [horder, he]
      rfl
    rw [ofRatio, if_neg hnum.ne']
    dsimp only
    rw [hexponent]
    generalize nearestEven (scaleRatio num den e).1 (scaleRatio num den e).2 = m
    by_cases h : m = 2 ^ 53
    · subst h
      rfl
    · have h' : ¬ m = Nat.pow 2 mantissaBits := h
      rw [if_neg h, if_neg h']
      rfl

theorem ofRatio_eq_of_scaled (hnum : 0 < num) (hden : 0 < den) {e : Int} {m : Nat}
    (h : Scaled ((num : ℚ) / den) e m) : ofRatio negative num den =
      if m = 2 ^ 53 then limited negative (2 ^ 52) (e + 1) else limited negative m e := by
  obtain ⟨e', m', h', hratio⟩ := exists_scaled negative hnum hden
  obtain ⟨rfl, rfl⟩ := h.unique h'
  exact hratio

theorem limited_eq_finite_iff {m m' : Nat} {e e' : Int} :
    limited negative m e = finite negative m' e' ↔ e ≤ 971 ∧ m = m' ∧ e = e' := by
  unfold limited maxExponent
  split <;> simp <;> omega

theorem canonical_limited {m : Nat} {e : Int} (hlt : m < 2 ^ 53) (hmin : -1074 ≤ e)
    (hnormal : 2 ^ 52 ≤ m ∨ e = -1074) : (limited negative m e).Canonical := by
  unfold limited
  split
  · trivial
  · next h => exact ⟨hlt, hmin, not_lt.mp h, hnormal⟩

theorem isCanonical_zero : IsCanonical 0 minExponent :=
  ⟨by decide, by decide, by decide, .inr rfl⟩

theorem canonical_ofRatio (negative : Bool) (num : Nat) (hden : 0 < den) :
    (ofRatio negative num den).Canonical := by
  by_cases hnum : num = 0
  · rw [ofRatio, if_pos hnum]
    exact isCanonical_zero
  · obtain ⟨e, m, h, hratio⟩ :=
      exists_scaled negative (Nat.pos_of_ne_zero hnum) hden
    obtain ⟨hle, hnormal⟩ := h.mantissa_bounds
    have hmin := h.min_le
    rw [hratio]
    split
    · exact canonical_limited (by decide) (by omega) (.inl le_rfl)
    · exact canonical_limited (by omega) hmin hnormal.symm

/-! ## Rounding intervals -/

theorem div_zpow_sub_two (q : ℚ) (e : Int) : q / 2 ^ (e - 2) = 4 * (q / 2 ^ e) := by
  rw [zpow_sub₀ two_ne_zero]
  field_simp
  norm_num

/-- The interval of a number holds what its mantissa is nearest to, except below a power of two. -/
theorem rounds_iff_isNearest (hm : 0 < mantissa)
    (hinner : ¬ (mantissa = 2 ^ 52 ∧ -1074 < exponent)) :
    Rounds mantissa exponent q ↔ IsNearest (q / 2 ^ exponent) mantissa := by
  have hlow : ((4 * mantissa - 2 : Nat) : ℚ) = 4 * mantissa - 2 := by
    rw [Nat.cast_sub (by omega)]
    push_cast
    rfl
  have hinner' : ¬ (mantissa = Nat.pow 2 (mantissaBits - 1) ∧ minExponent < exponent) := hinner
  simp only [Rounds, RoundingInterval.Contains, roundingInterval, if_neg hinner', hlow, beq_iff_eq,
    IsNearest, div_zpow_sub_two, abs_le, abs_lt]
  push_cast
  split
  · constructor <;> rintro ⟨h, h'⟩ <;> constructor <;> linarith
  · constructor <;> rintro ⟨h, h'⟩ <;> constructor <;> linarith

theorem rounds_pow_two_iff (hmin : -1074 < exponent) : Rounds (2 ^ 52) exponent q ↔
    (2 : ℚ) ^ 52 - 1 / 4 ≤ q / 2 ^ exponent ∧ q / 2 ^ exponent ≤ 2 ^ 52 + 1 / 2 := by
  have hpow : 2 ^ 52 = Nat.pow 2 (mantissaBits - 1) ∧ minExponent < exponent := ⟨rfl, hmin⟩
  simp only [Rounds, RoundingInterval.Contains, roundingInterval, if_pos hpow, div_zpow_sub_two]
  norm_num
  constructor <;> rintro ⟨h, h'⟩ <;> constructor <;> linarith

theorem div_zpow_sub_one (q : ℚ) (e : Int) : q / 2 ^ (e - 1) = 2 * (q / 2 ^ e) := by
  rw [zpow_sub_one₀ two_ne_zero]
  field_simp

/-- The interval of a power of two also holds what is rounded up from the binade below. -/
theorem rounds_pow_two_iff_scaled (hmin : -1074 < exponent) :
    Rounds (2 ^ 52) exponent q ↔
      Scaled q exponent (2 ^ 52) ∨ Scaled q (exponent - 1) (2 ^ 53) := by
  have hhalf := div_zpow_sub_one q exponent
  rw [rounds_pow_two_iff hmin]
  constructor
  · rintro ⟨hlow, hhigh⟩
    rcases le_or_gt ((2 : ℚ) ^ 52) (q / 2 ^ exponent) with h | h
    · refine .inl ⟨?_, hmin.le, (lt_zpow_add_iff exponent 53).mpr ?_,
        .inr ((zpow_add_le_iff exponent 52).mpr h)⟩
      · rw [IsNearest, if_pos (by decide), abs_le]
        push_cast
        constructor <;> linarith
      · linarith
    · refine .inr ⟨?_, by omega, (lt_zpow_add_iff (exponent - 1) 53).mpr ?_,
        .inr ((zpow_add_le_iff (exponent - 1) 52).mpr ?_)⟩
      · rw [IsNearest, if_pos (by decide), hhalf, abs_le]
        push_cast
        constructor <;> linarith
      · linarith
      · linarith
  · rintro (h | h)
    · have hlow := (zpow_add_le_iff exponent 52).mp (h.le.resolve_left (by omega))
      have hnear := abs_le.mp h.nearest.abs_sub_le
      push_cast at hnear
      constructor <;> linarith
    · have hhigh := (lt_zpow_add_iff (exponent - 1) 53).mp h.lt
      have hnear := abs_le.mp h.nearest.abs_sub_le
      push_cast at hnear
      constructor <;> linarith

/-- The interval holds what is first rounded to the mantissa and the exponent themselves, and for a
power of two what is rounded up to it. -/
theorem rounds_iff_scaled (hcanonical : IsCanonical mantissa exponent) (hm : 0 < mantissa) :
    Rounds mantissa exponent q ↔ Scaled q exponent mantissa ∨
      mantissa = 2 ^ 52 ∧ Scaled q (exponent - 1) (2 ^ 53) := by
  obtain ⟨hlt, hmin, -, hnormal⟩ := hcanonical
  by_cases hpow : mantissa = 2 ^ 52 ∧ -1074 < exponent
  · obtain ⟨rfl, hmin⟩ := hpow
    simpa using rounds_pow_two_iff_scaled hmin
  · rw [rounds_iff_isNearest hm hpow]
    constructor
    · intro h
      have hnear := abs_le.mp h.abs_sub_le
      refine .inl ⟨h, hmin, (lt_zpow_add_iff exponent 53).mpr ?_, ?_⟩
      · have hle : (mantissa : ℚ) + 1 ≤ 2 ^ 53 := by exact_mod_cast hlt
        linarith
      · by_cases hexponent : exponent = -1074
        · exact .inl hexponent
        · have hge : (2 : ℚ) ^ 52 + 1 ≤ mantissa := by
            exact_mod_cast (by omega : 2 ^ 52 + 1 ≤ mantissa)
          refine .inr ((zpow_add_le_iff exponent 52).mpr ?_)
          linarith
    · rintro (h | ⟨rfl, h⟩)
      · exact h.nearest
      · have := h.min_le
        omega

/-- A fraction is read as a number exactly if it lies in the rounding interval of that number. -/
theorem ofRatio_eq_finite_iff (hcanonical : IsCanonical mantissa exponent) (hm : 0 < mantissa)
    (hnum : 0 < num) (hden : 0 < den) :
    ofRatio negative num den = finite negative mantissa exponent ↔
      Rounds mantissa exponent ((num : ℚ) / den) := by
  rw [rounds_iff_scaled hcanonical hm]
  constructor
  · intro h
    obtain ⟨e, m, hscaled, hratio⟩ := exists_scaled negative hnum hden
    rw [hratio] at h
    split at h
    · next hcarry =>
      obtain ⟨-, rfl, rfl⟩ := limited_eq_finite_iff.mp h
      rw [add_sub_cancel_right, ← hcarry]
      exact .inr ⟨rfl, hscaled⟩
    · obtain ⟨-, rfl, rfl⟩ := limited_eq_finite_iff.mp h
      exact .inl hscaled
  · rintro (h | ⟨rfl, h⟩)
    · rw [ofRatio_eq_of_scaled hnum hden h, if_neg hcanonical.lt.ne]
      exact limited_eq_finite_iff.mpr ⟨hcanonical.le_max, rfl, rfl⟩
    · rw [ofRatio_eq_of_scaled hnum hden h, if_pos rfl, sub_add_cancel]
      exact limited_eq_finite_iff.mpr ⟨hcanonical.le_max, rfl, rfl⟩

/-! ## Decimals -/

theorem pow_digitCount_le {n : Nat} (h : 0 < n) : 10 ^ (digitCount n - 1) ≤ n := by
  rw [digitCount]
  have hdigits := isNumeral_toDigits n
  have hle := pow_le_ofDigitChars hdigits.digits Nat.toDigits_ne_nil (head?_toDigits h)
  rwa [hdigits.value] at hle

theorem lt_pow_digitCount (n : Nat) : n < 10 ^ digitCount n :=
  (Nat.length_toDigits_le_iff (by decide) Nat.length_toDigits_pos).mp le_rfl

theorem digitCount_pos (n : Nat) : 0 < digitCount n := Nat.length_toDigits_pos

/-- How many digits a decimal has in front of its point tells its magnitude. -/
theorem decimal_bounds {n : Nat} (h : 0 < n) (place : Int) :
    (10 : ℚ) ^ (digitCount n + place - 1) ≤ n * 10 ^ place ∧
      (n : ℚ) * 10 ^ place < 10 ^ (digitCount n + place) := by
  have hpos : (0 : ℚ) < 10 ^ place := by positivity
  have hlow : (10 : ℚ) ^ ((digitCount n : Int) - 1) ≤ n := by
    have hcount : ((digitCount n : Int) - 1) = ((digitCount n - 1 : Nat) : Int) := by
      have := digitCount_pos n
      omega
    rw [hcount, zpow_natCast]
    exact_mod_cast pow_digitCount_le h
  have hhigh : (n : ℚ) < 10 ^ (digitCount n : Int) := by
    rw [zpow_natCast]
    exact_mod_cast lt_pow_digitCount n
  constructor
  · rw [add_sub_right_comm, zpow_add₀ (by norm_num)]
    exact mul_le_mul_of_nonneg_right hlow hpos.le
  · rw [zpow_add₀ (by norm_num)]
    exact mul_lt_mul_of_pos_right hhigh hpos

theorem Rounds.bounds (h : Rounds mantissa exponent q) :
    (mantissa : ℚ) - 1 / 2 ≤ q / 2 ^ exponent ∧ q / 2 ^ exponent ≤ mantissa + 1 / 2 := by
  have hlow : 4 * mantissa ≤ (roundingInterval mantissa exponent).low + 2 := by
    unfold roundingInterval
    dsimp only
    split <;> omega
  have hlow : 4 * (mantissa : ℚ) ≤ (roundingInterval mantissa exponent).low + 2 := by
    exact_mod_cast hlow
  have hhigh : ((roundingInterval mantissa exponent).high : ℚ) = 4 * mantissa + 2 := by
    unfold roundingInterval
    push_cast
    rfl
  rw [Rounds, RoundingInterval.Contains, hhigh, div_zpow_sub_two] at h
  split at h <;> constructor <;> linarith [h.1, h.2]

theorem two_pow_lt_ten_pow : (2 : ℚ) ^ 1075 < 10 ^ 400 := by
  calc (2 : ℚ) ^ 1075 < 2 ^ (3 * 400) := pow_lt_pow_right₀ (by norm_num) (by norm_num)
    _ = (2 ^ 3) ^ 400 := pow_mul 2 3 400
    _ ≤ 10 ^ 400 := pow_le_pow_left₀ (by norm_num) (by norm_num) 400

/-- The orders of magnitude that are settled without rounding are those that no number has. -/
theorem Rounds.order_bounds (hcanonical : IsCanonical mantissa exponent) (hm : 0 < mantissa)
    (h : Rounds mantissa exponent q) : (10 : ℚ) ^ (-400 : Int) < q ∧ q < 10 ^ (400 : Int) := by
  obtain ⟨hlt, hmin, hmax, -⟩ := hcanonical
  obtain ⟨hlow, hhigh⟩ := h.bounds
  have hpos : (0 : ℚ) < 2 ^ exponent := by positivity
  have hone : (1 : ℚ) ≤ mantissa := by exact_mod_cast hm
  have hle : (mantissa : ℚ) + 1 ≤ 2 ^ 53 := by exact_mod_cast hlt
  constructor
  · calc (10 : ℚ) ^ (-400 : Int) < 2 ^ (-1075 : Int) := by
          rw [zpow_neg, zpow_neg]
          exact inv_strictAnti₀ (by positivity) (by exact_mod_cast two_pow_lt_ten_pow)
      _ ≤ 2 ^ (exponent - 1) := zpow_le_zpow_right₀ (by norm_num) (by omega)
      _ = 1 / 2 * 2 ^ exponent := by
        rw [zpow_sub_one₀ two_ne_zero, one_div, mul_comm]
      _ ≤ q := by
        rw [← le_div_iff₀ hpos]
        linarith
  · calc q < 2 ^ (exponent + 53) := (lt_zpow_add_iff exponent 53).mpr (by linarith)
      _ ≤ 2 ^ (1075 : Int) := zpow_le_zpow_right₀ (by norm_num) (by omega)
      _ < 10 ^ (400 : Int) := by exact_mod_cast two_pow_lt_ten_pow

theorem Rounds.digitCount_bounds (hcanonical : IsCanonical mantissa exponent) (hm : 0 < mantissa)
    {digits : Nat} {place : Int} (h : Rounds mantissa exponent (digits * 10 ^ place)) :
    0 < digits ∧ -400 < digitCount digits + place ∧ digitCount digits + place ≤ 400 := by
  obtain ⟨hlow, hhigh⟩ := h.order_bounds hcanonical hm
  have hpos : 0 < digits := by
    refine Nat.pos_of_ne_zero fun hzero => ?_
    have htiny : (0 : ℚ) < 10 ^ (-400 : Int) := by positivity
    rw [hzero, Nat.cast_zero, zero_mul] at hlow
    linarith
  obtain ⟨hle, hlt⟩ := decimal_bounds hpos place
  have hover := (zpow_lt_zpow_iff_right₀ (by norm_num)).mp (hlow.trans hlt)
  have hunder := (zpow_lt_zpow_iff_right₀ (by norm_num)).mp (hle.trans_lt hhigh)
  exact ⟨hpos, hover, by omega⟩

/-- **Reading.** A decimal reads back as a number exactly if it lies in the rounding interval. -/
theorem ofDecimal_eq_finite_iff (negative : Bool) (hcanonical : IsCanonical mantissa exponent)
    (hm : 0 < mantissa) {digits : Nat} {place : Int} :
    ofDecimal negative digits place = finite negative mantissa exponent ↔
      Rounds mantissa exponent (digits * 10 ^ place) := by
  have hbounds : Rounds mantissa exponent (digits * 10 ^ place) → 0 < digits ∧
      -400 < digitCount digits + place ∧ digitCount digits + place ≤ 400 :=
    fun h => h.digitCount_bounds hcanonical hm
  unfold ofDecimal
  dsimp only
  split
  · next hsmall =>
    refine iff_of_false (fun h => ?_) fun h => ?_
    · simp only [finite.injEq, true_and] at h
      omega
    · have := hbounds h
      omega
  · next hsmall =>
    have hpos : 0 < digits := by omega
    split
    · next hlarge =>
      refine iff_of_false (fun h => ?_) fun h => ?_
      · cases h
      · have := hbounds h
        omega
    · split
      · next hplace =>
        obtain ⟨k, rfl⟩ := Int.eq_ofNat_of_zero_le hplace
        rw [Int.toNat_natCast, Nat.pow_eq,
          ofRatio_eq_finite_iff hcanonical hm (by positivity) Nat.one_pos]
        push_cast
        rw [div_one, zpow_natCast]
      · next hplace =>
        obtain ⟨k, hk⟩ := Int.eq_ofNat_of_zero_le (Int.neg_nonneg.mpr (not_le.mp hplace).le)
        obtain rfl : place = -(k : Int) := by omega
        rw [neg_neg, Int.toNat_natCast, Nat.pow_eq,
          ofRatio_eq_finite_iff hcanonical hm hpos (by positivity)]
        push_cast
        rw [zpow_neg, zpow_natCast, div_eq_mul_inv]

/-! ## Numbers that were read -/

theorem canonical_ofDecimal (negative : Bool) (digits : Nat) (place : Int) :
    (ofDecimal negative digits place).Canonical := by
  unfold ofDecimal
  dsimp only
  split
  · exact isCanonical_zero
  · split
    · trivial
    · split
      · exact canonical_ofRatio _ _ Nat.one_pos
      · exact canonical_ofRatio _ _ (Nat.pow_pos (by decide))

theorem canonical_of_readMagnitude? {text : List Char} {number : Binary64}
    (h : readMagnitude? negative text = some number) : number.Canonical := by
  unfold readMagnitude? at h
  dsimp only at h
  obtain ⟨-, h⟩ := Option.ite_none_left_eq_some.mp h
  obtain ⟨_, -, rfl⟩ := Option.map_eq_some_iff.mp h
  exact canonical_ofDecimal _ _ _

theorem canonical_of_ofText? {text : List Char} {number : Binary64}
    (h : ofText? text = some number) : number.Canonical := by
  unfold ofText? at h
  dsimp only at h
  split at h
  · cases h
    trivial
  · split at h
    · cases h
      trivial
    · exact canonical_of_readMagnitude? h

end TableForge.Binary64
