import Mathlib.Data.Rat.Floor
import TableForge.Proofs.Decimal.Rounding

/-!
# The shortest decimal that reads back

`IsShortest` says which decimal a number is written as, by reading alone: it reads back as the
number, no decimal with fewer digits does, and of those with as many digits it is the nearest to the
number. The search finds it: on each grid the two neighbours of the number decide whether any point
lies in the rounding interval, and on the seventeenth grid the interval is wider than a step.
-/
namespace TableForge.Binary64

/-- `digits * 10 ^ place` is the decimal that a number is to be written as. -/
structure IsShortest (negative : Bool) (mantissa : Nat) (exponent : Int) (digits : Nat)
    (place : Int) : Prop where
  readsBack : ofDecimal negative digits place = finite negative mantissa exponent
  fewest : ∀ d p, ofDecimal negative d p = finite negative mantissa exponent →
    digitCount digits ≤ digitCount d
  nearest : ∀ d p, ofDecimal negative d p = finite negative mantissa exponent →
    digitCount d = digitCount digits →
    |digits * 10 ^ place - magnitude mantissa exponent| ≤ |d * 10 ^ p - magnitude mantissa exponent|
  /-- Of two that are equally near it is the upper one. -/
  upper : ∀ d p, ofDecimal negative d p = finite negative mantissa exponent →
    digitCount d = digitCount digits →
    |d * 10 ^ p - magnitude mantissa exponent| =
      |digits * 10 ^ place - magnitude mantissa exponent| →
    (d : ℚ) * 10 ^ p ≤ digits * 10 ^ place

variable {mantissa : Nat} {exponent : Int} {q : ℚ} {negative : Bool}

/-! ## One grid -/

namespace RoundingInterval

variable {i : RoundingInterval} {unit grid : Nat} {step : ℚ}

/-- The point `n * step` lies in the interval and is nearest to its middle there, the upper one of
two. -/
structure Picks (i : RoundingInterval) (step : ℚ) (n : Nat) : Prop where
  contains : i.Contains (n * step)
  nearest : ∀ k : Nat, i.Contains (k * step) → |n * step - i.middle| ≤ |k * step - i.middle|
  upper : ∀ k : Nat, i.Contains (k * step) →
    |k * step - i.middle| = |n * step - i.middle| → k ≤ n

theorem Contains.convex {a b t : ℚ} (ha : i.Contains a) (hb : i.Contains b) (hat : a ≤ t)
    (htb : t ≤ b) : i.Contains t := by
  unfold Contains at ha hb ⊢
  split
  · next hclosed =>
    rw [if_pos hclosed] at ha hb
    exact ⟨ha.1.trans hat, htb.trans hb.2⟩
  · next hopen =>
    rw [if_neg hopen] at ha hb
    exact ⟨ha.1.trans_le hat, htb.trans_lt hb.2⟩

theorem holds_iff (grid : Nat) (hunit : 0 < unit) (point : Nat) :
    i.holds unit grid point = true ↔ i.Contains (point * ((grid : ℚ) / unit)) := by
  have hunit' : (0 : ℚ) < unit := by exact_mod_cast hunit
  unfold holds Contains
  rw [← mul_div_assoc]
  split
  · rw [Bool.and_eq_true, decide_eq_true_eq, decide_eq_true_eq, le_div_iff₀ hunit',
      div_le_iff₀ hunit']
    exact_mod_cast Iff.rfl
  · rw [Bool.and_eq_true, decide_eq_true_eq, decide_eq_true_eq, lt_div_iff₀ hunit',
      div_lt_iff₀ hunit']
    exact_mod_cast Iff.rfl

/-- The middle lies between two neighbouring points of the grid. -/
theorem middle_between (hunit : 0 < unit) (hgrid : 0 < grid) :
    ((i.middle * unit / grid : Nat) : ℚ) * ((grid : ℚ) / unit) ≤ i.middle ∧
      (i.middle : ℚ) < ((i.middle * unit / grid + 1 : Nat) : ℚ) * ((grid : ℚ) / unit) := by
  have hunit' : (0 : ℚ) < unit := by exact_mod_cast hunit
  rw [← mul_div_assoc, ← mul_div_assoc, div_le_iff₀ hunit', lt_div_iff₀ hunit']
  constructor
  · exact_mod_cast Nat.div_mul_le_self (i.middle * unit) grid
  · rw [mul_comm ((i.middle * unit / grid + 1 : Nat) : ℚ)]
    exact_mod_cast Nat.lt_mul_div_succ (i.middle * unit) hgrid

variable {below : Nat}

/-- If any point lies in the interval then one of the two neighbours of the middle does, at least as
near. -/
theorem neighbour_contains (hstep : 0 < step) (hmiddle : i.Contains i.middle)
    (hle : (below : ℚ) * step ≤ i.middle) (hlt : (i.middle : ℚ) < (below + 1 : Nat) * step)
    {k : Nat} (hk : i.Contains (k * step)) :
    k ≤ below ∧ i.Contains (below * step) ∧ |below * step - i.middle| ≤ |k * step - i.middle| ∨
      below + 1 ≤ k ∧ i.Contains ((below + 1 : Nat) * step) ∧
        |(below + 1 : Nat) * step - i.middle| ≤ |k * step - i.middle| := by
  rcases Nat.lt_or_ge below k with hkb | hkb
  · have hks : ((below + 1 : Nat) : ℚ) * step ≤ k * step :=
      mul_le_mul_of_nonneg_right (by exact_mod_cast hkb) hstep.le
    refine .inr ⟨hkb, hmiddle.convex hk hlt.le hks, ?_⟩
    rw [abs_of_nonneg (by linarith), abs_of_nonneg (by linarith)]
    linarith
  · have hks : (k : ℚ) * step ≤ below * step :=
      mul_le_mul_of_nonneg_right (by exact_mod_cast hkb) hstep.le
    refine .inl ⟨hkb, hk.convex hmiddle hks hle, ?_⟩
    rw [abs_of_nonpos (by linarith), abs_of_nonpos (by linarith)]
    linarith

theorem picks_below (hstep : 0 < step) (hmiddle : i.Contains i.middle)
    (hle : (below : ℚ) * step ≤ i.middle) (hlt : (i.middle : ℚ) < (below + 1 : Nat) * step)
    (hbelow : i.Contains (below * step))
    (hnearer : i.Contains ((below + 1 : Nat) * step) → 2 * ((i.middle : ℚ) - below * step) < step) :
    i.Picks step below := by
  have hpoint : ∀ k : Nat, i.Contains (k * step) →
      k ≤ below ∧ |below * step - i.middle| ≤ |k * step - i.middle| ∨
        |below * step - i.middle| < |k * step - i.middle| := by
    intro k hk
    rcases neighbour_contains hstep hmiddle hle hlt hk with ⟨hkb, -, hdist⟩ | ⟨-, habove, hdist⟩
    · exact .inl ⟨hkb, hdist⟩
    · refine .inr (lt_of_lt_of_le ?_ hdist)
      have hnearer := hnearer habove
      push_cast at hlt ⊢
      rw [abs_of_nonpos (by linarith), abs_of_nonneg (by linarith)]
      linarith
  refine ⟨hbelow, fun k hk => ?_, fun k hk hdist => ?_⟩
  · rcases hpoint k hk with ⟨-, h⟩ | h
    · exact h
    · exact h.le
  · rcases hpoint k hk with ⟨hkb, -⟩ | h
    · exact hkb
    · exact absurd hdist.symm h.ne

theorem picks_above (hstep : 0 < step) (hmiddle : i.Contains i.middle)
    (hle : (below : ℚ) * step ≤ i.middle) (hlt : (i.middle : ℚ) < (below + 1 : Nat) * step)
    (habove : i.Contains ((below + 1 : Nat) * step))
    (hnearer : i.Contains (below * step) → step ≤ 2 * ((i.middle : ℚ) - below * step)) :
    i.Picks step (below + 1) := by
  refine ⟨habove, fun k hk => ?_, fun k hk hdist => ?_⟩
  · rcases neighbour_contains hstep hmiddle hle hlt hk with ⟨-, hbelow, hdist⟩ | ⟨-, -, hdist⟩
    · refine le_trans ?_ hdist
      have hnearer := hnearer hbelow
      push_cast at hlt ⊢
      rw [abs_of_nonneg (by linarith), abs_of_nonpos (by linarith)]
      linarith
    · exact hdist
  · rcases Nat.lt_or_ge (below + 1) k with hkb | hkb
    · have hks : ((below + 1 : Nat) : ℚ) * step < k * step :=
        mul_lt_mul_of_pos_right (by exact_mod_cast hkb) hstep
      rw [abs_of_nonneg (by linarith), abs_of_nonneg (by linarith)] at hdist
      linarith
    · exact hkb

/-- Below is preferred where it is strictly nearer. -/
theorem two_mul_mod_lt_iff (grid : Nat) (hunit : 0 < unit) :
    2 * (i.middle * unit % grid) < grid ↔
      2 * ((i.middle : ℚ) - (i.middle * unit / grid : Nat) * ((grid : ℚ) / unit)) <
        (grid : ℚ) / unit := by
  have hunit' : (0 : ℚ) < unit := by exact_mod_cast hunit
  have hsplit : ((i.middle * unit % grid : Nat) : ℚ) =
      i.middle * unit - (i.middle * unit / grid : Nat) * grid := by
    have hmod := Nat.div_add_mod' (i.middle * unit) grid
    rw [eq_sub_iff_add_eq, add_comm]
    exact_mod_cast hmod
  have hrest : (i.middle : ℚ) - (i.middle * unit / grid : Nat) * ((grid : ℚ) / unit) =
      (i.middle * unit % grid : Nat) / unit := by
    rw [hsplit]
    field_simp
  rw [hrest, ← mul_div_assoc, div_lt_div_iff_of_pos_right hunit']
  exact_mod_cast Iff.rfl

theorem picks_of_pick? (hunit : 0 < unit) (hgrid : 0 < grid) (hmiddle : i.Contains i.middle)
    {n : Nat} (h : i.pick? unit grid = some n) : i.Picks ((grid : ℚ) / unit) n := by
  have hstep : (0 : ℚ) < (grid : ℚ) / unit := by positivity
  obtain ⟨hle, hlt⟩ := middle_between (i := i) hunit hgrid
  have hbelow := holds_iff (i := i) grid hunit (i.middle * unit / grid)
  have habove := holds_iff (i := i) grid hunit (i.middle * unit / grid + 1)
  have hnearer := two_mul_mod_lt_iff (i := i) grid hunit
  unfold pick? at h
  dsimp only at h
  split at h
  · next htrue hfalse =>
    cases h
    refine picks_below hstep hmiddle hle hlt (hbelow.mp htrue) fun h => ?_
    rw [habove.mpr h] at hfalse
    cases hfalse
  · next hfalse htrue =>
    cases h
    refine picks_above hstep hmiddle hle hlt (habove.mp htrue) fun h => ?_
    rw [hbelow.mpr h] at hfalse
    cases hfalse
  · next htrue htrue' =>
    split at h
    · next hlow =>
      cases h
      exact picks_below hstep hmiddle hle hlt (hbelow.mp htrue) fun _ => hnearer.mp hlow
    · next hhigh =>
      cases h
      exact picks_above hstep hmiddle hle hlt (habove.mp htrue') fun _ =>
        not_lt.mp (hnearer.not.mp hhigh)
  · cases h

theorem not_contains_of_pick? (hunit : 0 < unit) (hgrid : 0 < grid) (hmiddle : i.Contains i.middle)
    (h : i.pick? unit grid = none) (k : Nat) : ¬ i.Contains (k * ((grid : ℚ) / unit)) := by
  have hstep : (0 : ℚ) < (grid : ℚ) / unit := by positivity
  obtain ⟨hle, hlt⟩ := middle_between (i := i) hunit hgrid
  have hnone : i.holds unit grid (i.middle * unit / grid) = false ∧
      i.holds unit grid (i.middle * unit / grid + 1) = false := by
    unfold pick? at h
    dsimp only at h
    split at h
    · cases h
    · cases h
    · split at h <;> cases h
    · next hbelow habove => exact ⟨hbelow, habove⟩
  intro hk
  rcases neighbour_contains hstep hmiddle hle hlt hk with ⟨-, hbelow, -⟩ | ⟨-, habove, -⟩
  · rw [← holds_iff grid hunit, hnone.1] at hbelow
    cases hbelow
  · rw [← holds_iff grid hunit, hnone.2] at habove
    cases habove

end RoundingInterval

/-! ## The search -/

/-- The decimal `point * 10 ^ place` reads back and is the nearest such one with this place, the
upper one of two. -/
structure BestAt (mantissa : Nat) (exponent place : Int) (point : Nat) : Prop where
  rounds : Rounds mantissa exponent (point * 10 ^ place)
  nearest : ∀ k : Nat, Rounds mantissa exponent (k * 10 ^ place) →
    |point * 10 ^ place - magnitude mantissa exponent| ≤
      |k * 10 ^ place - magnitude mantissa exponent|
  upper : ∀ k : Nat, Rounds mantissa exponent (k * 10 ^ place) →
    |k * 10 ^ place - magnitude mantissa exponent| =
      |point * 10 ^ place - magnitude mantissa exponent| → k ≤ point

theorem zpow_eq_toNat_div {b : ℚ} (hb : b ≠ 0) (z : Int) :
    b ^ z = b ^ z.toNat / b ^ (-z).toNat := by
  rw [← zpow_natCast, ← zpow_natCast, ← zpow_sub₀ hb]
  congr 1
  omega

/-- The search counts in natural numbers. -/
theorem grid_div_unit (place exponent : Int) :
    ((Nat.pow 10 place.toNat * Nat.pow 2 (-exponent).toNat : Nat) : ℚ) /
      (Nat.pow 2 exponent.toNat * Nat.pow 10 (-place).toNat : Nat) = 10 ^ place / 2 ^ exponent := by
  rw [zpow_eq_toNat_div (by norm_num) place, zpow_eq_toNat_div two_ne_zero exponent]
  simp only [Nat.pow_eq]
  push_cast
  field_simp

theorem rounds_iff_contains (k : Nat) (place : Int) :
    Rounds mantissa exponent (k * 10 ^ place) ↔
      (roundingInterval mantissa exponent).Contains (k * (10 ^ place / 2 ^ (exponent - 2))) := by
  rw [Rounds, mul_div_assoc]

theorem middle_eq : ((roundingInterval mantissa exponent).middle : ℚ) =
    magnitude mantissa exponent / 2 ^ (exponent - 2) := by
  rw [magnitude, div_zpow_sub_two, mul_div_cancel_right₀ _ (by positivity)]
  unfold roundingInterval
  push_cast
  rfl

theorem abs_sub_middle (k : Nat) (place : Int) :
    |k * (10 ^ place / 2 ^ (exponent - 2)) - ((roundingInterval mantissa exponent).middle : ℚ)| =
      |k * 10 ^ place - magnitude mantissa exponent| / 2 ^ (exponent - 2) := by
  have hpos : (0 : ℚ) < 2 ^ (exponent - 2) := by positivity
  rw [middle_eq, ← mul_div_assoc, ← sub_div, abs_div, abs_of_pos hpos]

theorem bestAt_of_picks {place : Int} {n : Nat}
    (h : (roundingInterval mantissa exponent).Picks (10 ^ place / 2 ^ (exponent - 2)) n) :
    BestAt mantissa exponent place n := by
  have hpos : (0 : ℚ) < 2 ^ (exponent - 2) := by positivity
  refine ⟨(rounds_iff_contains n place).mpr h.contains, fun k hk => ?_, fun k hk hdist => ?_⟩
  · have hle := h.nearest k ((rounds_iff_contains k place).mp hk)
    rwa [abs_sub_middle, abs_sub_middle, div_le_div_iff_of_pos_right hpos] at hle
  · refine h.upper k ((rounds_iff_contains k place).mp hk) ?_
    rw [abs_sub_middle, abs_sub_middle, hdist]

theorem contains_middle (hm : 0 < mantissa) :
    (roundingInterval mantissa exponent).Contains (roundingInterval mantissa exponent).middle := by
  have hlow : (roundingInterval mantissa exponent).low < 4 * mantissa := by
    unfold roundingInterval
    dsimp only
    split <;> omega
  have hlow : ((roundingInterval mantissa exponent).low : ℚ) <
      (roundingInterval mantissa exponent).middle := by exact_mod_cast hlow
  have hhigh : ((roundingInterval mantissa exponent).middle : ℚ) <
      (roundingInterval mantissa exponent).high := by
    unfold roundingInterval
    push_cast
    linarith
  unfold RoundingInterval.Contains
  split
  · exact ⟨hlow.le, hhigh.le⟩
  · exact ⟨hlow, hhigh⟩

/-- By induction on the number of tries: the search stops at the first grid with a point in the
interval. -/
theorem searchGrids_spec (hm : 0 < mantissa) {tries : Nat} {start found : Int} {point : Nat}
    (hhit : ∃ j < tries, ∃ k : Nat, Rounds mantissa exponent (k * 10 ^ (start - j)))
    (h : searchGrids (roundingInterval mantissa exponent) (exponent - 2) tries start =
      (point, found)) :
    found ≤ start ∧ BestAt mantissa exponent found point ∧
      ∀ place, found < place → place ≤ start →
        ∀ k : Nat, ¬ Rounds mantissa exponent (k * 10 ^ place) := by
  induction tries generalizing start with
  | zero =>
    obtain ⟨j, hj, -⟩ := hhit
    omega
  | succ tries ih =>
    have hunit : 0 < Nat.pow 2 (exponent - 2).toNat * Nat.pow 10 (-start).toNat :=
      Nat.mul_pos (Nat.pow_pos (by decide)) (Nat.pow_pos (by decide))
    have hgrid : 0 < Nat.pow 10 start.toNat * Nat.pow 2 (-(exponent - 2)).toNat :=
      Nat.mul_pos (Nat.pow_pos (by decide)) (Nat.pow_pos (by decide))
    rw [searchGrids] at h
    split at h
    · next n hpick =>
      cases h
      have hpicks := RoundingInterval.picks_of_pick? hunit hgrid (contains_middle hm) hpick
      rw [grid_div_unit] at hpicks
      exact ⟨le_rfl, bestAt_of_picks hpicks, fun place hlow hhigh => by omega⟩
    · next hpick =>
      have hnone : ∀ k : Nat, ¬ Rounds mantissa exponent (k * 10 ^ start) := by
        intro k hk
        refine RoundingInterval.not_contains_of_pick? hunit hgrid (contains_middle hm) hpick k ?_
        rw [grid_div_unit]
        exact (rounds_iff_contains k start).mp hk
      obtain ⟨j, hj, k, hk⟩ := hhit
      have hjpos : j ≠ 0 := by
        rintro rfl
        rw [Nat.cast_zero, sub_zero] at hk
        exact hnone k hk
      obtain ⟨hfound, hbest, hbefore⟩ := ih ⟨j - 1, by omega, k, by
        rwa [show start - 1 - ((j - 1 : Nat) : Int) = start - j by omega]⟩ h
      refine ⟨by omega, hbest, fun place hlow hhigh => ?_⟩
      rcases eq_or_lt_of_le hhigh with rfl | hlt
      · exact hnone
      · exact hbefore place hlow (by omega)

/-! ## The order of magnitude -/

/-- A number lies in its own interval. -/
theorem rounds_magnitude (hm : 0 < mantissa) :
    Rounds mantissa exponent (magnitude mantissa exponent) := by
  rw [Rounds, ← middle_eq]
  exact contains_middle hm

/-- The number in units of `10 ^ (-shift)`, cut off behind the point. -/
theorem scaled_bounds {shift scaled : Nat}
    (h : scaled = mantissa * 2 ^ exponent.toNat * 10 ^ shift / 2 ^ (-exponent).toNat) :
    (scaled : ℚ) ≤ magnitude mantissa exponent * 10 ^ (shift : Int) ∧
      magnitude mantissa exponent * 10 ^ (shift : Int) < scaled + 1 := by
  have hratio : ((mantissa * 2 ^ exponent.toNat * 10 ^ shift : Nat) : ℚ) /
      (2 ^ (-exponent).toNat : Nat) = magnitude mantissa exponent * 10 ^ (shift : Int) := by
    rw [magnitude, zpow_eq_toNat_div two_ne_zero exponent, zpow_natCast]
    push_cast
    field_simp
  rw [← hratio, h]
  constructor
  · exact Nat.cast_div_le
  · rw [div_lt_iff₀ (by positivity), mul_comm ((_ : ℚ) + 1)]
    exact_mod_cast Nat.lt_mul_div_succ _ (Nat.two_pow_pos (-exponent).toNat)

theorem decimalOrder_spec (hcanonical : IsCanonical mantissa exponent) (hm : 0 < mantissa) :
    (10 : ℚ) ^ decimalOrder mantissa exponent ≤ magnitude mantissa exponent ∧
      magnitude mantissa exponent < 10 ^ (decimalOrder mantissa exponent + 1) := by
  have hlarge := ((rounds_magnitude hm).order_bounds hcanonical hm).1
  obtain ⟨shift, hshift⟩ : ∃ shift : Nat, shift = 400 := ⟨400, rfl⟩
  obtain ⟨scaled, hscaled⟩ : ∃ scaled, scaled =
      mantissa * Nat.pow 2 exponent.toNat * Nat.pow 10 shift / Nat.pow 2 (-exponent).toNat :=
    ⟨_, rfl⟩
  have horder : decimalOrder mantissa exponent = (digitCount scaled : Int) - 1 - shift := by
    rw [hscaled, hshift, decimalOrder]
  simp only [Nat.pow_eq] at hscaled
  obtain ⟨hscaled_le, hlt_scaled⟩ := scaled_bounds hscaled
  have hunit : (0 : ℚ) < 10 ^ (shift : Int) := by positivity
  -- the unit is smaller than any number
  have hpos : 0 < scaled := by
    have hone : 1 < magnitude mantissa exponent * 10 ^ (shift : Int) := by
      rw [zpow_neg] at hlarge
      rw [hshift]
      exact (inv_lt_iff_one_lt_mul₀ (by positivity)).mp hlarge
    have hone : (1 : ℚ) < scaled + 1 := hone.trans hlt_scaled
    exact Nat.pos_of_ne_zero fun hzero => by simp [hzero] at hone
  have hlow := (decimal_bounds hpos 0).1
  rw [zpow_zero, mul_one, add_zero] at hlow
  have hhigh : (scaled : ℚ) + 1 ≤ 10 ^ (digitCount scaled : Int) := by
    rw [zpow_natCast]
    exact_mod_cast lt_pow_digitCount scaled
  rw [horder]
  constructor
  · rw [zpow_sub₀ (by norm_num), div_le_iff₀ hunit]
    exact hlow.trans hscaled_le
  · have hsum : (digitCount scaled : Int) - 1 - shift + 1 = digitCount scaled - shift := by omega
    rw [hsum, zpow_sub₀ (by norm_num), lt_div_iff₀ hunit]
    exact hlt_scaled.trans_le hhigh

/-- An open interval that is longer than a step holds a multiple of the step. -/
theorem exists_mul_between {a b step : ℚ} (ha : 0 ≤ a) (hstep : 0 < step) (h : step < b - a) :
    ∃ k : Nat, a < k * step ∧ k * step < b := by
  refine ⟨⌊a / step⌋₊ + 1, ?_, ?_⟩
  · rw [← div_lt_iff₀ hstep]
    exact_mod_cast Nat.lt_floor_add_one (a / step)
  · have hfloor := (le_div_iff₀ hstep).mp (Nat.floor_le (div_nonneg ha hstep.le))
    push_cast
    linarith

/-- Seventeen digits always suffice. -/
theorem exists_rounds_seventeen (hcanonical : IsCanonical mantissa exponent) (hm : 0 < mantissa) :
    ∃ k : Nat, Rounds mantissa exponent (k * 10 ^ (decimalOrder mantissa exponent - 16)) := by
  have hpos : (0 : ℚ) < 2 ^ exponent := by positivity
  have hone : (1 : ℚ) ≤ mantissa := by exact_mod_cast hm
  have hle : (mantissa : ℚ) + 1 ≤ 2 ^ 53 := by exact_mod_cast hcanonical.lt
  -- a step in binary places
  obtain ⟨step, hstep⟩ : ∃ step : ℚ,
      step = 10 ^ (decimalOrder mantissa exponent - 16) / 2 ^ exponent := ⟨_, rfl⟩
  have hstep_pos : 0 < step := by
    rw [hstep]
    positivity
  have hstep_le : step * 10 ^ 16 ≤ mantissa := by
    have hlow := (decimalOrder_spec hcanonical hm).1
    have hpow : (10 : ℚ) ^ (decimalOrder mantissa exponent - 16) * 10 ^ 16 =
        10 ^ decimalOrder mantissa exponent := by
      rw [← zpow_natCast, ← zpow_add₀ (by norm_num)]
      congr 1
      omega
    rwa [hstep, div_mul_eq_mul_div, hpow, div_le_iff₀ hpos]
  have hvalue : ∀ k : Nat, k * 10 ^ (decimalOrder mantissa exponent - 16) / 2 ^ exponent =
      k * step := fun k => by rw [hstep, mul_div_assoc]
  by_cases hpow : mantissa = 2 ^ 52 ∧ -1074 < exponent
  · obtain ⟨rfl, hmin⟩ := hpow
    push_cast at hstep_le
    obtain ⟨k, hlow, hhigh⟩ := exists_mul_between (a := 2 ^ 52 - 1 / 4) (b := 2 ^ 52 + 1 / 2)
      (by norm_num) hstep_pos (by linarith)
    refine ⟨k, (rounds_pow_two_iff hmin).mpr ?_⟩
    rw [hvalue]
    exact ⟨hlow.le, hhigh.le⟩
  · obtain ⟨k, hlow, hhigh⟩ := exists_mul_between (a := (mantissa : ℚ) - 1 / 2)
      (b := mantissa + 1 / 2) (by linarith) hstep_pos (by linarith)
    refine ⟨k, (rounds_iff_isNearest hm hpow).mpr ?_⟩
    have hnear : |k * step - mantissa| < 1 / 2 := by
      rw [abs_lt]
      constructor <;> linarith
    rw [hvalue]
    exact .of_abs_lt hnear

/-! ## What the search returns -/

theorem Rounds.convex {a b : ℚ} (ha : Rounds mantissa exponent a) (hb : Rounds mantissa exponent b)
    (haq : a ≤ q) (hqb : q ≤ b) : Rounds mantissa exponent q := by
  have hpos : (0 : ℚ) ≤ 2 ^ (exponent - 2) := by positivity
  exact RoundingInterval.Contains.convex ha hb (div_le_div_of_nonneg_right haq hpos)
    (div_le_div_of_nonneg_right hqb hpos)

theorem Rounds.pos (hm : 0 < mantissa) (h : Rounds mantissa exponent q) : 0 < q := by
  have hpos : (0 : ℚ) < 2 ^ exponent := by positivity
  have hone : (1 : ℚ) ≤ mantissa := by exact_mod_cast hm
  have hquot : 0 < q / 2 ^ exponent := by linarith [h.bounds.1]
  rwa [div_pos_iff_of_pos_right hpos] at hquot

/-- What the search returns, before zeros at the end are dropped. -/
structure Found (mantissa : Nat) (exponent : Int) (point : Nat) (place : Int) : Prop where
  place_le : place ≤ decimalOrder mantissa exponent
  best : BestAt mantissa exponent place point
  coarser : ∀ p, place < p → p ≤ decimalOrder mantissa exponent →
    ∀ k : Nat, ¬ Rounds mantissa exponent (k * 10 ^ p)

theorem found_shortest (hcanonical : IsCanonical mantissa exponent) (hm : 0 < mantissa) :
    Found mantissa exponent (shortest mantissa exponent).1 (shortest mantissa exponent).2 := by
  obtain ⟨k, hk⟩ := exists_rounds_seventeen hcanonical hm
  have hhit : ∃ j < 17, ∃ k : Nat,
      Rounds mantissa exponent (k * 10 ^ (decimalOrder mantissa exponent - (j : Nat))) :=
    ⟨16, by decide, k, hk⟩
  obtain ⟨hle, hbest, hcoarser⟩ := searchGrids_spec hm hhit rfl
  exact ⟨hle, hbest, hcoarser⟩

/-- Powers of ten at least as coarse as a grid are multiples of its step. -/
theorem exists_point_of_le (d : Nat) {p place : Int} (h : place ≤ p) :
    ∃ k : Nat, (d : ℚ) * 10 ^ p = k * 10 ^ place := by
  refine ⟨d * 10 ^ (p - place).toNat, ?_⟩
  push_cast
  rw [mul_assoc, ← zpow_natCast, ← zpow_add₀ (by norm_num)]
  congr 2
  omega

theorem zpow_add_mul (d z : Nat) (p : Int) :
    (d : ℚ) * 10 ^ (p + z) = (d * 10 ^ z : Nat) * 10 ^ p := by
  rw [zpow_add₀ (by norm_num), zpow_natCast]
  push_cast
  ring

namespace Found

variable {point digits z : Nat} {place : Int}

/-- A search that stops at once stops at one of the points one to ten. -/
theorem point_bounds (h : Found mantissa exponent point (decimalOrder mantissa exponent))
    (hcanonical : IsCanonical mantissa exponent) (hm : 0 < mantissa) : 0 < point ∧ point ≤ 10 := by
  have hrounds := h.best.rounds
  have hstep : (0 : ℚ) < 10 ^ decimalOrder mantissa exponent := by positivity
  refine ⟨Nat.pos_of_ne_zero ?_, not_lt.mp fun hlt => ?_⟩
  · rintro rfl
    simpa using hrounds.pos hm
  · -- otherwise ten is nearer
    have hhigh := (decimalOrder_spec hcanonical hm).2
    rw [zpow_add_one₀ (by norm_num), mul_comm] at hhigh
    have hpoint : ((10 : Nat) : ℚ) * 10 ^ decimalOrder mantissa exponent <
        point * 10 ^ decimalOrder mantissa exponent :=
      mul_lt_mul_of_pos_right (by exact_mod_cast hlt) hstep
    have hten := (rounds_magnitude hm).convex hrounds hhigh.le hpoint.le
    have hnearest := h.best.nearest 10 (by exact_mod_cast hten)
    push_cast at hpoint hnearest
    rw [abs_of_pos (by linarith), abs_of_pos (by linarith)] at hnearest
    linarith

theorem isShortest_of_best (hcanonical : IsCanonical mantissa exponent) (hm : 0 < mantissa)
    {p₀ : Int} (hbest : BestAt mantissa exponent p₀ point)
    (hvalue : (digits : ℚ) * 10 ^ place = point * 10 ^ p₀)
    (hfewest : ∀ (d : Nat) (p : Int), Rounds mantissa exponent (d * 10 ^ p) →
      digitCount digits ≤ digitCount d)
    (hcompare : ∀ (d : Nat) (p : Int), Rounds mantissa exponent (d * 10 ^ p) →
      digitCount d = digitCount digits → (∃ k : Nat, (d : ℚ) * 10 ^ p = k * 10 ^ p₀) ∨
        |point * 10 ^ p₀ - magnitude mantissa exponent| <
          |d * 10 ^ p - magnitude mantissa exponent|) :
    IsShortest negative mantissa exponent digits place := by
  simp only [← ofDecimal_eq_finite_iff negative hcanonical hm] at hfewest hcompare
  refine ⟨(ofDecimal_eq_finite_iff negative hcanonical hm).mpr (hvalue ▸ hbest.rounds), hfewest,
    fun d p hd hcount => ?_, fun d p hd hcount hdist => ?_⟩
  · rw [hvalue]
    rcases hcompare d p hd hcount with ⟨k, hk⟩ | hfar
    · rw [ofDecimal_eq_finite_iff negative hcanonical hm, hk] at hd
      exact hk ▸ hbest.nearest k hd
    · exact hfar.le
  · rw [hvalue] at hdist ⊢
    rcases hcompare d p hd hcount with ⟨k, hk⟩ | hfar
    · rw [ofDecimal_eq_finite_iff negative hcanonical hm, hk] at hd
      rw [hk] at hdist ⊢
      exact mul_le_mul_of_nonneg_right (by exact_mod_cast hbest.upper k hd hdist) (by positivity)
    · exact absurd hdist hfar.ne'

/-- If the coarsest grid has no point in the interval then all decimals in it have the same order of
magnitude. -/
theorem digitCount_add (h : Found mantissa exponent point place)
    (hcanonical : IsCanonical mantissa exponent) (hm : 0 < mantissa)
    (hlt : place < decimalOrder mantissa exponent) {d : Nat} {p : Int}
    (hd : Rounds mantissa exponent (d * 10 ^ p)) :
    digitCount d + p = decimalOrder mantissa exponent + 1 := by
  obtain ⟨hlow, hhigh⟩ := decimalOrder_spec hcanonical hm
  have hempty := h.coarser _ hlt le_rfl
  have hpos : 0 < d := by
    refine Nat.pos_of_ne_zero ?_
    rintro rfl
    simpa using hd.pos hm
  obtain ⟨hdlow, hdhigh⟩ := decimal_bounds hpos p
  have habove : (10 : ℚ) ^ decimalOrder mantissa exponent ≤ d * 10 ^ p := by
    by_contra hbelow
    refine hempty 1 ?_
    rw [Nat.cast_one, one_mul]
    exact hd.convex (rounds_magnitude hm) (not_le.mp hbelow).le hlow
  have hbelow : (d : ℚ) * 10 ^ p < 10 ^ (decimalOrder mantissa exponent + 1) := by
    by_contra habove
    refine hempty 10 ?_
    have hten : (10 : ℚ) ^ (decimalOrder mantissa exponent + 1) =
        (10 : Nat) * 10 ^ decimalOrder mantissa exponent := by
      rw [zpow_add_one₀ (by norm_num), mul_comm]
      rfl
    rw [hten] at hhigh habove
    exact (rounds_magnitude hm).convex hd hhigh.le (not_lt.mp habove)
  have hle := (zpow_lt_zpow_iff_right₀ (by norm_num)).mp (hdlow.trans_lt hbelow)
  have hge := (zpow_lt_zpow_iff_right₀ (by norm_num)).mp (habove.trans_lt hdhigh)
  omega

theorem isShortest_of_eq (h : Found mantissa exponent point (decimalOrder mantissa exponent))
    (hcanonical : IsCanonical mantissa exponent) (hm : 0 < mantissa)
    (hpoint : point = digits * 10 ^ z) (hlast : digits % 10 ≠ 0) :
    IsShortest negative mantissa exponent digits (decimalOrder mantissa exponent + z) := by
  obtain ⟨hpos, hten⟩ := h.point_bounds hcanonical hm
  have hdigits : digits < 10 := by
    have hle : digits ≤ point := hpoint ▸ Nat.le_mul_of_pos_right digits (Nat.pow_pos (by decide))
    omega
  have hcount : digitCount digits = 1 := by rw [digitCount, Nat.toDigits_of_lt_base hdigits]; rfl
  refine isShortest_of_best hcanonical hm h.best (hpoint ▸ zpow_add_mul digits z _)
    (fun d p hd => hcount ▸ digitCount_pos d) fun d p hd hdcount => ?_
  rcases le_or_gt (decimalOrder mantissa exponent) p with hp | hp
  · exact .inl (exists_point_of_le d hp)
  · -- one digit at a finer place lies below all points of the grid
    obtain ⟨hlow, -⟩ := decimalOrder_spec hcanonical hm
    have hdpos : 0 < d := by
      refine Nat.pos_of_ne_zero ?_
      rintro rfl
      simpa using hd.pos hm
    have hsmall : (d : ℚ) * 10 ^ p < 10 ^ decimalOrder mantissa exponent := by
      refine (decimal_bounds hdpos p).2.trans_le (zpow_le_zpow_right₀ (by norm_num) ?_)
      omega
    have hone : Rounds mantissa exponent ((1 : Nat) * 10 ^ decimalOrder mantissa exponent) := by
      rw [Nat.cast_one, one_mul]
      exact hd.convex (rounds_magnitude hm) hsmall.le hlow
    have hnearest := h.best.nearest 1 hone
    rw [Nat.cast_one, one_mul] at hnearest
    refine .inr (hnearest.trans_lt ?_)
    rw [abs_of_nonpos (by linarith), abs_of_nonpos (by linarith)]
    linarith

theorem isShortest_of_lt (h : Found mantissa exponent point place)
    (hcanonical : IsCanonical mantissa exponent) (hm : 0 < mantissa)
    (hlt : place < decimalOrder mantissa exponent) (hpoint : point = digits * 10 ^ z) :
    IsShortest negative mantissa exponent digits (place + z) := by
  have hvalue : (digits : ℚ) * 10 ^ (place + z) = point * 10 ^ place :=
    hpoint ▸ zpow_add_mul digits z place
  have hplace := h.digitCount_add hcanonical hm hlt (hvalue ▸ h.best.rounds)
  refine isShortest_of_best hcanonical hm h.best hvalue (fun d p hd => ?_) fun d p hd hcount => ?_
  · -- fewer digits of the same order of magnitude lie on a coarser grid
    have hdplace := h.digitCount_add hcanonical hm hlt hd
    have hdcount := digitCount_pos d
    by_contra hfewer
    exact h.coarser p (by omega) (by omega) d hd
  · have hdplace := h.digitCount_add hcanonical hm hlt hd
    exact .inl (exists_point_of_le d (by omega))

end Found

/-- **Shortest decimals.** Without the zeros at its end, what the search returns is the shortest
decimal that reads back as the number. -/
theorem isShortest_of_shortest (hcanonical : IsCanonical mantissa exponent) (hm : 0 < mantissa)
    {digits z : Nat} (hdigits : (shortest mantissa exponent).1 = digits * 10 ^ z)
    (hlast : digits % 10 ≠ 0) :
    IsShortest negative mantissa exponent digits ((shortest mantissa exponent).2 + z) := by
  have hfound := found_shortest hcanonical hm
  rcases eq_or_lt_of_le hfound.place_le with heq | hlt
  · rw [heq] at hfound ⊢
    exact hfound.isShortest_of_eq hcanonical hm hdigits hlast
  · exact hfound.isShortest_of_lt hcanonical hm hlt hdigits

/-- There is only one shortest decimal without a zero at its end. -/
theorem IsShortest.unique {digits digits' : Nat} {place place' : Int}
    (h : IsShortest negative mantissa exponent digits place)
    (h' : IsShortest negative mantissa exponent digits' place')
    (hlast : digits % 10 ≠ 0) (hlast' : digits' % 10 ≠ 0) : digits = digits' ∧ place = place' := by
  have hcount := le_antisymm (h.fewest _ _ h'.readsBack) (h'.fewest _ _ h.readsBack)
  have hdist := le_antisymm (h.nearest _ _ h'.readsBack hcount.symm)
    (h'.nearest _ _ h.readsBack hcount)
  have hvalue := le_antisymm (h'.upper _ _ h.readsBack hcount hdist)
    (h.upper _ _ h'.readsBack hcount.symm hdist.symm)
  -- the one with the finer place would end in a zero
  have hle : ∀ {d d' : Nat} {p p' : Int},
      (d : ℚ) * 10 ^ p = d' * 10 ^ p' → d % 10 ≠ 0 → p' ≤ p := by
    intro d d' p p' hvalue hlast
    by_contra hlt
    obtain ⟨z, hz⟩ : ∃ z : Nat, p' = p + (z + 1 : Nat) := ⟨(p' - p - 1).toNat, by omega⟩
    rw [hz, zpow_add_mul] at hvalue
    have hd := mul_right_cancel₀ (by positivity : (10 : ℚ) ^ p ≠ 0) hvalue
    have hd : d = d' * 10 ^ (z + 1) := by exact_mod_cast hd
    rw [pow_succ, ← mul_assoc] at hd
    omega
  obtain rfl := le_antisymm (hle hvalue.symm hlast') (hle hvalue hlast)
  have hdigits := mul_right_cancel₀ (by positivity : (10 : ℚ) ^ place ≠ 0) hvalue
  exact ⟨by exact_mod_cast hdigits, rfl⟩

end TableForge.Binary64
