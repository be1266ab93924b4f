import TableForge.Decimal.Positional
import TableForge.Proofs.Decimal.Shortest

/-!
# How numbers are written

`ShownAs` says which text a number has: all digits of a whole number and `.0`, the shortest decimal
that reads back of any other, and words for what is not finite. Every number that was read has this
text, and no other one.
-/
namespace TableForge

/-! ## Positional notation -/

/-- `whole` and `places` are the digits in front of a point and behind it, without a zero too many at
either end. -/
structure IsPositional (whole places : List Char) : Prop where
  whole_numeral : IsNumeral 1 (Nat.ofDigitChars 10 whole 0) whole
  places_digit : ∀ c ∈ places, c.isDigit = true
  places_last : places.getLast? ≠ some '0'

theorem IsNumeral.take {count n k : Nat} {text : List Char} (h : IsNumeral (count + 1) n text)
    (hk : k = text.length - count) :
    IsNumeral 1 (Nat.ofDigitChars 10 (text.take k) 0) (text.take k) := by
  have hle := h.width_le
  refine ⟨fun c hc => h.digits c (List.mem_of_mem_take hc), rfl, ?_, fun hlong => ?_⟩
  · rw [List.length_take]
    omega
  · rw [List.length_take] at hlong
    rw [List.head?_take, if_neg (by omega)]
    exact h.head (by omega)

/-- The point is put in front of the last places, and zeros at the end are dropped. -/
theorem positional_neg (n : Nat) {count : Nat} (hcount : 0 < count) :
    ∃ whole places : List Char, ∃ z : Nat, IsPositional whole places ∧
      n = Nat.ofDigitChars 10 (whole ++ places) 0 * 10 ^ z ∧ count = places.length + z ∧
      positional n (-count) = if places = [] then whole else whole ++ '.' :: places := by
  have hpadded := (isNumeral_toDigits n).pad (Nat.succ_pos count)
  generalize hp : List.replicate (count + 1 - (Nat.toDigits 10 n).length) '0' ++
    Nat.toDigits 10 n = padded at hpadded
  have hle := hpadded.width_le
  obtain ⟨k, hk⟩ : ∃ k, k = padded.length - count := ⟨_, rfl⟩
  obtain ⟨dropped, hfraction, hdropped⟩ :=
    Text.exists_eq_trimRight_append (fun c => decide (c = '0')) (padded.drop k)
  have hzeros : dropped = List.replicate dropped.length '0' :=
    List.eq_replicate_of_mem fun c hc => of_decide_eq_true (hdropped c hc)
  have hlast : ∀ c, (Text.trimRight (fun c => decide (c = '0')) (padded.drop k)).getLast? =
      some c → decide (c = '0') = false :=
    fun c => Text.drop_eq_false_of_getLast?_trimRight
  have hdef : positional n (-count) =
      if Text.trimRight (fun c => decide (c = '0')) (padded.drop k) = [] then padded.take k
      else padded.take k ++ '.' :: Text.trimRight (fun c => decide (c = '0')) (padded.drop k) := by
    rw [positional, if_neg (by omega)]
    dsimp only
    rw [neg_neg, Int.toNat_natCast, hp, hk]
  generalize Text.trimRight (fun c => decide (c = '0')) (padded.drop k) = places at *
  refine ⟨padded.take k, places, dropped.length, ⟨hpadded.take hk, fun c hc => ?_, fun h => ?_⟩,
    ?_, ?_, hdef⟩
  · refine hpadded.digits c (List.mem_of_mem_drop (i := k) ?_)
    rw [hfraction]
    exact List.mem_append_left _ hc
  · simpa using hlast '0' h
  · rw [← hpadded.value]
    conv_lhs => rw [← List.take_append_drop k padded, hfraction, hzeros]
    rw [← List.append_assoc, Nat.ofDigitChars_append, Nat.ofDigitChars_replicate_zero, mul_comm]
  · have hlength := congrArg List.length hfraction
    rw [List.length_drop, List.length_append] at hlength
    omega

/-- The last digit behind the point is the last one of the number. -/
theorem IsPositional.mod_ten_ne_zero {whole places : List Char} (h : IsPositional whole places)
    (hne : places ≠ []) : Nat.ofDigitChars 10 (whole ++ places) 0 % 10 ≠ 0 := by
  obtain rfl | ⟨front, c, rfl⟩ := List.eq_nil_or_concat' places
  · exact absurd rfl hne
  · have hc := h.places_digit c (by simp)
    have hlt := toNat_sub_lt_ten hc
    have hpos : c.toNat - '0'.toNat ≠ 0 := by
      intro hzero
      refine h.places_last ?_
      rw [List.getLast?_concat, isDigit_injective hc (d := '0') rfl hzero]
    rw [← List.append_assoc, ofDigitChars_concat]
    omega

/-- The digits around a point are told by their value and the place of the point. -/
theorem IsPositional.unique {front places front' places' : List Char}
    (h : IsPositional front places) (h' : IsPositional front' places')
    (hlength : places.length = places'.length)
    (hvalue : Nat.ofDigitChars 10 (front ++ places) 0 = Nat.ofDigitChars 10 (front' ++ places') 0) :
    front = front' ∧ places = places' := by
  rw [ofDigitChars_append_eq, ofDigitChars_append_eq, ← hlength] at hvalue
  have hlt := ofDigitChars_lt h.places_digit
  have hlt' := ofDigitChars_lt h'.places_digit
  rw [← hlength] at hlt'
  have hpos : 0 < 10 ^ places.length := Nat.pow_pos (by decide)
  have hfront : Nat.ofDigitChars 10 front 0 = Nat.ofDigitChars 10 front' 0 := by
    have hdiv := congrArg (· / 10 ^ places.length) hvalue
    simpa only [Nat.mul_add_div hpos, Nat.div_eq_of_lt hlt, Nat.div_eq_of_lt hlt', Nat.add_zero]
      using hdiv
  refine ⟨IsNumeral.unique Nat.one_pos (hfront ▸ h.whole_numeral) h'.whole_numeral, ?_⟩
  rw [hfront, Nat.add_left_cancel_iff] at hvalue
  exact eq_of_ofDigitChars_eq h.places_digit h'.places_digit hlength hvalue

namespace Binary64

/-- What a number is written as. -/
inductive ShownAs : Binary64 → String → Prop
  | nan : ShownAs nan "NaN"
  | infinite {negative : Bool} : ShownAs (infinite negative) (if negative then "-inf" else "inf")
  /-- A whole number shows all its digits and one place behind the point. -/
  | whole {negative : Bool} {mantissa : Nat} {exponent : Int} {n : Nat} {digits : List Char}
    (hvalue : magnitude mantissa exponent = n) (hdigits : IsNumeral 1 n digits) :
    ShownAs (finite negative mantissa exponent)
      ((if negative then "-" else "") ++ String.ofList digits ++ ".0")
  /-- Any other number shows the shortest decimal that reads back. -/
  | fraction {negative : Bool} {mantissa : Nat} {exponent : Int} {front places : List Char}
    (hvalue : ∀ n : Nat, magnitude mantissa exponent ≠ n) (hne : places ≠ [])
    (hdigits : IsPositional front places)
    (hshortest : IsShortest negative mantissa exponent
      (Nat.ofDigitChars 10 (front ++ places) 0) (-places.length)) :
    ShownAs (finite negative mantissa exponent)
      ((if negative then "-" else "") ++ String.ofList (front ++ '.' :: places))

variable {mantissa : Nat} {exponent : Int} {negative : Bool}

/-! ## Whole numbers -/

theorem magnitude_neg (mantissa k : Nat) : magnitude mantissa (-k) = mantissa / (2 ^ k : Nat) := by
  rw [magnitude, zpow_neg, zpow_natCast, ← div_eq_mul_inv]
  push_cast
  rfl

theorem wholePart?_eq_some_iff {n : Nat} :
    wholePart? mantissa exponent = some n ↔ magnitude mantissa exponent = n := by
  unfold wholePart?
  split
  · next he =>
    obtain ⟨k, rfl⟩ := Int.eq_ofNat_of_zero_le he
    rw [Option.some.injEq, magnitude, zpow_natCast, Int.toNat_natCast, Nat.pow_eq]
    exact_mod_cast Iff.rfl
  · next he =>
    obtain ⟨k, hk⟩ := Int.eq_ofNat_of_zero_le (Int.neg_nonneg.mpr (not_le.mp he).le)
    obtain rfl : exponent = -(k : Int) := by omega
    have hpos : 0 < 2 ^ k := Nat.two_pow_pos k
    have hpos' : ((2 ^ k : Nat) : ℚ) ≠ 0 := by positivity
    dsimp only
    rw [neg_neg, Int.toNat_natCast, Nat.pow_eq, magnitude_neg, div_eq_iff hpos']
    split
    · next hmod =>
      rw [Option.some.injEq, Nat.div_eq_iff_eq_mul_left hpos (Nat.dvd_of_mod_eq_zero hmod)]
      exact_mod_cast Iff.rfl
    · next hmod =>
      refine iff_of_false (by simp) fun h => hmod ?_
      have h : mantissa = n * 2 ^ k := by exact_mod_cast h
      rw [h, Nat.mul_mod_left]

theorem wholePart?_eq_none_iff :
    wholePart? mantissa exponent = none ↔ ∀ n : Nat, magnitude mantissa exponent ≠ n := by
  simp only [Option.eq_none_iff_forall_ne_some, ne_eq, wholePart?_eq_some_iff]

/-- No whole number rounds to a number with a fraction: they are too far apart. -/
theorem not_rounds_natCast (h : ∀ n : Nat, magnitude mantissa exponent ≠ n) (n : Nat) :
    ¬ Rounds mantissa exponent n := by
  intro hrounds
  rcases le_or_gt 0 exponent with he | he
  · obtain ⟨k, rfl⟩ := Int.eq_ofNat_of_zero_le he
    refine h (mantissa * 2 ^ k) ?_
    rw [magnitude, zpow_natCast]
    push_cast
    rfl
  · obtain ⟨k, hk⟩ := Int.eq_ofNat_of_zero_le (Int.neg_nonneg.mpr he.le)
    obtain rfl : exponent = -(k : Int) := by omega
    obtain ⟨hlow, hhigh⟩ := hrounds.bounds
    have hquot : (n : ℚ) / 2 ^ (-(k : Int)) = (n * 2 ^ k : Nat) := by
      rw [zpow_neg, zpow_natCast, div_inv_eq_mul]
      push_cast
      rfl
    rw [hquot] at hlow hhigh
    have hle : mantissa < n * 2 ^ k + 1 := by
      have hlt : (mantissa : ℚ) < (n * 2 ^ k + 1 : Nat) := by
        rw [Nat.cast_succ]
        linarith
      exact_mod_cast hlt
    have hge : n * 2 ^ k < mantissa + 1 := by
      have hlt : ((n * 2 ^ k : Nat) : ℚ) < (mantissa + 1 : Nat) := by
        rw [Nat.cast_succ]
        linarith
      exact_mod_cast hlt
    obtain rfl : mantissa = n * 2 ^ k := by omega
    refine h n ?_
    rw [magnitude_neg, div_eq_iff (by positivity)]
    push_cast
    rfl

/-! ## The text of a number -/

theorem shownAs_fraction (hcanonical : IsCanonical mantissa exponent)
    (h : ∀ n : Nat, magnitude mantissa exponent ≠ n) :
    ShownAs (finite negative mantissa exponent) ((if negative then "-" else "") ++
      String.ofList (positional (shortest mantissa exponent).1 (shortest mantissa exponent).2)) := by
  have hm : 0 < mantissa := by
    refine Nat.pos_of_ne_zero fun hzero => h 0 ?_
    rw [hzero, magnitude, Nat.cast_zero, zero_mul]
  have hrounds := (found_shortest hcanonical hm).best.rounds
  have hshortest : ∀ digits z : Nat, (shortest mantissa exponent).1 = digits * 10 ^ z →
      digits % 10 ≠ 0 →
        IsShortest negative mantissa exponent digits ((shortest mantissa exponent).2 + z) :=
    fun _ _ => isShortest_of_shortest hcanonical hm
  generalize (shortest mantissa exponent).1 = point at *
  generalize (shortest mantissa exponent).2 = place at *
  have hplace : place < 0 := by
    refine not_le.mp fun hle => ?_
    obtain ⟨k, hk⟩ := exists_point_of_le point hle
    rw [zpow_zero, mul_one] at hk
    exact not_rounds_natCast h k (hk ▸ hrounds)
  obtain ⟨count, hcount⟩ := Int.eq_ofNat_of_zero_le (Int.neg_nonneg.mpr hplace.le)
  obtain rfl : place = -(count : Int) := by omega
  obtain ⟨front, places, z, hdigits, hpoint, hplaces, htext⟩ :=
    positional_neg point (show 0 < count by omega)
  have hz : -(count : Int) + z = -places.length := by omega
  by_cases hne : places = []
  · subst hne
    refine absurd hrounds ?_
    rw [hpoint, ← zpow_add_mul, hz, List.length_nil, Nat.cast_zero, neg_zero, zpow_zero, mul_one]
    exact not_rounds_natCast h _
  · rw [htext, if_neg hne]
    refine .fraction h hne hdigits ?_
    rw [← hz]
    exact hshortest _ z hpoint (hdigits.mod_ten_ne_zero hne)

theorem shownAs_text {number : Binary64} (h : number.Canonical) : number.ShownAs number.text := by
  cases number with
  | nan => exact .nan
  | infinite negative => exact .infinite
  | finite negative mantissa exponent =>
    unfold text
    dsimp only
    split
    · next n hwhole =>
      rw [Nat.toString_eq_ofList_toDigits]
      exact .whole (wholePart?_eq_some_iff.mp hwhole) (isNumeral_toDigits n)
    · next hwhole => exact shownAs_fraction h (wholePart?_eq_none_iff.mp hwhole)

theorem ShownAs.unique {number : Binary64} {s t : String} (hs : number.ShownAs s)
    (ht : number.ShownAs t) : s = t := by
  cases hs with
  | nan => cases ht with | nan => rfl
  | infinite => cases ht with | infinite => rfl
  | whole hvalue hdigits =>
    cases ht with
    | whole hvalue' hdigits' =>
      have hn := hvalue.symm.trans hvalue'
      rw [Nat.cast_inj] at hn
      rw [hdigits.unique Nat.one_pos (hn ▸ hdigits')]
    | fraction hvalue' => exact absurd hvalue (hvalue' _)
  | fraction hvalue hne hdigits hshortest =>
    cases ht with
    | whole hvalue' => exact absurd hvalue' (hvalue _)
    | fraction _ hne' hdigits' hshortest' =>
      obtain ⟨hpoint, hplace⟩ := hshortest.unique hshortest' (hdigits.mod_ten_ne_zero hne)
        (hdigits'.mod_ten_ne_zero hne')
      obtain ⟨rfl, rfl⟩ := hdigits.unique hdigits' (by omega) hpoint
      rfl

/-- **Texts of numbers.** A number that was read is written as it is to be shown, and only so. -/
theorem text_eq_iff {number : Binary64} (h : number.Canonical) {text : String} :
    number.text = text ↔ number.ShownAs text :=
  ⟨fun he => he ▸ shownAs_text h, fun hs => (shownAs_text h).unique hs⟩

end Binary64

end TableForge
