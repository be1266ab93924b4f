import TableForge.Proofs.Decimal.Text
import TableForge.Proofs.Toml.Decoding

/-!
# The texts of scalars

`Value.ShownAs` says which text each kind of scalar has: a string is its own text, integers and
floats are written in decimal, truth values are words, and a date-time has the fixed layout of dates
and times with their widths. Within range exactly the scalars have a text, and it is the one shown.
-/
namespace TableForge.Toml

/-! ## The texts -/

/-- A date has four digits for the year and two each for month and day. -/
inductive Date.ShownAs (d : Date) : List Char → Prop
  | intro {year month day : List Char} (hyear : IsNumeral 4 d.year year)
    (hmonth : IsNumeral 2 d.month month) (hday : IsNumeral 2 d.day day) :
    ShownAs d (year ++ '-' :: month ++ '-' :: day)

/-- A fraction of a second has up to nine digits, without zeros at the end. -/
inductive FractionShownAs (nanosecond : Nat) : List Char → Prop
  | none (hzero : nanosecond = 0) : FractionShownAs nanosecond []
  | some {digits : List Char} {zeros : Nat} (hne : digits ≠ []) (hlast : digits.getLast? ≠ some '0')
    (hdigits : IsNumeral 9 nanosecond (digits ++ List.replicate zeros '0')) :
    FractionShownAs nanosecond ('.' :: digits)

/-- A time of day has two digits each for hour, minute and second. -/
inductive Time.ShownAs (t : Time) : List Char → Prop
  | intro {hour minute second fraction : List Char} (hhour : IsNumeral 2 t.hour hour)
    (hminute : IsNumeral 2 t.minute minute) (hsecond : IsNumeral 2 t.second second)
    (hfraction : FractionShownAs t.nanosecond fraction) :
    ShownAs t (hour ++ ':' :: minute ++ ':' :: second ++ fraction)

/-- An offset other than UTC has a sign and two digits each for hours and minutes. -/
inductive OffsetShownAs : Option Offset → List Char → Prop
  | none : OffsetShownAs none []
  | utc : OffsetShownAs (some .utc) ['Z']
  | minutes {count : Int} {hours minutes : List Char}
    (hhours : IsNumeral 2 (count.natAbs / 60) hours)
    (hminutes : IsNumeral 2 (count.natAbs % 60) minutes) :
    OffsetShownAs (some (.minutes count))
      ((if count < 0 then '-' else '+') :: hours ++ ':' :: minutes)

inductive Datetime.ShownAs : Datetime → String → Prop
  | date {d : Date} {text : List Char} (h : d.ShownAs text) : ShownAs (date d) (String.ofList text)
  | time {t : Time} {text : List Char} (h : t.ShownAs text) : ShownAs (time t) (String.ofList text)
  | moment {d : Date} {t : Time} {offset : Option Offset} {day clock shift : List Char}
    (hdate : d.ShownAs day) (htime : t.ShownAs clock) (hoffset : OffsetShownAs offset shift) :
    ShownAs (moment d t offset) (String.ofList (day ++ 'T' :: clock ++ shift))

/-- What a scalar is written as. -/
inductive Value.ShownAs : Value → String → Prop
  | string {text : String} : ShownAs (string text) text
  | integer {n : Int} {digits : List Char} (h : IsNumeral 1 n.natAbs digits) :
    ShownAs (integer n) ((if n < 0 then "-" else "") ++ String.ofList digits)
  | float {number : Binary64} {text : String} (h : number.ShownAs text) :
    ShownAs (float number) text
  | boolean {flag : Bool} : ShownAs (boolean flag) (if flag then "true" else "false")
  | datetime {moment : Datetime} {text : String} (h : moment.ShownAs text) :
    ShownAs (datetime moment) text

/-! ## Dates and times -/

theorem Date.shownAs_text (d : Date) : d.ShownAs d.text.toList := by
  have h := ShownAs.intro (isNumeral_padded 4 d.year (by decide))
    (isNumeral_padded 2 d.month (by decide))
    (isNumeral_padded 2 d.day (by decide))
  simpa [text] using h

theorem fractionShownAs_fractionText (nanosecond : Nat) :
    FractionShownAs nanosecond (fractionText nanosecond).toList := by
  have hpadded := isNumeral_padded 9 nanosecond (by decide)
  obtain ⟨dropped, hdigits, hdropped⟩ :=
    Text.exists_eq_trimRight_append (fun c => decide (c = '0')) (padded 9 nanosecond).toList
  have hzeros : dropped = List.replicate dropped.length '0' :=
    List.eq_replicate_of_mem fun c hc => of_decide_eq_true (hdropped c hc)
  have hlast : ∀ c, (Text.trimRight (fun c => decide (c = '0'))
      (padded 9 nanosecond).toList).getLast? = some c → decide (c = '0') = false :=
    fun c => Text.drop_eq_false_of_getLast?_trimRight
  unfold fractionText
  generalize Text.trimRight (fun c => decide (c = '0')) (padded 9 nanosecond).toList = kept at *
  cases kept with
  | nil =>
    refine .none ?_
    rw [List.nil_append, hzeros] at hdigits
    rw [← hpadded.value, hdigits, Nat.ofDigitChars_replicate_zero, Nat.mul_zero]
  | cons c rest =>
    have hnotzero : (c :: rest).getLast? ≠ some '0' := fun h => by
      have hfalse := hlast '0' h
      simp at hfalse
    have htext : ("." ++ String.ofList (c :: rest)).toList = '.' :: c :: rest := by simp
    rw [hdigits, hzeros] at hpadded
    rw [htext]
    exact .some (List.cons_ne_nil c rest) hnotzero hpadded

theorem Time.shownAs_text (t : Time) : t.ShownAs t.text.toList := by
  have h := ShownAs.intro (isNumeral_padded 2 t.hour (by decide))
    (isNumeral_padded 2 t.minute (by decide))
    (isNumeral_padded 2 t.second (by decide)) (fractionShownAs_fractionText t.nanosecond)
  simpa [text] using h

theorem offsetShownAs_text (offset : Option Offset) :
    OffsetShownAs offset (offset.elim "" Offset.text).toList := by
  cases offset with
  | none => exact .none
  | some offset =>
    cases offset with
    | utc => exact .utc
    | minutes count =>
      have hhours := isNumeral_padded 2 (count.natAbs / 60) (by decide)
      have hminutes := isNumeral_padded 2 (count.natAbs % 60) (by decide)
      have h : OffsetShownAs (some (.minutes count)) _ := .minutes hhours hminutes
      by_cases hneg : count < 0
      · simpa [Offset.text, hneg] using h
      · simpa [Offset.text, hneg] using h

theorem Datetime.shownAs_text (moment : Datetime) : moment.ShownAs moment.text := by
  cases moment with
  | date d => simpa [text] using ShownAs.date d.shownAs_text
  | time t => simpa [text] using ShownAs.time t.shownAs_text
  | moment d t offset =>
    have h := ShownAs.moment d.shownAs_text t.shownAs_text (offsetShownAs_text offset)
    have htext : (moment d t offset).text =
        String.ofList (d.text.toList ++ 'T' :: t.text.toList ++
          (offset.elim "" Offset.text).toList) := by
      rw [← String.toList_inj]
      simp [text]
    rwa [htext]

/-! ## Each text is the only one -/

theorem Date.ShownAs.unique {d : Date} {s t : List Char} (hs : d.ShownAs s) (ht : d.ShownAs t) :
    s = t := by
  obtain ⟨hyear, hmonth, hday⟩ := hs
  obtain ⟨hyear', hmonth', hday'⟩ := ht
  rw [hyear.unique (by decide) hyear', hmonth.unique (by decide) hmonth',
    hday.unique (by decide) hday']

/-- Zeros behind a digit other than zero can be told from it. -/
theorem eq_of_append_zeros_eq {s t : List Char} {m n : Nat} (hs : s.getLast? ≠ some '0')
    (ht : t.getLast? ≠ some '0')
    (h : s ++ List.replicate m '0' = t ++ List.replicate n '0') : s = t := by
  have htrim : ∀ {s : List Char} {m : Nat}, s.getLast? ≠ some '0' →
      Text.trimRight (fun c => decide (c = '0')) (s ++ List.replicate m '0') = s := by
    intro s m hs
    refine Text.trimRight_append (fun c hc => by simp [List.eq_of_mem_replicate hc]) fun c hc => ?_
    exact decide_eq_false fun hzero => hs (hzero ▸ hc)
  rw [← htrim hs, h, htrim ht]

/-- A fraction of zero has no digit other than zero, so none is left. -/
theorem not_isNumeral_zero {digits : List Char} {zeros : Nat} (hne : digits ≠ [])
    (hlast : digits.getLast? ≠ some '0') :
    ¬ IsNumeral 9 0 (digits ++ List.replicate zeros '0') := by
  intro h
  have hzeros : digits ++ List.replicate zeros '0' = [] ++ List.replicate 9 '0' :=
    h.unique (by decide) (isNumeral_zeros 9)
  exact hne (eq_of_append_zeros_eq hlast (by simp) hzeros)

theorem FractionShownAs.unique {nanosecond : Nat} {s t : List Char}
    (hs : FractionShownAs nanosecond s) (ht : FractionShownAs nanosecond t) : s = t := by
  cases hs with
  | none hzero =>
    cases ht with
    | none _ => rfl
    | some hne hlast hdigits => exact absurd (hzero ▸ hdigits) (not_isNumeral_zero hne hlast)
  | some hne hlast hdigits =>
    cases ht with
    | none hzero => exact absurd (hzero ▸ hdigits) (not_isNumeral_zero hne hlast)
    | some hne' hlast' hdigits' =>
      rw [eq_of_append_zeros_eq hlast hlast' (hdigits.unique (by decide) hdigits')]

theorem Time.ShownAs.unique {time : Time} {s t : List Char} (hs : time.ShownAs s)
    (ht : time.ShownAs t) : s = t := by
  obtain ⟨hhour, hminute, hsecond, hfraction⟩ := hs
  obtain ⟨hhour', hminute', hsecond', hfraction'⟩ := ht
  rw [hhour.unique (by decide) hhour', hminute.unique (by decide) hminute',
    hsecond.unique (by decide) hsecond', hfraction.unique hfraction']

theorem OffsetShownAs.unique {offset : Option Offset} {s t : List Char}
    (hs : OffsetShownAs offset s) (ht : OffsetShownAs offset t) : s = t := by
  cases hs with
  | none => cases ht with | none => rfl
  | utc => cases ht with | utc => rfl
  | minutes hhours hminutes =>
    cases ht with
    | minutes hhours' hminutes' =>
      rw [hhours.unique (by decide) hhours', hminutes.unique (by decide) hminutes']

theorem Datetime.ShownAs.unique {moment : Datetime} {s t : String} (hs : moment.ShownAs s)
    (ht : moment.ShownAs t) : s = t := by
  cases hs with
  | date h => cases ht with | date h' => rw [h.unique h']
  | time h => cases ht with | time h' => rw [h.unique h']
  | moment hdate htime hoffset =>
    cases ht with
    | moment hdate' htime' hoffset' =>
      rw [hdate.unique hdate', htime.unique htime', hoffset.unique hoffset']

namespace Value

theorem ShownAs.unique {v : Value} {s t : String} (hs : v.ShownAs s) (ht : v.ShownAs t) :
    s = t := by
  cases hs with
  | string => cases ht with | string => rfl
  | integer h => cases ht with | integer h' => rw [h.unique (by decide) h']
  | float h => cases ht with | float h' => exact h.unique h'
  | boolean => cases ht with | boolean => rfl
  | datetime h => cases ht with | datetime h' => exact h.unique h'

/-! ## Scalars -/

theorem shownAs_integer (n : Int) : (integer n).ShownAs (toString n) := by
  have hdigits : IsNumeral 1 n.natAbs (Nat.toDigits 10 n.natAbs) := isNumeral_toDigits n.natAbs
  have htext : toString n =
      (if n < 0 then "-" else "") ++ String.ofList (Nat.toDigits 10 n.natAbs) := by
    rw [← Nat.toString_eq_ofList_toDigits]
    cases n with
    | ofNat k => rfl
    | negSucc k =>
      rw [if_pos (Int.negSucc_lt_zero k)]
      rfl
  exact htext ▸ .integer hdigits

/-- **Texts of scalars.** A value that was read has exactly the text that its kind is shown as. -/
theorem scalarText?_eq_some_iff {v : Value} (h : v.IsCanonical) {text : String} :
    v.scalarText? = some text ↔ v.ShownAs text := by
  have hshown : ∀ {text : String}, v.scalarText? = some text → v.ShownAs text := by
    intro text htext
    cases v with
    | hugeFloat => cases htext
    | array _ => cases htext
    | table _ => cases htext
    | string _ =>
      cases htext
      exact .string
    | integer n =>
      cases htext
      exact shownAs_integer n
    | float number =>
      cases htext
      exact .float (Binary64.shownAs_text (h number rfl))
    | boolean _ =>
      cases htext
      exact .boolean
    | datetime moment =>
      cases htext
      exact .datetime moment.shownAs_text
  refine ⟨hshown, fun hs => ?_⟩
  have hsome : v.scalarText?.isSome = true := by cases hs <;> rfl
  obtain ⟨other, hother⟩ := Option.isSome_iff_exists.mp hsome
  rw [hother, (hshown hother).unique hs]

end Value

end TableForge.Toml
