import TableForge.Generation.Naming
import TableForge.Proofs.Dataset.Columns
import TableForge.Proofs.Text.WordSplit

/-!
# Pascal and camel case as projections

A name in Pascal or camel case has no separators left, so that putting it in either case once more
can only change its first letter. In ASCII the two forms of a name are therefore determined by each
other, and they are the letters and digits of the name up to case. Which letters change is said by
`capitalizeRuns`, which goes through the name once.
-/
namespace TableForge.Text

variable {name text letters : List Char}

/-! ## Letters in ASCII -/

/-- What the two cases of a character have to do with each other. -/
structure Casing (c : Char) : Prop where
  toUpper_toUpper : c.toUpper.toUpper = c.toUpper
  toLower_toUpper : c.toUpper.toLower = c.toLower
  toUpper_toLower : c.toLower.toUpper = c.toUpper
  toLower_toLower : c.toLower.toLower = c.toLower
  isUpper_toLower : c.toLower.isUpper = false

theorem casing_of_ascii {c : Char} (hascii : c.toNat < 128) : Casing c := by
  have htable : ∀ n < 128,
      (Char.ofNat n).toUpper.toUpper = (Char.ofNat n).toUpper ∧
      (Char.ofNat n).toUpper.toLower = (Char.ofNat n).toLower ∧
      (Char.ofNat n).toLower.toUpper = (Char.ofNat n).toUpper ∧
      (Char.ofNat n).toLower.toLower = (Char.ofNat n).toLower ∧
      (Char.ofNat n).toLower.isUpper = false := by
    decide
  have hc := htable c.toNat hascii
  rw [Char.ofNat_toNat] at hc
  exact ⟨hc.1, hc.2.1, hc.2.2.1, hc.2.2.2.1, hc.2.2.2.2⟩

/-- Lowercase keeps the letters and digits of ASCII apart from all other characters. -/
theorem toLower_ascii_iff (c : Char) :
    (c.toLower.toNat < 128 ↔ c.toNat < 128) ∧ isAlphanumeric c.toLower = isAlphanumeric c := by
  by_cases hascii : c.toNat < 128
  · have htable : ∀ n < 128, (Char.ofNat n).toLower.toNat < 128 ∧
        isAlphanumeric (Char.ofNat n).toLower = isAlphanumeric (Char.ofNat n) := by
      decide
    have hc := htable c.toNat hascii
    rw [Char.ofNat_toNat] at hc
    exact ⟨iff_of_true hc.1 hascii, hc.2⟩
  · have hlower : c.toLower = c := by
      refine dif_neg fun hupper => hascii ?_
      have hle : c.toNat ≤ 90 := hupper.2
      omega
    rw [hlower]
    exact ⟨Iff.rfl, rfl⟩

theorem lowerChar_of_ascii {c : Char} (hascii : c.toNat < 128) : lowerChar c = [c.toLower] :=
  if_pos hascii

/-! ## Which letters change -/

/-- Keeps the letters and digits of a text and puts the first one of every run into uppercase;
`inRun` tells whether the text goes on a run. -/
def capitalizeRuns (inRun : Bool) : List Char → List Char
  | [] => []
  | c :: rest =>
    if isAlphanumeric c then (if inRun then c else c.toUpper) :: capitalizeRuns true rest
    else capitalizeRuns false rest

/-- The first run is taken as it is if the text goes on a run. -/
theorem capitalizeRuns_of_runs {run : List Char} {more : List (List Char)}
    (hascii : ∀ c ∈ name, c.toNat < 128) (inRun : Bool) (hruns : runs name = run :: more) :
    capitalizeRuns inRun name =
      (if inRun then run else mapFirst upperChar run) ++ more.flatMap (mapFirst upperChar) := by
  induction name generalizing inRun run more with
  | nil =>
    obtain ⟨rfl, rfl⟩ := List.cons.inj hruns
    cases inRun <;> rfl
  | cons c rest ih =>
    obtain ⟨hc, hrest⟩ := List.forall_mem_cons.mp hascii
    obtain ⟨next, others, hnext⟩ := List.exists_cons_of_ne_nil (runs_ne_nil rest)
    rw [runs, hnext] at hruns
    by_cases halphanumeric : isAlphanumeric c = true
    · rw [if_pos halphanumeric, List.modifyHead_cons] at hruns
      obtain ⟨rfl, rfl⟩ := List.cons.inj hruns
      rw [capitalizeRuns, if_pos halphanumeric, ih hrest true hnext]
      cases inRun
      · simp [mapFirst, upperChar_of_ascii hc]
      · simp
    · rw [if_neg halphanumeric] at hruns
      obtain ⟨rfl, rfl⟩ := List.cons.inj hruns
      rw [capitalizeRuns, if_neg halphanumeric, ih hrest false hnext]
      cases inRun <;> simp [mapFirst]

theorem pascalCase_eq_capitalizeRuns (hascii : ∀ c ∈ name, c.toNat < 128) :
    pascalCase name = capitalizeRuns false name := by
  obtain ⟨run, more, hruns⟩ := List.exists_cons_of_ne_nil (runs_ne_nil name)
  rw [capitalizeRuns_of_runs hascii false hruns, pascalCase, hruns, List.flatMap_cons]
  rfl

theorem map_toLower_capitalizeRuns (hascii : ∀ c ∈ name, c.toNat < 128) (inRun : Bool) :
    (capitalizeRuns inRun name).map Char.toLower =
      (name.filter isAlphanumeric).map Char.toLower := by
  induction name generalizing inRun with
  | nil => rfl
  | cons c rest ih =>
    obtain ⟨hfirst, hrest⟩ := List.forall_mem_cons.mp hascii
    by_cases hc : isAlphanumeric c = true
    · cases inRun <;>
        simp [capitalizeRuns, hc, ih hrest, (casing_of_ascii hfirst).toLower_toUpper]
    · simp [capitalizeRuns, hc, ih hrest]

theorem modifyHead_toUpper_capitalizeRuns (hascii : ∀ c ∈ name, c.toNat < 128) :
    (capitalizeRuns false name).modifyHead Char.toUpper = capitalizeRuns false name := by
  induction name with
  | nil => rfl
  | cons c rest ih =>
    obtain ⟨hfirst, hrest⟩ := List.forall_mem_cons.mp hascii
    by_cases hc : isAlphanumeric c = true
    · simp [capitalizeRuns, hc, (casing_of_ascii hfirst).toUpper_toUpper]
    · simpa [capitalizeRuns, hc] using ih hrest

/-- A separator ends a run, wherever it stands. -/
theorem pascalCase_append_separator {c : Char} (hc : isAlphanumeric c = false)
    (part rest : List Char) :
    pascalCase (part ++ c :: rest) = pascalCase part ++ pascalCase rest := by
  simp only [pascalCase, runs_eq_splitOnP]
  rw [List.splitOnP_append_cons part rest (by rw [hc]; rfl), List.flatMap_append]

/-! ## Names in one run -/

/-- ASCII letters and digits, with no separator among them. -/
structure Unbroken (text : List Char) : Prop where
  ascii : ∀ c ∈ text, c.toNat < 128
  alphanumeric : ∀ c ∈ text, isAlphanumeric c = true

/-- Texts that are equal up to case are in one run together. -/
theorem Unbroken.of_map_toLower_eq (h : Unbroken letters)
    (heq : text.map Char.toLower = letters.map Char.toLower) : Unbroken text := by
  have hletter : ∀ c ∈ text, ∃ letter ∈ letters, letter.toLower = c.toLower := by
    intro c hc
    have hmem : c.toLower ∈ letters.map Char.toLower := heq ▸ List.mem_map_of_mem hc
    exact List.mem_map.mp hmem
  refine ⟨fun c hc => ?_, fun c hc => ?_⟩
  · obtain ⟨letter, hmem, hlower⟩ := hletter c hc
    rw [← (toLower_ascii_iff c).1, ← hlower, (toLower_ascii_iff letter).1]
    exact h.ascii letter hmem
  · obtain ⟨letter, hmem, hlower⟩ := hletter c hc
    rw [← (toLower_ascii_iff c).2, ← hlower, (toLower_ascii_iff letter).2]
    exact h.alphanumeric letter hmem

theorem Unbroken.pascalCase_eq (h : Unbroken text) :
    pascalCase text = text.modifyHead Char.toUpper := by
  have hruns := runs_append_of_alphanumeric h.alphanumeric []
  rw [List.append_nil] at hruns
  rw [pascalCase, hruns]
  cases text with
  | nil => rfl
  | cons c rest =>
    simp [runs, mapFirst, upperChar_of_ascii (h.ascii c List.mem_cons_self)]

theorem unbroken_filter (hascii : ∀ c ∈ name, c.toNat < 128) :
    Unbroken (name.filter isAlphanumeric) :=
  ⟨fun c hc => hascii c (List.mem_of_mem_filter hc), fun _ hc => List.of_mem_filter hc⟩

theorem map_toLower_pascalCase (hascii : ∀ c ∈ name, c.toNat < 128) :
    (pascalCase name).map Char.toLower = (name.filter isAlphanumeric).map Char.toLower := by
  rw [pascalCase_eq_capitalizeRuns hascii, map_toLower_capitalizeRuns hascii]

theorem unbroken_pascalCase (hascii : ∀ c ∈ name, c.toNat < 128) : Unbroken (pascalCase name) :=
  (unbroken_filter hascii).of_map_toLower_eq (map_toLower_pascalCase hascii)

/-- Camel case is Pascal case up to the first letter. -/
theorem camelCase_eq_modifyHead (hascii : ∀ c ∈ name, c.toNat < 128) :
    camelCase name = (pascalCase name).modifyHead Char.toLower := by
  have hunbroken := unbroken_pascalCase hascii
  rw [camelCase]
  cases hname : pascalCase name with
  | nil => rfl
  | cons c rest =>
    rw [hname] at hunbroken
    rw [mapFirst, lowerChar_of_ascii (hunbroken.ascii c List.mem_cons_self)]
    rfl

theorem map_toLower_camelCase (hascii : ∀ c ∈ name, c.toNat < 128) :
    (camelCase name).map Char.toLower = (name.filter isAlphanumeric).map Char.toLower := by
  have hunbroken := unbroken_pascalCase hascii
  rw [camelCase_eq_modifyHead hascii, ← map_toLower_pascalCase hascii]
  cases hname : pascalCase name with
  | nil => rfl
  | cons c rest =>
    rw [hname] at hunbroken
    have hcasing := casing_of_ascii (hunbroken.ascii c List.mem_cons_self)
    rw [List.modifyHead_cons, List.map_cons, List.map_cons, hcasing.toLower_toLower]

theorem unbroken_camelCase (hascii : ∀ c ∈ name, c.toNat < 128) : Unbroken (camelCase name) :=
  (unbroken_filter hascii).of_map_toLower_eq (map_toLower_camelCase hascii)

/-! ## Both cases in turn -/

theorem pascalCase_pascalCase (hascii : ∀ c ∈ name, c.toNat < 128) :
    pascalCase (pascalCase name) = pascalCase name := by
  rw [(unbroken_pascalCase hascii).pascalCase_eq, pascalCase_eq_capitalizeRuns hascii,
    modifyHead_toUpper_capitalizeRuns hascii]

/-- The first letter is put back into uppercase. -/
theorem pascalCase_camelCase (hascii : ∀ c ∈ name, c.toNat < 128) :
    pascalCase (camelCase name) = pascalCase name := by
  have hunbroken := unbroken_pascalCase hascii
  have hupper : ((pascalCase name).modifyHead Char.toLower).modifyHead Char.toUpper =
      (pascalCase name).modifyHead Char.toUpper := by
    cases hname : pascalCase name with
    | nil => rfl
    | cons c rest =>
      rw [hname] at hunbroken
      have hcasing := casing_of_ascii (hunbroken.ascii c List.mem_cons_self)
      rw [List.modifyHead_cons, List.modifyHead_cons, List.modifyHead_cons, hcasing.toUpper_toLower]
  rw [(unbroken_camelCase hascii).pascalCase_eq, camelCase_eq_modifyHead hascii, hupper,
    ← hunbroken.pascalCase_eq, pascalCase_pascalCase hascii]

theorem camelCase_pascalCase (hascii : ∀ c ∈ name, c.toNat < 128) :
    camelCase (pascalCase name) = camelCase name := by
  rw [camelCase_eq_modifyHead (unbroken_pascalCase hascii).ascii, pascalCase_pascalCase hascii,
    camelCase_eq_modifyHead hascii]

theorem camelCase_camelCase (hascii : ∀ c ∈ name, c.toNat < 128) :
    camelCase (camelCase name) = camelCase name := by
  rw [camelCase_eq_modifyHead (unbroken_camelCase hascii).ascii, pascalCase_camelCase hascii,
    camelCase_eq_modifyHead hascii]

/-- The first letter in camel case is not in uppercase. -/
theorem isUpper_of_mem_head?_camelCase (hascii : ∀ c ∈ name, c.toNat < 128) {c : Char}
    (hc : c ∈ (camelCase name).head?) : c.isUpper = false := by
  rw [camelCase_eq_modifyHead hascii, List.head?_modifyHead] at hc
  obtain ⟨first, hfirst, rfl⟩ := Option.map_eq_some_iff.mp hc
  have hmem : first ∈ pascalCase name := List.mem_of_mem_head? hfirst
  exact (casing_of_ascii ((unbroken_pascalCase hascii).ascii first hmem)).isUpper_toLower

end TableForge.Text

namespace TableForge.Naming

open Text (isAlphanumeric)

theorem toList_pascalCase (name : String) :
    (pascalCase name).toList = Text.pascalCase name.toList :=
  String.toList_ofList

theorem toList_camelCase (name : String) :
    (camelCase name).toList = Text.camelCase name.toList :=
  String.toList_ofList

/-- **Pascal and camel case are projections onto the same names.** Of a name in ASCII either form
can be put into the other and back, and putting it into the same case again changes nothing. Both
have the letters and digits of the name, up to case, and nothing else. A separator ends a run: what
stands before it and what stands behind it are put into Pascal case each on its own. In Pascal case
the first letter of every run is in uppercase and no other letter changes; in camel case the first
letter of all is not in uppercase. -/
theorem pascal_and_camel_case_project (name : String) (hascii : ∀ c ∈ name.toList, c.toNat < 128) :
    pascalCase (pascalCase name) = pascalCase name ∧
    camelCase (camelCase name) = camelCase name ∧
    pascalCase (camelCase name) = pascalCase name ∧
    camelCase (pascalCase name) = camelCase name ∧
    (∀ style ∈ [pascalCase, camelCase],
      (∀ c ∈ (style name).toList, isAlphanumeric c = true) ∧
      (style name).length = name.toList.countP isAlphanumeric ∧
      sameUpToCase (style name) (String.ofList (name.toList.filter isAlphanumeric)) = true) ∧
    (∀ (c : Char) (rest : String), isAlphanumeric c = false →
      pascalCase (name ++ String.singleton c ++ rest) = pascalCase name ++ pascalCase rest) ∧
    (pascalCase name).toList = Text.capitalizeRuns false name.toList ∧
    ∀ c ∈ (camelCase name).toList.head?, c.isUpper = false := by
  refine ⟨?_, ?_, ?_, ?_, fun style hstyle => ?_, fun c rest hc => ?_, ?_, ?_⟩
  · rw [pascalCase, toList_pascalCase, Text.pascalCase_pascalCase hascii, pascalCase]
  · rw [camelCase, toList_camelCase, Text.camelCase_camelCase hascii, camelCase]
  · rw [pascalCase, toList_camelCase, Text.pascalCase_camelCase hascii, pascalCase]
  · rw [camelCase, toList_pascalCase, Text.camelCase_pascalCase hascii, camelCase]
  · have hletters : (style name).toList.map Char.toLower =
        (name.toList.filter isAlphanumeric).map Char.toLower := by
      rcases List.mem_pair.mp hstyle with rfl | rfl
      · rw [toList_pascalCase, Text.map_toLower_pascalCase hascii]
      · rw [toList_camelCase, Text.map_toLower_camelCase hascii]
    refine ⟨((Text.unbroken_filter hascii).of_map_toLower_eq hletters).alphanumeric, ?_, ?_⟩
    · have hlength := congrArg List.length hletters
      rwa [List.length_map, List.length_map, ← List.countP_eq_length_filter,
        String.length_toList] at hlength
    · rw [sameUpToCase_iff, String.toList_ofList, hletters]
  · rw [pascalCase, String.toList_append, String.toList_append, String.toList_singleton,
      List.append_assoc, List.singleton_append, Text.pascalCase_append_separator hc,
      String.ofList_append, pascalCase, pascalCase]
  · rw [toList_pascalCase, Text.pascalCase_eq_capitalizeRuns hascii]
  · rw [toList_camelCase]
    exact fun c hc => Text.isUpper_of_mem_head?_camelCase hascii hc

/-- A name with separators at its ends, two in a row, and a run that begins with a digit. -/
def weaponName : String := "_iron--2h sWord.Kind "

theorem pascal_and_camel_case_project_weapon :
    (∀ c ∈ weaponName.toList, c.toNat < 128) ∧
    pascalCase weaponName = "Iron2hSWordKind" ∧
    pascalCase (pascalCase weaponName) = "Iron2hSWordKind" ∧
    camelCase weaponName = "iron2hSWordKind" ∧
    (camelCase weaponName).length = weaponName.toList.countP isAlphanumeric ∧
    pascalCase (camelCase weaponName) = "Iron2hSWordKind" ∧
    isAlphanumeric '-' = false ∧
    pascalCase (weaponName ++ String.singleton '-' ++ "of-fire") = "Iron2hSWordKindOfFire" := by
  have hall : weaponName.toList.all (fun c => c.toNat < 128) = true := by decide +kernel
  have hascii : ∀ c ∈ weaponName.toList, c.toNat < 128 := by simpa using hall
  have hpascal : pascalCase weaponName = "Iron2hSWordKind" := by decide +kernel
  obtain ⟨hagain, -, hback, -, hletters, happend, -, -⟩ :=
    pascal_and_camel_case_project weaponName hascii
  obtain ⟨-, hlength, -⟩ := hletters camelCase (List.mem_pair.mpr (Or.inr rfl))
  refine ⟨hascii, hpascal, hagain.trans hpascal, by decide +kernel, hlength, hback.trans hpascal,
    by decide, ?_⟩
  rw [happend '-' "of-fire" (by decide), hpascal]
  decide +kernel

end TableForge.Naming
