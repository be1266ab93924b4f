import TableForge.Text.CaseMap

/-!
# Words and the letter case of identifiers

Names of tables, fields and rows become identifiers in one of three styles. `PascalCase` and
`camelCase` join the runs of alphanumeric characters and touch only first letters;
`SCREAMING_SNAKE_CASE` also cuts a run where a lowercase letter or a digit meets an uppercase one.

Main statement: neither loses an alphanumeric character; the runs of a name, and its words, put
together are its alphanumeric characters.
-/
namespace TableForge.Text

/-- The maximal runs of alphanumeric characters, empty ones between neighbouring separators
included. -/
def runs : List Char → List (List Char)
  | [] => [[]]
  | c :: cs => if isAlphanumeric c then (runs cs).modifyHead (c :: ·) else [] :: runs cs

/-- Whether a word ends between two neighbours: a lowercase letter or an ASCII digit, then an
uppercase letter. -/
def isWordBoundary (a b : Char) : Bool :=
  (isLowercase a || a.isDigit) && isUppercase b

/-- Cuts a run of alphanumeric characters at its word boundaries. -/
def cutAtBoundaries : List Char → List (List Char)
  | [] => []
  | [c] => [[c]]
  | a :: b :: rest =>
    if isWordBoundary a b then [a] :: cutAtBoundaries (b :: rest)
    else (cutAtBoundaries (b :: rest)).modifyHead (a :: ·)

/-- The words of a name. -/
def words (name : List Char) : List (List Char) :=
  (runs name).flatMap cutAtBoundaries

theorem flatten_modifyHead (c : Char) {parts : List (List Char)} (h : parts ≠ []) :
    (parts.modifyHead (c :: ·)).flatten = c :: parts.flatten := by
  cases parts with
  | nil => contradiction
  | cons part rest => simp

theorem runs_ne_nil (name : List Char) : runs name ≠ [] := by
  cases name with
  | nil => simp [runs]
  | cons c cs =>
    simp only [runs]
    split
    · cases h : runs cs with
      | nil => exact absurd h (runs_ne_nil cs)
      | cons part parts => simp
    · simp

/-- The runs of a name are its alphanumeric characters. -/
theorem flatten_runs (name : List Char) : (runs name).flatten = name.filter isAlphanumeric := by
  induction name with
  | nil => rfl
  | cons c cs ih =>
    by_cases h : isAlphanumeric c
    · simp [runs, h, flatten_modifyHead c (runs_ne_nil cs), ih]
    · simp [runs, h, ih]

/-- Cutting loses nothing. -/
theorem flatten_cutAtBoundaries (run : List Char) : (cutAtBoundaries run).flatten = run := by
  fun_induction cutAtBoundaries run with
  | case1 => rfl
  | case2 c => rfl
  | case3 a b rest h ih => simp [ih]
  | case4 a b rest h ih =>
    rw [flatten_modifyHead, ih]
    intro hn
    simp [hn] at ih

/-- The words of a name are its alphanumeric characters. -/
theorem flatten_words (name : List Char) : (words name).flatten = name.filter isAlphanumeric := by
  rw [← flatten_runs]
  simp only [words]
  induction runs name with
  | nil => rfl
  | cons run rest ih => simp [flatten_cutAtBoundaries, ih]

/-- Applies `f` to the first character. -/
def mapFirst (f : Char → List Char) : List Char → List Char
  | [] => []
  | c :: cs => f c ++ cs

/-- `hello_world` becomes `HelloWorld`; letters after the first of a run keep their case. -/
def pascalCase (name : List Char) : List Char :=
  (runs name).flatMap (mapFirst upperChar)

/-- `item_kind` becomes `itemKind`. -/
def camelCase (name : List Char) : List Char :=
  mapFirst lowerChar (pascalCase name)

/-- `ItemKind` becomes `ITEM_KIND`. -/
def screamingSnakeCase (name : List Char) : List Char :=
  ['_'].intercalate ((words name).map upper)

end TableForge.Text
