import TableForge.Proofs.Generation.RowIdentifier
import TableForge.Proofs.Text.ScreamingSnakeCase

/-!
# Constants without a name

A lint warns of the rows of a table whose constants would have no name. It counts the rows without a
name in their cells; the constants without a name are those of the rows whose names have no
alphanumeric character. There are never more of the former, and where there are fewer the lint says
too little or nothing at all.
-/
namespace TableForge

/-- Whether a name has no alphanumeric character. -/
def SpellsNothing (name : String) : Prop :=
  ∀ c ∈ name.toList, Text.isAlphanumeric c = false

instance (name : String) : Decidable (SpellsNothing name) :=
  List.decidableBAll (fun c => Text.isAlphanumeric c = false) name.toList

theorem spellsNothing_empty : SpellsNothing "" := by decide

theorem Naming.screamingSnakeCase_eq_empty_iff {name : String} :
    screamingSnakeCase name = "" ↔ SpellsNothing name := by
  rw [screamingSnakeCase, SpellsNothing, ← Text.screamingSnakeCase_eq_nil_iff]
  exact String.ofList_eq_empty_iff

namespace Enumeration

/-- Whether a fragment is a constant without a name. -/
def isUnnamed : Fragment → Bool
  | .constant name _ _ => name = ""
  | _ => false

/-- How many constants of a table have no name. -/
def unnamed (ctx : Context) (table : Table) : Nat :=
  (constants ctx table).countP isUnnamed

/-- The constants without a name are those of the rows whose names spell nothing. -/
theorem unnamed_eq_countP {ctx : Context} (hnaming : ctx.naming = .standard) (table : Table) :
    unnamed ctx table = table.rows.countP fun row => SpellsNothing (row.get "Name") := by
  rw [unnamed, constants, List.countP_map]
  apply List.countP_congr
  intro row _
  have hname : ctx.naming.constantName = Naming.screamingSnakeCase := by rw [hnaming]; rfl
  simp only [Function.comp_apply, constant, isUnnamed, hname, decide_eq_true_eq]
  exact Naming.screamingSnakeCase_eq_empty_iff

end Enumeration

section Counting

variable {α : Type} {p q : α → Bool} {items : List α}

/-- A narrower condition counts as many items as a wider one exactly if no item tells them apart. -/
theorem countP_eq_countP_iff (h : ∀ x ∈ items, p x = true → q x = true) :
    items.countP p = items.countP q ↔ ∀ x ∈ items, q x = true → p x = true := by
  have hnarrow : items.countP p = (items.filter q).countP p := by
    rw [List.countP_filter]
    apply List.countP_congr
    intro x hx
    rw [Bool.and_eq_true]
    exact ⟨fun hp => ⟨hp, h x hx hp⟩, fun hpq => hpq.1⟩
  have hwide : items.countP q = (items.filter q).length := List.countP_eq_length_filter
  rw [hnarrow, hwide, List.countP_eq_length]
  simp only [List.mem_filter, and_imp]

variable {β : Type} {m n : α → Nat}

/-- Two ways to count give the same reports, one for each item that is counted at all, exactly if they
count alike. -/
theorem map_filter_pos_eq_iff {report : α → Nat → β}
    (hreport : ∀ x a b, report x a = report x b → a = b) (hle : ∀ x ∈ items, m x ≤ n x) :
    ((items.filter fun x => 0 < m x).map fun x => report x (m x)) =
      ((items.filter fun x => 0 < n x).map fun x => report x (n x)) ↔
    ∀ x ∈ items, m x = n x := by
  constructor
  · intro heq
    have hcounts : (items.countP fun x => 0 < m x) = items.countP fun x => 0 < n x := by
      have hlength := congrArg List.length heq
      simpa only [List.length_map, ← List.countP_eq_length_filter] using hlength
    have hwider : ∀ x ∈ items, decide (0 < m x) = true → decide (0 < n x) = true := by
      intro x hx hpos
      rw [decide_eq_true_eq] at hpos ⊢
      exact Nat.lt_of_lt_of_le hpos (hle x hx)
    have hcounted : ∀ x ∈ items, 0 < n x → 0 < m x := by
      simpa only [decide_eq_true_eq] using (countP_eq_countP_iff hwider).mp hcounts
    have hfilter : (items.filter fun x => 0 < n x) = items.filter fun x => 0 < m x := by
      apply List.filter_congr
      intro x hx
      have hlt := hle x hx
      have hback := hcounted x hx
      rw [decide_eq_decide]
      omega
    rw [hfilter, List.map_inj_left] at heq
    intro x hx
    by_cases hpos : 0 < m x
    · exact hreport x _ _ (heq x (by simp [hx, hpos]))
    · have hback := hcounted x hx
      omega
  · intro hsame
    have hfilter : (items.filter fun x => 0 < m x) = items.filter fun x => 0 < n x := by
      apply List.filter_congr
      intro x hx
      rw [hsame x hx]
    rw [hfilter]
    apply List.map_congr_left
    intro x hx
    rw [hsame x (List.mem_filter.mp hx).1]

end Counting

namespace Lint

/-- The warning that so many rows of a table have no name. -/
def nameWarning (table : String) (count : Nat) : Diagnostic where
  severity := .warning
  lint := "enum-name"
  message := toString count ++ " row(s) in table '" ++ table
    ++ "' have no Name; their constants will be unnamed"
  location := some ("tables." ++ table)

/-- One warning for every table for which anything is counted, in the order of the tables. -/
def nameWarnings (tables : List Table) (count : Table → Nat) : List Diagnostic :=
  (tables.filter fun table => 0 < count table).map fun table =>
    nameWarning table.name (count table)

/-- A warning says how many rows it is about. -/
theorem nameWarning_inj {table : String} {a b : Nat}
    (h : nameWarning table a = nameWarning table b) : a = b := by
  have hmessage := congrArg Diagnostic.message h
  simp only [nameWarning, String.append_assoc, String.append_left_inj] at hmessage
  rw [Nat.toString_eq_ofList_toDigits, Nat.toString_eq_ofList_toDigits] at hmessage
  have hdigits := congrArg (Nat.ofDigitChars 10 · 0) (String.ofList_injective hmessage)
  simpa only [Nat.ofDigitChars_ten_toDigits] using hdigits

theorem nameWarnings_eq_iff {tables : List Table} {m n : Table → Nat}
    (hle : ∀ table ∈ tables, m table ≤ n table) :
    nameWarnings tables m = nameWarnings tables n ↔ ∀ table ∈ tables, m table = n table :=
  have hreport (table : Table) (a b : Nat)
      (h : nameWarning table.name a = nameWarning table.name b) : a = b := nameWarning_inj h
  map_filter_pos_eq_iff hreport hle

end Lint

namespace Generator

variable {g : Generator}

/-- A row without a name has a constant without one. -/
theorem spellsNothing_of_unnamed (row : Row) :
    decide (row.get "Name" = "") = true → decide (SpellsNothing (row.get "Name")) = true := by
  intro h
  rw [decide_eq_true_eq] at h
  rw [h]
  exact decide_eq_true spellsNothing_empty

theorem unnamedRows_le_unnamed (hnaming : g.naming = .standard) (table : Table) :
    Lint.unnamedRows table ≤ Enumeration.unnamed g.context table := by
  rw [Enumeration.unnamed_eq_countP hnaming, Lint.unnamedRows]
  exact List.countP_mono_left fun row _ => spellsNothing_of_unnamed row

theorem unnamedRows_eq_unnamed_iff (hnaming : g.naming = .standard) (table : Table) :
    Lint.unnamedRows table = Enumeration.unnamed g.context table ↔
      ∀ row ∈ table.rows, SpellsNothing (row.get "Name") → row.get "Name" = "" := by
  rw [Enumeration.unnamed_eq_countP hnaming, Lint.unnamedRows,
    countP_eq_countP_iff fun row _ => spellsNothing_of_unnamed row]
  simp only [decide_eq_true_eq]

/-- **When the lint finds the constants without a name.** Under the standard names, and with an
enumeration template, the lint has one warning for every table with rows whose cell for the name is
empty, in the order of the tables, which says how many they are. The constants without a name are
those of the rows whose names have no alphanumeric character, and no fewer. The warnings are those
that these constants call for exactly if every such name is empty. -/
theorem unnamed_constants_found_iff (hnaming : g.naming = .standard)
    (htemplate : (g.templates.slot .enumeration).isSome = true) :
    g.context.outcome .enumeration = g.context.withTemplate .enumeration (fun template =>
      .rendered (g.dataset.tables.map fun table =>
        Enumeration.fileOf g.context template (g.context.enumClass table.name)
          (Enumeration.constants g.context table))) ∧
    Lint.enumName.check g.checkInput = Lint.nameWarnings g.dataset.tables (fun table =>
      table.rows.countP fun row => row.get "Name" = "") ∧
    (∀ table ∈ g.dataset.tables,
      Enumeration.unnamed g.context table =
        (table.rows.countP fun row => SpellsNothing (row.get "Name")) ∧
      (table.rows.countP fun row => row.get "Name" = "") ≤ Enumeration.unnamed g.context table) ∧
    (Lint.enumName.check g.checkInput =
        Lint.nameWarnings g.dataset.tables (Enumeration.unnamed g.context) ↔
      ∀ table ∈ g.dataset.tables, ∀ row ∈ table.rows,
        SpellsNothing (row.get "Name") → row.get "Name" = "") := by
  have hcheck : Lint.enumName.check g.checkInput =
      Lint.nameWarnings g.dataset.tables Lint.unnamedRows := by
    have hslot : (g.checkInput.templates.slot .enumeration).isNone = false :=
      Option.isNone_eq_false_iff.mpr htemplate
    simp only [Lint.enumName, hslot]
    rfl
  refine ⟨rfl, hcheck, fun table _ => ⟨Enumeration.unnamed_eq_countP hnaming table,
    unnamedRows_le_unnamed hnaming table⟩, ?_⟩
  rw [hcheck, Lint.nameWarnings_eq_iff fun table _ => unnamedRows_le_unnamed hnaming table]
  simp only [unnamedRows_eq_unnamed_iff hnaming]

/-- A table of constants, one for every name. -/
def nameTable (name : String) (names : List String) : Table where
  name
  fields := []
  rows := names.map fun text => .ofList [("Id", "7"), ("Name", text)]

def nameSample (tables : List Table) : Generator where
  config := {}
  dataset := { package := none, tables }
  templates := { enumeration := some ⟨⟨"Enum.cs"⟩, "VARIABLE_LIST"⟩ }
  renderer := FragmentPatterns.renderer {
    constant := some "const \x7btype\x7d \x7bname\x7d = \x7bvalue\x7d;" }
  types := .empty
  replacements := []
  naming := .standard

/-- One row has no name, and the names of the others have letters or digits. -/
def namedSample : Generator := nameSample [nameTable "status" ["Active", "", "2-b"]]

theorem unnamed_constants_found_iff_status :
    namedSample.naming = .standard ∧
    (namedSample.templates.slot .enumeration).isSome = true ∧
    namedSample.dataset.tables.map (Enumeration.unnamed namedSample.context) = [1] ∧
    Lint.enumName.check namedSample.checkInput = Lint.nameWarnings namedSample.dataset.tables
      (Enumeration.unnamed namedSample.context) := by
  obtain ⟨-, -, -, hfound⟩ := @unnamed_constants_found_iff namedSample rfl rfl
  exact ⟨rfl, rfl, by decide +kernel, hfound.mpr (by decide +kernel)⟩

/-- A table of constants whose only name is made of separators, and one with such a name beside an
empty one. -/
def overlookedSample : Generator :=
  nameSample [nameTable "status" ["--"], nameTable "mood" ["", "?"]]

/-- All three constants have no name. The lint says nothing of the first table and counts only one
of the two of the second. -/
theorem unnamed_constants_overlooked :
    overlookedSample.naming = .standard ∧
    (overlookedSample.templates.slot .enumeration).isSome = true ∧
    (overlookedSample.context.outcome .enumeration).files.map GeneratedFile.content =
      ["// code generated list of all rows\nconst int  = 7;",
       "// code generated list of all rows\nconst int  = 7;\nconst int  = 7;"] ∧
    overlookedSample.dataset.tables.map (Enumeration.unnamed overlookedSample.context) = [1, 2] ∧
    Lint.enumName.check overlookedSample.checkInput = [Lint.nameWarning "mood" 1] ∧
    Lint.enumName.check overlookedSample.checkInput ≠
      Lint.nameWarnings overlookedSample.dataset.tables
        (Enumeration.unnamed overlookedSample.context) := by
  exact ⟨rfl, rfl, by decide +kernel, by decide +kernel, by decide +kernel, by decide +kernel⟩

end Generator

end TableForge
