import Mathlib.Data.List.Basic
import TableForge.Proofs.Check.IdCounts
import TableForge.Proofs.Generation.RowIdentifier

/-!
# Variables that are declared several times

The table pass names the variable of a row by its id and keeps every row, so rows that share an id
declare one variable several times. A lint counts the ids of a table and warns of each that comes up
more than once. Both go over the rows on their own, and they agree: there is one warning for every
variable that is declared more than once and has an id in its name, it says how often the variable
is declared, and the warnings come in the order in which the ids do.
-/
namespace TableForge

section FirstOccurrences

variable {α : Type} [BEq α] [LawfulBEq α]

theorem idxOf_cons_lt_idxOf_cons {x a b : α} {items : List α} (ha : x ≠ a) (hb : x ≠ b)
    (h : items.idxOf a < items.idxOf b) : (x :: items).idxOf a < (x :: items).idxOf b := by
  rw [List.idxOf_cons_ne _ ha, List.idxOf_cons_ne _ hb]
  omega

/-- Without repetitions items come in the order in which they first occur, also where some of them
are left out. -/
theorem pairwise_idxOf_eraseDups (items : List α) (p : α → Bool) :
    (items.filter p).eraseDups.Pairwise fun a b => items.idxOf a < items.idxOf b := by
  induction items generalizing p with
  | nil => simp
  | cons x rest ih =>
    -- no item behind `x` that is left is `x` itself, so all their places move by one
    have hbehind (q : α → Bool) (hq : q x = false) :
        (rest.filter q).eraseDups.Pairwise
          fun a b => (x :: rest).idxOf a < (x :: rest).idxOf b := by
      have hne : ∀ a ∈ (rest.filter q).eraseDups, x ≠ a := by
        rintro a ha rfl
        rw [List.mem_eraseDups, List.mem_filter, hq] at ha
        exact absurd ha.2 (by simp)
      exact (ih q).imp_of_mem fun ha hb h => idxOf_cons_lt_idxOf_cons (hne _ ha) (hne _ hb) h
    by_cases hx : p x = true
    · rw [List.filter_cons_of_pos hx, List.eraseDups_cons, List.filter_filter]
      refine List.pairwise_cons.mpr ⟨?_, hbehind _ (by simp)⟩
      intro b hb
      have hne : x ≠ b := by
        rintro rfl
        simp [List.mem_eraseDups] at hb
      rw [List.idxOf_cons_self, List.idxOf_cons_ne _ hne]
      exact Nat.succ_pos _
    · rw [List.filter_cons_of_neg hx]
      exact hbehind p (Bool.eq_false_iff.mpr hx)

end FirstOccurrences

namespace TableClass

/-- The name of the variable that a fragment declares. -/
def declaredName? : Fragment → Option String
  | .localVariable name _ _ => some name
  | _ => none

/-- How often the rows of a table declare a variable. -/
def timesDeclared (ctx : Context) (table : Table) (name : String) : Nat :=
  (declarations ctx table).countP fun f => declaredName? f = some name

/-- Every row declares one variable, that of its id. -/
theorem timesDeclared_row (ctx : Context) (table : Table) (id : String) :
    timesDeclared ctx table ("row" ++ id) = (table.rows.map Row.id).count id := by
  rw [timesDeclared, declarations, List.countP_map, List.count, List.countP_map]
  apply List.countP_congr
  intro row _
  simp [declaration, declaredName?, String.append_right_inj]

end TableClass

namespace Lint

/-- The warning that so many rows of a table have this id. -/
def idWarning (table id : String) (count : Nat) : Diagnostic where
  severity := .warning
  lint := "duplicate-row-id"
  message := "row id '" ++ id ++ "' appears " ++ toString count ++ " times in table '" ++ table
    ++ "'"
  location := some ("tables." ++ table)

/-- What stands behind the last blank can be told from what stands before it. -/
theorem append_blank_inj {a b d e : List Char} (hd : ' ' ∉ d) (he : ' ' ∉ e)
    (h : a ++ ' ' :: d = b ++ ' ' :: e) : a = b ∧ d = e := by
  have htake {x y : List Char} (hy : ' ' ∉ y) :
      (x ++ ' ' :: y).reverse.takeWhile (· ≠ ' ') = y.reverse := by
    have hall : ∀ c ∈ y.reverse, decide (c ≠ ' ') = true := by
      intro c hc
      have hne : c ≠ ' ' := ne_of_mem_of_not_mem (List.mem_reverse.mp hc) hy
      simpa using hne
    rw [List.reverse_append, List.reverse_cons, List.append_assoc,
      List.takeWhile_append_of_pos hall]
    simp
  have hbehind : d = e := List.reverse_injective (by rw [← htake (x := a) hd, h, htake he])
  rw [hbehind] at h
  exact ⟨List.append_cancel_right h, hbehind⟩

theorem blank_not_mem_toDigits (n : Nat) : ' ' ∉ Nat.toDigits 10 n := fun h =>
  absurd (Nat.isDigit_of_mem_toDigits (by decide) (by decide) h) (by decide)

/-- A warning says what it is about: the table, the id and how many rows have it. -/
theorem idWarning_inj {table table' id id' : String} {m n : Nat}
    (h : idWarning table id m = idWarning table' id' n) : table = table' ∧ id = id' ∧ m = n := by
  have hlocation := Option.some.inj (congrArg Diagnostic.location h)
  obtain rfl : table = table' := (String.append_right_inj _).mp hlocation
  have hmessage (id : String) (k : Nat) : (idWarning table id k).message.toList =
      "row id '".toList ++ (((id ++ "' appears").toList ++ ' ' :: Nat.toDigits 10 k) ++
        (" times in table '" ++ table ++ "'").toList) := by
    simp [idWarning]
  have hcount := congrArg (fun d => d.message.toList) h
  simp only [hmessage, List.append_cancel_left_eq, List.append_cancel_right_eq] at hcount
  obtain ⟨hid, hdigits⟩ :=
    append_blank_inj (blank_not_mem_toDigits m) (blank_not_mem_toDigits n) hcount
  refine ⟨rfl, (String.append_left_inj _).mp (String.toList_inj.mp hid), ?_⟩
  simpa only [Nat.ofDigitChars_ten_toDigits] using congrArg (Nat.ofDigitChars 10 · 0) hdigits

/-- An id that is not empty is counted in every row that has it. -/
theorem count_rowIds (table : Table) {id : String} (h : id ≠ "") :
    (rowIds table).count id = (table.rows.map Row.id).count id :=
  List.count_filter (by simpa using h)

theorem mem_repeatedIds_iff (ctx : Context) {table : Table} {id : String} :
    id ∈ repeatedIds table ↔
      id ≠ "" ∧ 2 ≤ TableClass.timesDeclared ctx table ("row" ++ id) := by
  rw [repeatedIds, List.mem_filter, List.mem_eraseDups, TableClass.timesDeclared_row,
    decide_eq_true_eq]
  constructor
  · rintro ⟨hmem, hcount⟩
    have hne : id ≠ "" := by simpa using (List.mem_filter.mp hmem).2
    exact ⟨hne, count_rowIds table hne ▸ hcount⟩
  · rintro ⟨hne, hcount⟩
    rw [← count_rowIds table hne] at hcount
    exact ⟨List.count_pos_iff.mp (by omega), hcount⟩

theorem pairwise_repeatedIds (table : Table) :
    (repeatedIds table).Pairwise fun a b =>
      (table.rows.map Row.id).idxOf a < (table.rows.map Row.id).idxOf b :=
  (pairwise_idxOf_eraseDups _ _).filter _

theorem duplicateRowId_check (g : Generator) :
    duplicateRowId.check g.checkInput =
      g.dataset.tables.flatMap fun table => (repeatedIds table).map fun id =>
        idWarning table.name id (TableClass.timesDeclared g.context table ("row" ++ id)) := by
  refine List.flatMap_congr fun table _ => ?_
  rw [filter_entries_idCounts, List.map_map]
  refine List.map_congr_left fun id hid => ?_
  have hne : id ≠ "" := ((mem_repeatedIds_iff g.context).mp hid).1
  rw [TableClass.timesDeclared_row, ← count_rowIds table hne]
  rfl

end Lint

/-- **The lint counts the variables that are declared several times.** The files of the table pass
hold one declaration per row. The warnings come table by table, and those of a table are about the
ids, other than the empty one, whose variable is declared at least twice; each of these ids has one
warning, which says how often its variable is declared, and they come in the order in which the ids
first occur in the rows. Warnings that differ in the table, the id or the number are different. -/
theorem repeated_ids_match_declarations (g : Generator) :
    g.context.outcome .table = g.context.withTemplate .table (fun template =>
      .rendered (g.dataset.tables.map fun table =>
        TableClass.fileOf g.context template (g.context.tableClass table.name)
          (g.context.rowClass table.name) table.name
          (TableClass.declarations g.context table))) ∧
    Lint.duplicateRowId.check g.checkInput =
      (g.dataset.tables.flatMap fun table => (Lint.repeatedIds table).map fun id =>
        Lint.idWarning table.name id
          (TableClass.timesDeclared g.context table ("row" ++ id))) ∧
    (∀ table : Table,
      (∀ id, id ∈ Lint.repeatedIds table ↔
        id ≠ "" ∧ 2 ≤ TableClass.timesDeclared g.context table ("row" ++ id)) ∧
      (Lint.repeatedIds table).Nodup ∧
      (Lint.repeatedIds table).Pairwise fun a b =>
        (table.rows.map Row.id).idxOf a < (table.rows.map Row.id).idxOf b) ∧
    Function.Injective fun about : String × String × Nat =>
      Lint.idWarning about.1 about.2.1 about.2.2 := by
  refine ⟨rfl, Lint.duplicateRowId_check g, fun table => ⟨fun id => Lint.mem_repeatedIds_iff _, ?_,
    Lint.pairwise_repeatedIds table⟩, ?_⟩
  · exact (Lint.pairwise_repeatedIds table).imp fun hlt he => absurd hlt (by simp [he])
  · rintro ⟨table, id, m⟩ ⟨table', id', n⟩ h
    obtain ⟨rfl, rfl, rfl⟩ := Lint.idWarning_inj h
    rfl

/-- The id `3` comes first although `7` is the first to be repeated. -/
example : Lint.repeatedIds { name := "item", fields := [], rows :=
    ["3", "", "7", "7", "", "5", "3", "7"].map fun id => .ofList [("Id", id)] } = ["3", "7"] := by
  decide

end TableForge
