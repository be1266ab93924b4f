import Mathlib.Data.List.Induction
import TableForge.Proofs.Dataset.Columns

/-!
# Rows built cell by cell

A row comes from inserting cells one after another, from a list of them or one at a time. Of the
cells inserted under one name the last one counts. Of the names that agree up to case the one that
was inserted first counts, and inserting another cell under a name that is there does not change
that. `Row.Reads` says what a column reads in terms of the inserted cells alone.
-/
namespace TableForge

namespace OrderedMap

variable {α : Type}

theorem ofList_concat (pairs : List (String × α)) (key : String) (value : α) :
    ofList (pairs ++ [(key, value)]) = (ofList pairs).insert key value := by
  rw [ofList, List.foldl_append]
  rfl

/-- The value that was inserted last under a key is found. -/
theorem get?_ofList (pairs : List (String × α)) (key : String) :
    (ofList pairs).get? key = pairs.reverse.lookup key := by
  induction pairs using List.reverseRecOn with
  | nil => rfl
  | append_singleton pairs pair ih =>
    rw [ofList_concat, get?_insert, ih, List.reverse_append, List.reverse_singleton,
      List.singleton_append, lookup_cons_eq_ite]

/-- Among the keys of a map the search stops where it stops among all keys that were inserted. -/
theorem find?_keys_ofList (p : String → Bool) (pairs : List (String × α)) :
    (ofList pairs).keys.find? p = (pairs.map Prod.fst).find? p := by
  induction pairs using List.reverseRecOn with
  | nil => rfl
  | append_singleton pairs pair ih =>
    rw [ofList_concat, keys_insert, List.map_append, List.find?_append, ← ih]
    split
    · next hmem =>
      -- a key that is there is not the first one that fits, or the search has stopped before
      cases hfind : (ofList pairs).keys.find? p with
      | some first => rfl
      | none =>
        have hpair := List.find?_eq_none.mp hfind pair.1 hmem
        simp [hpair]
    · rw [List.find?_append]
      rfl

theorem mem_keys_ofList_iff {pairs : List (String × α)} {key : String} :
    key ∈ (ofList pairs).keys ↔ key ∈ pairs.map Prod.fst := by
  have hfind : ((ofList pairs).keys.find? (· == key)).isSome = true ↔
      ((pairs.map Prod.fst).find? (· == key)).isSome = true := by
    rw [find?_keys_ofList]
  rw [List.find?_isSome, List.find?_isSome] at hfind
  simpa only [beq_iff_eq, exists_eq_right] using hfind

end OrderedMap

namespace Row

variable {r : Row} {column key value : String} {cells : List (String × String)}

theorem ne_of_sameUpToCase {a b : String} (ha : sameUpToCase a column = true)
    (hb : sameUpToCase b column = false) : a ≠ b := by
  rintro rfl
  rw [ha] at hb
  cases hb

/-- The name that a column is read under if none is exactly the same: the first one that is the
same up to case. -/
def spelling? (r : Row) (column : String) : Option String :=
  (r.firstSpelling? column).map Prod.fst

theorem spelling?_eq_find? (r : Row) (column : String) :
    r.spelling? column = r.cells.keys.find? fun key => sameUpToCase key column := by
  rw [spelling?, firstSpelling?, OrderedMap.keys, List.find?_map]
  rfl

theorem sameUpToCase_of_spelling? (h : r.spelling? column = some key) :
    sameUpToCase key column = true := by
  rw [spelling?_eq_find?] at h
  exact (List.find?_eq_some_iff_append.mp h).1

theorem get?_of_firstSpelling? (h : r.firstSpelling? column = some (key, value)) :
    r.cells.get? key = some value := by
  obtain ⟨hsame, before, after, hentries, hbefore⟩ := List.find?_eq_some_iff_append.mp h
  refine List.lookup_eq_some_iff.mpr ⟨before, after, hentries, fun entry hentry => ?_⟩
  -- a cell before this one has another name, or it would be the first one itself
  have hother : sameUpToCase entry.1 column = false := by simpa using hbefore entry hentry
  exact bne_iff_ne.mpr (ne_of_sameUpToCase hsame hother)

theorem get_eq_empty (h : r.spelling? column = none) : r.get column = "" := by
  have hfirst : r.firstSpelling? column = none := Option.map_eq_none_iff.mp h
  have hexact : r.cells.get? column = none := by
    by_contra hcell
    obtain ⟨cell, hcell⟩ := Option.ne_none_iff_exists'.mp hcell
    obtain ⟨first, hsome⟩ := exists_firstSpelling? hcell
    rw [hfirst] at hsome
    cases hsome
  rw [firstSpelling?] at hfirst
  simp only [get, hexact, hfirst]

/-- A cell is read under exactly the name of the column, else under its first spelling. -/
theorem get_eq (r : Row) (column : String) :
    r.get column =
      ((r.cells.get? column).or ((r.spelling? column).bind r.cells.get?)).getD "" := by
  cases hexact : r.cells.get? column with
  | some cell => rw [get_of_exact hexact, Option.some_or, Option.getD_some]
  | none =>
    rw [Option.none_or]
    cases hspelling : r.spelling? column with
    | none => rw [get_eq_empty hspelling, Option.bind_none, Option.getD_none]
    | some key =>
      obtain ⟨first, hfirst, rfl⟩ := Option.map_eq_some_iff.mp hspelling
      rw [get_of_firstSpelling? hexact hfirst, Option.bind_some, get?_of_firstSpelling? hfirst,
        Option.getD_some]

/-! ## One insertion -/

/-- Inserting a cell under a name that is there does not change the spelling of any column. -/
theorem spelling?_insert_of_mem (h : key ∈ r.cells.keys) (value column : String) :
    (r.insert key value).spelling? column = r.spelling? column := by
  rw [spelling?_eq_find?, spelling?_eq_find?, insert, OrderedMap.keys_insert, if_pos h]

theorem spelling?_insert_of_other (h : sameUpToCase key column = false) (value : String) :
    (r.insert key value).spelling? column = r.spelling? column := by
  by_cases hmem : key ∈ r.cells.keys
  · exact spelling?_insert_of_mem hmem value column
  · rw [spelling?_eq_find?, spelling?_eq_find?, insert, OrderedMap.keys_insert, if_neg hmem,
      List.find?_append]
    simp [h]

/-- Inserting a cell under another name does not change what a column reads. -/
theorem get_insert_of_other (h : sameUpToCase key column = false) (value : String) :
    (r.insert key value).get column = r.get column := by
  have hkept (name : String) (hname : sameUpToCase name column = true) :
      (r.insert key value).cells.get? name = r.cells.get? name := by
    rw [insert, OrderedMap.get?_insert, if_neg (ne_of_sameUpToCase hname h)]
  rw [get_eq, get_eq, spelling?_insert_of_other h, hkept column (sameUpToCase_iff.mpr rfl)]
  cases hspelling : r.spelling? column with
  | none => rfl
  | some name =>
    rw [Option.bind_some, Option.bind_some, hkept name (sameUpToCase_of_spelling? hspelling)]

/-! ## All insertions -/

/-- The last cell that was inserted under this name has this value. -/
def LastInserted (cells : List (String × String)) (key value : String) : Prop :=
  ∃ before after, cells = before ++ (key, value) :: after ∧ ∀ cell ∈ after, cell.1 ≠ key

/-- The first cell that was inserted under a spelling of the column has this name. -/
def FirstInserted (cells : List (String × String)) (column key : String) : Prop :=
  ∃ before value after, cells = before ++ (key, value) :: after ∧
    sameUpToCase key column = true ∧ ∀ cell ∈ before, sameUpToCase cell.1 column = false

/-- What a column reads after these cells were inserted. -/
inductive Reads (cells : List (String × String)) (column : String) : String → Prop
  /-- A cell was inserted under exactly this name. -/
  | exact {value : String} (last : LastInserted cells column value) : Reads cells column value
  /-- Cells were inserted under other spellings of the name only. -/
  | spelling {key value : String} (absent : ∀ cell ∈ cells, cell.1 ≠ column)
      (first : FirstInserted cells column key) (last : LastInserted cells key value) :
      Reads cells column value
  /-- No cell was inserted under any spelling of the name. -/
  | missing (absent : ∀ cell ∈ cells, sameUpToCase cell.1 column = false) :
      Reads cells column ""

theorem foldl_insert_ofList (cells more : List (String × String)) :
    more.foldl (fun row cell => row.insert cell.1 cell.2) (ofList cells) =
      ofList (cells ++ more) := by
  induction more generalizing cells with
  | nil => rw [List.foldl_nil, List.append_nil]
  | cons cell rest ih =>
    have hcell : (ofList cells).insert cell.1 cell.2 = ofList (cells ++ [cell]) := by
      rw [ofList, ofList, insert, OrderedMap.ofList_concat]
    rw [List.foldl_cons, hcell, ih, List.append_assoc, List.singleton_append]

theorem get?_ofList_eq_some_iff :
    (ofList cells).cells.get? key = some value ↔ LastInserted cells key value := by
  rw [ofList, OrderedMap.get?_ofList, List.lookup_eq_some_iff]
  constructor
  · rintro ⟨after, before, hcells, hafter⟩
    refine ⟨before.reverse, after.reverse, by simpa using congrArg List.reverse hcells, ?_⟩
    intro cell hcell
    exact (bne_iff_ne.mp (hafter cell (List.mem_reverse.mp hcell))).symm
  · rintro ⟨before, after, rfl, hafter⟩
    refine ⟨after.reverse, before.reverse, by simp, fun cell hcell => ?_⟩
    exact bne_iff_ne.mpr (hafter cell (List.mem_reverse.mp hcell)).symm

theorem get?_ofList_eq_none_iff :
    (ofList cells).cells.get? key = none ↔ ∀ cell ∈ cells, cell.1 ≠ key := by
  rw [ofList, OrderedMap.get?_ofList, List.lookup_eq_none_iff]
  simp only [List.mem_reverse, bne_iff_ne, ne_comm]

theorem spelling?_ofList_eq_some_iff :
    (ofList cells).spelling? column = some key ↔ FirstInserted cells column key := by
  rw [spelling?_eq_find?, ofList, OrderedMap.find?_keys_ofList, List.find?_map,
    Option.map_eq_some_iff]
  constructor
  · rintro ⟨cell, hfind, rfl⟩
    obtain ⟨hsame, before, after, hcells, hbefore⟩ := List.find?_eq_some_iff_append.mp hfind
    exact ⟨before, cell.2, after, hcells, hsame, by simpa using hbefore⟩
  · rintro ⟨before, value, after, hcells, hsame, hbefore⟩
    refine ⟨(key, value), List.find?_eq_some_iff_append.mpr ⟨hsame, before, after, hcells, ?_⟩, rfl⟩
    simpa using hbefore

theorem spelling?_ofList_eq_none_iff :
    (ofList cells).spelling? column = none ↔
      ∀ cell ∈ cells, sameUpToCase cell.1 column = false := by
  rw [spelling?_eq_find?, ofList, OrderedMap.find?_keys_ofList, List.find?_eq_none]
  simp

theorem reads_get (cells : List (String × String)) (column : String) :
    Reads cells column ((ofList cells).get column) := by
  cases hexact : (ofList cells).cells.get? column with
  | some value =>
    rw [get_of_exact hexact]
    exact .exact (get?_ofList_eq_some_iff.mp hexact)
  | none =>
    cases hspelling : (ofList cells).spelling? column with
    | none =>
      rw [get_eq_empty hspelling]
      exact .missing (spelling?_ofList_eq_none_iff.mp hspelling)
    | some key =>
      have hkey := spelling?_ofList_eq_some_iff.mp hspelling
      obtain ⟨first, hfirst, rfl⟩ := Option.map_eq_some_iff.mp hspelling
      rw [get_of_firstSpelling? hexact hfirst]
      exact .spelling (get?_ofList_eq_none_iff.mp hexact) hkey
        (get?_ofList_eq_some_iff.mp (get?_of_firstSpelling? hfirst))

theorem Reads.get_eq (h : Reads cells column value) : (ofList cells).get column = value := by
  cases h with
  | exact last => exact get_of_exact (get?_ofList_eq_some_iff.mpr last)
  | spelling absent first last =>
    rw [Row.get_eq, get?_ofList_eq_none_iff.mpr absent, spelling?_ofList_eq_some_iff.mpr first,
      Option.none_or, Option.bind_some, get?_ofList_eq_some_iff.mpr last, Option.getD_some]
  | missing absent => exact get_eq_empty (spelling?_ofList_eq_none_iff.mpr absent)

/-- **Cells read as they were inserted.** It makes no difference whether cells are collected from a
list or inserted one by one. A column reads the last cell that was inserted under exactly its name,
if there is one, else the last one under the spelling of the name that was inserted first, else
empty text. Inserting under a name that is there does not change the spelling that is read, and
inserting under a name that is no spelling of the column does not change what the column reads. -/
theorem cells_read_as_inserted (cells more : List (String × String)) (column : String) :
    more.foldl (fun row cell => row.insert cell.1 cell.2) (ofList cells) =
      ofList (cells ++ more) ∧
    (∀ value, (ofList cells).get column = value ↔ Reads cells column value) ∧
    (∀ key, (ofList cells).spelling? column = some key ↔ FirstInserted cells column key) ∧
    (∀ key value, key ∈ cells.map Prod.fst →
      ((ofList cells).insert key value).spelling? column = (ofList cells).spelling? column) ∧
    ∀ key value, sameUpToCase key column = false →
      ((ofList cells).insert key value).get column = (ofList cells).get column := by
  refine ⟨foldl_insert_ofList cells more, fun value => ⟨?_, ?_⟩,
    fun key => spelling?_ofList_eq_some_iff, fun key value hkey => ?_,
    fun key value hother => get_insert_of_other hother value⟩
  · rintro rfl
    exact reads_get cells column
  · intro hreads
    exact hreads.get_eq
  · exact spelling?_insert_of_mem (OrderedMap.mem_keys_ofList_iff.mpr hkey) value column

/-- A column under three spellings, the first of which is inserted once more. -/
def spelledCells : List (String × String) :=
  [("Name", "Sword"), ("ID", "1"), ("Id", "2"), ("ID", "3")]

theorem cells_read_as_inserted_spelled :
    Reads spelledCells "id" "3" ∧
    "Id" ∈ spelledCells.map Prod.fst ∧
    ((ofList spelledCells).insert "Id" "4").spelling? "id" = some "ID" ∧
    sameUpToCase "Cost" "id" = false ∧
    ((ofList spelledCells).insert "Cost" "5").get "id" = "3" := by
  obtain ⟨-, hreads, -, hagain, hother⟩ := cells_read_as_inserted spelledCells [] "id"
  have hget : (ofList spelledCells).get "id" = "3" := by decide +kernel
  have hmem : "Id" ∈ spelledCells.map Prod.fst := by decide +kernel
  have hcost : sameUpToCase "Cost" "id" = false := by decide +kernel
  refine ⟨(hreads "3").mp hget, hmem, ?_, hcost, ?_⟩
  · rw [hagain "Id" "4" hmem]
    decide +kernel
  · rw [hother "Cost" "5" hcost, hget]

end Row

end TableForge
