import Mathlib.Data.List.Forall2
import TableForge.Dataset.Draft
import TableForge.Proofs.Toml.Decoding

/-!
# What reading a draft guarantees

A row comes from a table, so its columns are distinct, or from a date-time, which has one. Its cells
are values of any kind within range: what a cell holds is a scalar with a text, an array or a table,
and a float is in canonical form.
-/
namespace TableForge

namespace Toml

/-- What one by one reading returns, item by item. -/
theorem forall₂_of_mapM {α β : Type} {read : α → Option β} {l : List α} {result : List β}
    (h : l.mapM read = some result) : List.Forall₂ (fun a b => read a = some b) l result := by
  induction l generalizing result with
  | nil =>
    cases h
    exact .nil
  | cons a rest ih =>
    rw [List.mapM_cons] at h
    obtain ⟨b, hb, h⟩ := Option.bind_eq_some_iff.mp h
    obtain ⟨more, hmore, h⟩ := Option.bind_eq_some_iff.mp h
    cases h
    exact .cons hb (ih hmore)

theorem exists_of_mem_mapM {α β : Type} {read : α → Option β} {l : List α} {result : List β}
    (h : l.mapM read = some result) {b : β} (hb : b ∈ result) : ∃ a ∈ l, read a = some b := by
  obtain ⟨i, hi, rfl⟩ := List.getElem_of_mem hb
  have hread := forall₂_of_mapM h
  have hlength : i < l.length := hread.length_eq ▸ hi
  exact ⟨l[i], List.getElem_mem hlength, hread.get hlength hi⟩

namespace Value

theorem Decoded.items {items : List Value} (h : (Value.array items).Decoded) :
    ∀ v ∈ items, v.Decoded := by
  cases h with
  | scalar h _ => exact h.elim
  | array h => exact h

theorem Decoded.keys {entries : List (String × Value)} (h : (Value.table entries).Decoded) :
    (entries.map Prod.fst).Nodup := by
  cases h with
  | scalar h _ => exact h.elim
  | table h _ => exact h

theorem Decoded.values {entries : List (String × Value)} (h : (Value.table entries).Decoded) :
    ∀ e ∈ entries, e.2.Decoded := by
  cases h with
  | scalar h _ => exact h.elim
  | table _ h => exact h

/-- What is read stands for itself, or it is an array, a table or a date-time. -/
theorem cases_of_any? {v cell : Value} (h : any? v = some cell) :
    cell = v ∧ v ≠ hugeFloat ∨ (∃ items, cell = array items) ∨ (∃ entries, cell = table entries) ∨
      ∃ moment, cell = datetime moment := by
  cases v with
  | integer n =>
    rw [any?] at h
    split at h
    · cases h
      exact .inl ⟨rfl, by simp⟩
    · cases h
  | array items =>
    rw [any?] at h
    obtain ⟨items, -, rfl⟩ := Option.map_eq_some_iff.mp h
    exact .inr (.inl ⟨items, rfl⟩)
  | table entries =>
    rw [any?] at h
    split at h
    · obtain ⟨moment, -, rfl⟩ := Option.map_eq_some_iff.mp h
      exact .inr (.inr (.inr ⟨moment, rfl⟩))
    · obtain ⟨entries, -, rfl⟩ := Option.map_eq_some_iff.mp h
      exact .inr (.inr (.inl ⟨entries, rfl⟩))
  | hugeFloat => simp [any?] at h
  | string _ =>
    cases h
    exact .inl ⟨rfl, by simp⟩
  | float _ =>
    cases h
    exact .inl ⟨rfl, by simp⟩
  | boolean _ =>
    cases h
    exact .inl ⟨rfl, by simp⟩
  | datetime _ =>
    cases h
    exact .inl ⟨rfl, by simp⟩

theorem ne_hugeFloat_of_any? {v cell : Value} (h : any? v = some cell) : cell ≠ hugeFloat := by
  rcases cases_of_any? h with ⟨rfl, hne⟩ | ⟨_, rfl⟩ | ⟨_, rfl⟩ | ⟨_, rfl⟩
  · exact hne
  all_goals simp

theorem Decoded.isCanonical {v : Value} (h : v.Decoded) : v.IsCanonical := by
  cases h with
  | scalar _ hcanonical => exact hcanonical
  | array _ => exact fun number he => by cases he
  | table _ _ => exact fun number he => by cases he

theorem isCanonical_of_any? {v cell : Value} (hv : v.Decoded) (h : any? v = some cell) :
    cell.IsCanonical := by
  rcases cases_of_any? h with ⟨rfl, -⟩ | ⟨_, rfl⟩ | ⟨_, rfl⟩ | ⟨_, rfl⟩
  · exact hv.isCanonical
  all_goals exact fun number he => by cases he

/-- Within range the scalars are the values with a text. -/
theorem scalarText?_eq_none_iff {v : Value} (h : v ≠ hugeFloat) :
    v.scalarText? = none ↔ ¬ v.IsScalar := by
  cases v with
  | hugeFloat => exact absurd rfl h
  | array _ => simp [scalarText?, IsScalar]
  | table _ => simp [scalarText?, IsScalar]
  | string _ => simp [scalarText?, IsScalar]
  | integer _ => simp [scalarText?, IsScalar]
  | float _ => simp [scalarText?, IsScalar]
  | boolean _ => simp [scalarText?, IsScalar]
  | datetime _ => simp [scalarText?, IsScalar]

theorem exists_of_mem_items? {α : Type} {read : Value → Option α} {v : Value} {items : List α}
    (hv : v.Decoded) (h : items? read v = some items) {item : α} (hitem : item ∈ items) :
    ∃ w : Value, w.Decoded ∧ read w = some item := by
  cases v with
  | array values =>
    obtain ⟨w, hw, hread⟩ := exists_of_mem_mapM h hitem
    exact ⟨w, hv.items w hw, hread⟩
  | _ => cases h

theorem exists_of_mem_entries? {α : Type} {read : Value → Option α} {v : Value}
    {entries : List (String × α)} (hv : v.Decoded) (h : entries? read v = some entries)
    {e : String × α} (he : e ∈ entries) : ∃ w : Value, w.Decoded ∧ read w = some e.2 := by
  cases v with
  | table values =>
    obtain ⟨⟨key, w⟩, hw, hread⟩ := exists_of_mem_mapM h he
    obtain ⟨value, hvalue, rfl⟩ := Option.map_eq_some_iff.mp hread
    exact ⟨w, hv.values (key, w) hw, hvalue⟩
  | datetime moment =>
    obtain ⟨value, hvalue, rfl⟩ := Option.map_eq_some_iff.mp h
    obtain rfl := List.mem_singleton.mp he
    exact ⟨.string moment.text, .of_ne_float trivial (by simp), hvalue⟩
  | _ => cases h

/-- Reading the values of a table keeps its keys. -/
theorem keys_of_entries? {α : Type} {read : Value → Option α} {v : Value}
    {entries : List (String × α)} (hv : v.Decoded) (h : entries? read v = some entries) :
    (entries.map Prod.fst).Nodup := by
  cases v with
  | table values =>
    have hkeys : List.Forall₂ (· = ·) (values.map Prod.fst) (entries.map Prod.fst) := by
      refine List.forall₂_map_left_iff.mpr (List.forall₂_map_right_iff.mpr ?_)
      refine (forall₂_of_mapM h).imp fun a b hab => ?_
      obtain ⟨value, -, rfl⟩ := Option.map_eq_some_iff.mp hab
      rfl
    rw [List.forall₂_eq_eq_eq] at hkeys
    exact hkeys ▸ hv.keys
  | datetime moment =>
    obtain ⟨value, -, rfl⟩ := Option.map_eq_some_iff.mp h
    simp
  | _ => cases h

end Value

namespace Record

theorem decoded_of_ofEntries? {names : List String} {entries : List (String × Value)} {r : Record}
    (hentries : ∀ e ∈ entries, e.2.Decoded) (h : ofEntries? names entries = some r) :
    ∀ e ∈ r.entries, e.2.Decoded := by
  unfold ofEntries? at h
  split at h <;> cases h
  exact hentries

theorem decoded_of_ofValue? {names : List String} {v : Value} {r : Record} (hv : v.Decoded)
    (h : ofValue? names v = some r) : ∀ e ∈ r.entries, e.2.Decoded := by
  cases v with
  | table entries => exact decoded_of_ofEntries? hv.values h
  | array items =>
    cases h
    intro e he
    exact hv.items e.2 (List.of_mem_zip he).2
  | datetime _ =>
    cases h
    simp
  | _ => cases h

/-- A part that is a list is empty by default, or read item by item. -/
theorem exists_of_mem_defaulted {α : Type} {r : Record} {name : String} {read : Value → Option α}
    {items : List α} (hr : ∀ e ∈ r.entries, e.2.Decoded)
    (h : r.defaulted name [] (Value.items? read) = some items) {item : α} (hitem : item ∈ items) :
    ∃ w : Value, w.Decoded ∧ read w = some item := by
  unfold defaulted at h
  split at h
  · next value hvalue =>
    obtain ⟨_, _, hentries, -⟩ := List.lookup_eq_some_iff.mp hvalue
    exact Value.exists_of_mem_items? (hr (name, value) (by simp [hentries])) h hitem
  · cases h
    cases hitem

end Record

end Toml

open Toml (Record Value)

/-- What is true of every cell that was read. -/
structure Toml.Value.IsCell (v : Value) : Prop where
  inRange : v ≠ .hugeFloat
  canonical : v.IsCanonical

/-- What is true of every draft that was read from a text. -/
structure Draft.Decoded (draft : Draft) : Prop where
  columns_nodup : ∀ table ∈ draft.tables, ∀ row ∈ table.rows, (row.map Prod.fst).Nodup
  cells : ∀ table ∈ draft.tables, ∀ row ∈ table.rows, ∀ cell ∈ row, cell.2.IsCell

theorem Draft.Decoded.inRange {draft : Draft} (h : draft.Decoded) {table : DraftTable}
    (ht : table ∈ draft.tables) {row : List (String × Value)} (hrow : row ∈ table.rows) :
    ∀ cell ∈ row, cell.2 ≠ .hugeFloat :=
  fun cell hcell => (h.cells table ht row hrow cell hcell).inRange

theorem DraftTable.rows_of_ofValue? {v : Value} {table : DraftTable} (hv : v.Decoded)
    (h : ofValue? v = some table) {row : List (String × Value)} (hrow : row ∈ table.rows) :
    (row.map Prod.fst).Nodup ∧ ∀ cell ∈ row, cell.2.IsCell := by
  obtain ⟨r, hr, h⟩ := Option.bind_eq_some_iff.mp h
  obtain ⟨name, -, h⟩ := Option.bind_eq_some_iff.mp h
  obtain ⟨fields, -, h⟩ := Option.bind_eq_some_iff.mp h
  obtain ⟨rows, hrows, h⟩ := Option.bind_eq_some_iff.mp h
  cases h
  obtain ⟨w, hw, hread⟩ :=
    Record.exists_of_mem_defaulted (Record.decoded_of_ofValue? hv hr) hrows hrow
  refine ⟨Value.keys_of_entries? hw hread, fun cell hcell => ?_⟩
  obtain ⟨value, hvalue, hany⟩ := Value.exists_of_mem_entries? hw hread hcell
  exact ⟨Value.ne_hugeFloat_of_any? hany, Value.isCanonical_of_any? hvalue hany⟩

theorem Draft.decoded_of_ofText? {text : String} {draft : Draft} (h : ofText? text = some draft) :
    draft.Decoded := by
  obtain ⟨entries, hentries, h⟩ := Option.bind_eq_some_iff.mp h
  obtain ⟨r, hr, h⟩ := Option.bind_eq_some_iff.mp h
  obtain ⟨package, -, h⟩ := Option.bind_eq_some_iff.mp h
  obtain ⟨tables, htables, h⟩ := Option.bind_eq_some_iff.mp h
  cases h
  have hdecoded := Record.decoded_of_ofEntries? (Toml.decoded_of_read? hentries).values hr
  have hrows : ∀ table ∈ tables, ∀ row ∈ table.rows,
      (row.map Prod.fst).Nodup ∧ ∀ cell ∈ row, cell.2.IsCell := by
    intro table htable row hrow
    obtain ⟨w, hw, hread⟩ := Record.exists_of_mem_defaulted hdecoded htables htable
    exact DraftTable.rows_of_ofValue? hw hread hrow
  exact ⟨fun table ht row hr => (hrows table ht row hr).1,
    fun table ht row hr => (hrows table ht row hr).2⟩

end TableForge
