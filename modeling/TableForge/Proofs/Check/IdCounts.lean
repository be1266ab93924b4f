import Mathlib.Data.List.Nodup
import TableForge.Check.Lint

/-!
# Counting the ids of a table

The lint for repeated ids goes over the rows once and counts each id in a map. After any number of
rows the keys of the map are the ids so far, each once and in the order of their first occurrence,
and each has its number. So the lint finds the ids that come up several times, with their numbers.
-/
namespace TableForge

theorem OrderedMap.entries_eq_map_keys {α : Type} {m : OrderedMap α} {value : String → α}
    (hkeys : m.keys.Nodup) (hvalue : ∀ key ∈ m.keys, m.get? key = some (value key)) :
    m.entries = m.keys.map fun key => (key, value key) := by
  have hentry : ∀ e ∈ m.entries, e = (e.1, value e.1) := by
    intro e he
    obtain ⟨before, after, hentries⟩ := List.append_of_mem he
    have hbefore : ∀ other ∈ before, e.1 ≠ other.1 := by
      intro other hother hsame
      rw [keys, hentries, List.map_append, List.nodup_append] at hkeys
      exact hkeys.2.2 other.1 (List.mem_map_of_mem hother) e.1 (by simp) hsame.symm
    have hfound : m.get? e.1 = some e.2 := List.lookup_eq_some_iff.mpr
      ⟨before, after, hentries, fun other hother => bne_iff_ne.mpr (hbefore other hother)⟩
    rw [hvalue e.1 (List.mem_map_of_mem he)] at hfound
    rw [Option.some.inj hfound]
  rw [keys, List.map_map]
  exact (List.map_id m.entries).symm.trans (List.map_congr_left hentry)

namespace Lint

/-- The non-empty ids of a table, in row order. -/
def rowIds (table : Table) : List String :=
  (table.rows.map Row.id).filter (· ≠ "")

/-- The ids that several rows of a table share, each once, in the order in which they first
occur. -/
def repeatedIds (table : Table) : List String :=
  (rowIds table).eraseDups.filter fun id => 1 < (rowIds table).count id

/-- What a map of counts holds after these ids: each of them once, in the order of their first
occurrence, and the number of its occurrences. -/
structure Counted (ids : List String) (counts : OrderedMap Nat) : Prop where
  keys : counts.keys = ids.eraseDups
  nodup : counts.keys.Nodup
  get? : ∀ id, counts.get? id = if id ∈ ids then some (ids.count id) else none

variable {ids : List String} {counts : OrderedMap Nat}

/-- One id more. -/
theorem Counted.countId (h : Counted ids counts) {id : String} (hid : id ≠ "") :
    Counted (ids ++ [id]) (countId counts id) := by
  have hcount : (counts.get? id).getD 0 = ids.count id := by
    rw [h.get?]
    split
    · rfl
    · next hmem => exact (List.count_eq_zero.mpr hmem).symm
  rw [Lint.countId, if_neg hid, hcount]
  have hkeys : id ∈ counts.keys ↔ id ∈ ids := by rw [h.keys, List.mem_eraseDups]
  refine ⟨?_, ?_, fun other => ?_⟩
  · rw [OrderedMap.keys_insert, List.eraseDups_append, ← h.keys]
    by_cases hmem : id ∈ ids
    · simp [hkeys, hmem, List.removeAll]
    · simp [hkeys, hmem, List.removeAll, List.eraseDups_cons]
  · rw [OrderedMap.keys_insert]
    split
    · exact h.nodup
    · next hmem => exact List.concat_eq_append ▸ h.nodup.concat hmem
  · rw [OrderedMap.get?_insert, h.get?]
    by_cases hother : other = id
    · simp [hother]
    · simp [hother, List.count_append, Ne.symm hother]

/-- By induction on the rows still to come: rows without an id change nothing. -/
theorem Counted.foldl (h : Counted ids counts) (rows : List Row) :
    Counted (ids ++ (rows.map Row.id).filter (· ≠ ""))
      (rows.foldl (fun counts row => Lint.countId counts row.id) counts) := by
  induction rows generalizing ids counts with
  | nil => simpa using h
  | cons row rest ih =>
    rw [List.foldl_cons, List.map_cons]
    by_cases hid : row.id = ""
    · rw [Lint.countId, if_pos hid, List.filter_cons_of_neg (by simpa using hid)]
      exact ih h
    · rw [List.filter_cons_of_pos (by simpa using hid)]
      simpa using ih (h.countId hid)

theorem counted_idCounts (table : Table) : Counted (rowIds table) (idCounts table) := by
  have hempty : Counted [] .empty := ⟨rfl, .nil, fun _ => rfl⟩
  exact hempty.foldl table.rows

/-- The counts that the loop leaves behind. -/
theorem entries_idCounts (table : Table) : (idCounts table).entries =
    (rowIds table).eraseDups.map fun id => (id, (rowIds table).count id) := by
  have hcounted := counted_idCounts table
  rw [← hcounted.keys]
  refine OrderedMap.entries_eq_map_keys hcounted.nodup fun id hid => ?_
  rw [hcounted.keys, List.mem_eraseDups] at hid
  rw [hcounted.get?, if_pos hid]

/-- **What the loop finds**: the ids that come up several times, with their numbers. -/
theorem filter_entries_idCounts (table : Table) :
    ((idCounts table).entries.filter fun (_, count) => 1 < count) =
      (repeatedIds table).map fun id => (id, (rowIds table).count id) := by
  rw [entries_idCounts, List.filter_map]
  rfl

end Lint

end TableForge
