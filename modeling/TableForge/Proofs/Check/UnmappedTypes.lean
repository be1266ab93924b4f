import Mathlib.Data.List.Basic
import Mathlib.Data.List.Forall2
import Mathlib.Data.Prod.Lex
import Mathlib.Order.Bounds.Basic
import TableForge.Template.Package

/-!
# Types that are written as they are

The type map leaves a type alone if it has no entry for it, and a lint notes such types. A type may
come up in many fields of many tables; the lint passes over the fields once and remembers what it
has noted. So it notes exactly the types without an entry, each once, where it first comes up, and
in this order.

Fields stand at places, which are compared by the table first and by the column second.
-/
namespace TableForge

/-! ## Places of fields -/

/-- The number of a table in its dataset and of a field in its table, in this order. -/
abbrev FieldPlace := Nat ×ₗ Nat

/-- A field with its place and its table. -/
abbrev PlacedField := FieldPlace × Table × Field

namespace Dataset

/-- The field at a place, and the table that it stands in. -/
def fieldAt? (d : Dataset) (place : FieldPlace) : Option (Table × Field) :=
  d.tables[(ofLex place).1]?.bind fun table =>
    table.fields[(ofLex place).2]?.map fun f => (table, f)

/-- The places of the fields of a type. -/
def placesOf (d : Dataset) (type : String) : Set FieldPlace :=
  {place | ∃ table f, d.fieldAt? place = some (table, f) ∧ f.type = type}

/-- Every field of a dataset. -/
def placedFields (d : Dataset) : List PlacedField :=
  d.tables.zipIdx.flatMap fun (table, i) =>
    table.fields.zipIdx.map fun (f, j) => (toLex (i, j), table, f)

variable {d : Dataset}

theorem mem_placedFields_iff {place : FieldPlace} {table : Table} {f : Field} :
    (place, table, f) ∈ d.placedFields ↔ d.fieldAt? place = some (table, f) := by
  simp only [placedFields, fieldAt?, List.mem_flatMap, List.mem_map, Prod.exists,
    List.mem_zipIdx_iff_getElem?, Option.bind_eq_some_iff, Option.map_eq_some_iff]
  constructor
  · rintro ⟨other, i, htable, g, j, hf, he⟩
    cases he
    exact ⟨table, htable, f, hf, rfl⟩
  · rintro ⟨other, htable, g, hf, he⟩
    cases he
    exact ⟨table, (ofLex place).1, htable, f, (ofLex place).2, hf, rfl⟩

theorem pairwise_zipIdx {α : Type} (items : List α) :
    items.zipIdx.Pairwise fun a b => a.2 < b.2 := by
  rw [← List.pairwise_map, List.zipIdx_map_snd]
  exact List.pairwise_lt_range'

/-- Fields come in the order of their places. -/
theorem pairwise_placedFields (d : Dataset) : d.placedFields.Pairwise fun a b => a.1 < b.1 := by
  rw [placedFields, List.pairwise_flatMap]
  constructor
  · rintro ⟨table, i⟩ -
    rw [List.pairwise_map]
    refine (pairwise_zipIdx table.fields).imp ?_
    intro a b hlt
    exact Prod.Lex.toLex_lt_toLex.mpr (Or.inr ⟨rfl, hlt⟩)
  · refine (pairwise_zipIdx d.tables).imp fun hlt a ha b hb => ?_
    obtain ⟨_, -, rfl⟩ := List.mem_map.mp ha
    obtain ⟨_, -, rfl⟩ := List.mem_map.mp hb
    exact Prod.Lex.toLex_lt_toLex.mpr (Or.inl hlt)

end Dataset

/-- What a lint sees of a field: the name of its table and the field. -/
def seenField (e : PlacedField) : String × Field := (e.2.1.name, e.2.2)

theorem Lint.allFields_eq (d : Dataset) : allFields d = d.placedFields.map seenField := by
  have hfields (table : Table) (i : Nat) :
      ((table.fields.zipIdx.map fun (f, j) => (toLex (i, j), table, f)).map seenField) =
        table.fields.map fun f => (table.name, f) := by
    conv_rhs => rw [← List.zipIdx_map_fst 0 table.fields]
    simp only [List.map_map]
    rfl
  rw [allFields, Dataset.placedFields, List.map_flatMap]
  conv_lhs => rw [← List.zipIdx_map_fst 0 d.tables]
  rw [List.flatMap_map]
  exact List.flatMap_congr fun entry _ => (hfields entry.1 entry.2).symm

/-! ## First occurrences -/

/-- Of fields that come in the order of their places, those are kept whose type is not among the
types seen before and not that of a field at an earlier place. -/
theorem Lint.exists_firstOfType {placed : List PlacedField}
    (hsorted : placed.Pairwise fun a b => a.1 < b.1) (seen : List String) :
    ∃ kept : List PlacedField,
      firstOfType seen (placed.map seenField) = kept.map seenField ∧ kept.Sublist placed ∧
      ∀ e, e ∈ kept ↔ e ∈ placed ∧ e.2.2.type ∉ seen ∧
        ∀ b ∈ placed, b.1 < e.1 → b.2.2.type ≠ e.2.2.type := by
  -- the types seen grow with every field that is kept, so the induction is for all of them at once
  induction placed generalizing seen with
  | nil => exact ⟨[], rfl, .refl _, by simp only [List.not_mem_nil, false_and, implies_true]⟩
  | cons x rest ih =>
    obtain ⟨hfirst, hrest⟩ := List.pairwise_cons.mp hsorted
    by_cases hx : x.2.2.type ∈ seen
    · obtain ⟨kept, hkept, hsub, hmem⟩ := ih hrest seen
      refine ⟨kept, ?_, hsub.cons x, fun e => ?_⟩
      · rw [← hkept]
        simp only [List.map_cons, seenField, firstOfType, if_pos hx]
      · rw [hmem, List.mem_cons, List.forall_mem_cons]
        constructor
        · rintro ⟨he, htype, hearlier⟩
          refine ⟨Or.inr he, htype, fun _ hsame => htype (hsame ▸ hx), hearlier⟩
        · rintro ⟨rfl | he, htype, -, hearlier⟩
          · exact absurd hx htype
          · exact ⟨he, htype, hearlier⟩
    · obtain ⟨kept, hkept, hsub, hmem⟩ := ih hrest (x.2.2.type :: seen)
      refine ⟨x :: kept, ?_, hsub.cons_cons x, fun e => ?_⟩
      · rw [List.map_cons (l := kept), ← hkept]
        simp only [List.map_cons, seenField, firstOfType, if_neg hx]
      · rw [List.mem_cons, hmem, List.mem_cons, List.forall_mem_cons, List.mem_cons, not_or]
        constructor
        · rintro (rfl | ⟨he, ⟨hother, htype⟩, hearlier⟩)
          · exact ⟨Or.inl rfl, hx, fun h => absurd h (lt_irrefl _),
              fun b hb h => absurd (hfirst b hb) (lt_asymm h)⟩
          · exact ⟨Or.inr he, htype, fun _ => Ne.symm hother, hearlier⟩
        · rintro ⟨rfl | he, htype, hother, hearlier⟩
          · exact Or.inl rfl
          · exact Or.inr ⟨he, ⟨Ne.symm (hother (hfirst e he)), htype⟩, hearlier⟩

/-! ## Notes -/

namespace TypeMap

variable {types : TypeMap} {type : String}

theorem contains_iff : types.contains type = true ↔ type ∈ types.keys := by
  simp [OrderedMap.contains, OrderedMap.keys]

/-- A type without an entry is written as it is. -/
theorem resolve_of_not_mem_keys (hlookup : type ≠ lookupType) (h : type ∉ types.keys) :
    types.resolve type = type := by
  have hnone : types.get? type = none := by
    rw [OrderedMap.get?, List.lookup_eq_none_iff]
    intro entry hentry
    have hne : type ≠ entry.1 := fun he => h (he ▸ List.mem_map_of_mem hentry)
    simpa using hne
  rw [resolve, if_neg hlookup, named, hnone, Option.getD_none]

end TypeMap

/-- Whether a type is neither that of lookup fields nor one that the type map has an entry for. -/
def Unmapped (types : TypeMap) (type : String) : Prop :=
  type ≠ lookupType ∧ type ∉ types.keys

namespace Lint

theorem isUnmapped_iff {types : TypeMap} {f : Field} :
    isUnmapped types f = true ↔ Unmapped types f.type := by
  rw [Unmapped, ← TypeMap.contains_iff]
  simp [isUnmapped]

/-- The note that a type is written as it is, at the place of a field. -/
def typeNote (type table field : String) : Diagnostic where
  severity := .info
  lint := "unmapped-type"
  message := "type '" ++ type ++ "' is not mapped and will be written as-is"
  location := some ("tables." ++ table ++ "." ++ field)

/-- A note says which type it is about. -/
theorem typeNote_inj {type table field type' table' field' : String}
    (h : typeNote type table field = typeNote type' table' field') : type = type' :=
  (String.append_right_inj _).mp ((String.append_left_inj _).mp (congrArg Diagnostic.message h))

theorem exists_unmappedType_check (input : CheckInput) :
    ∃ kept : List PlacedField, unmappedType.check input =
        (kept.map fun e => typeNote e.2.2.type e.2.1.name e.2.2.name) ∧
      (kept.Pairwise fun a b => a.1 < b.1) ∧
      ∀ place table f, (place, table, f) ∈ kept ↔
        input.dataset.fieldAt? place = some (table, f) ∧ Unmapped input.types f.type ∧
          IsLeast (input.dataset.placesOf f.type) place := by
  have hsorted := input.dataset.pairwise_placedFields.filter fun e => isUnmapped input.types e.2.2
  obtain ⟨kept, hkept, hsub, hmem⟩ := exists_firstOfType hsorted []
  refine ⟨kept, ?_, hsorted.sublist hsub, fun place table f => ?_⟩
  · have hcheck : unmappedType.check input =
        (firstOfType [] ((allFields input.dataset).filter fun e =>
          isUnmapped input.types e.2)).map fun e => typeNote e.2.type e.1 e.2.name := rfl
    have hfields : ((allFields input.dataset).filter fun e => isUnmapped input.types e.2) =
        (input.dataset.placedFields.filter fun e =>
          isUnmapped input.types e.2.2).map seenField := by
      rw [allFields_eq, List.filter_map]
      rfl
    rw [hcheck, hfields, hkept, List.map_map]
    rfl
  · rw [hmem, List.mem_filter, Dataset.mem_placedFields_iff, isUnmapped_iff, and_assoc]
    refine and_congr_right fun hat => and_congr_right fun htype => ?_
    constructor
    · rintro ⟨-, hearlier⟩
      refine ⟨⟨table, f, hat, rfl⟩, ?_⟩
      rintro other ⟨table', f', hother, hsame⟩
      refine not_lt.mp fun hlt => hearlier (other, table', f') ?_ hlt hsame
      rw [List.mem_filter, Dataset.mem_placedFields_iff, isUnmapped_iff, hsame]
      exact ⟨hother, htype⟩
    · rintro ⟨-, hleast⟩
      refine ⟨List.not_mem_nil, ?_⟩
      rintro ⟨other, table', f'⟩ hb hlt hsame
      have hother := Dataset.mem_placedFields_iff.mp (List.mem_filter.mp hb).1
      exact absurd hlt (not_lt.mpr (hleast ⟨table', f', hother, hsame⟩))

end Lint

/-- **The lint notes every type that is written as it is, once.** What it notes are the types that
are not `lookup` and have no entry in the type map, each with the first place where a field of this
type stands and with no other place; the notes come in the order of these places and name the table
and the field there. Notes on different types are different. The row pass writes these types as they
are. -/
theorem unmapped_types_reported_once (g : Generator) :
    (∃ reported : List (String × FieldPlace),
      (∀ type place, (type, place) ∈ reported ↔
        (type ≠ lookupType ∧ type ∉ g.types.keys) ∧
          IsLeast (g.dataset.placesOf type) place) ∧
      (reported.map Prod.fst).Nodup ∧
      (reported.Pairwise fun a b => a.2 < b.2) ∧
      List.Forall₂ (fun report note => ∃ table f,
          g.dataset.fieldAt? report.2 = some (table, f) ∧ f.type = report.1 ∧
          note = Lint.typeNote report.1 table.name f.name)
        reported (Lint.unmappedType.check g.checkInput)) ∧
    (∀ type table field type' table' field',
      Lint.typeNote type table field = Lint.typeNote type' table' field' → type = type') ∧
    ∀ m : RowClass.Member, m.field.type ≠ lookupType → m.field.type ∉ g.types.keys →
      m.typeName g.context = m.field.type := by
  refine ⟨?_, fun _ _ _ _ _ _ h => Lint.typeNote_inj h,
    fun m hlookup hkeys => TypeMap.resolve_of_not_mem_keys hlookup hkeys⟩
  obtain ⟨kept, hcheck, hsorted, hmem⟩ := Lint.exists_unmappedType_check g.checkInput
  have hmember : ∀ type place, (type, place) ∈ (kept.map fun e => (e.2.2.type, e.1)) ↔
      Unmapped g.types type ∧ IsLeast (g.dataset.placesOf type) place := by
    intro type place
    rw [List.mem_map]
    constructor
    · rintro ⟨⟨_, table, f⟩, he, hpair⟩
      cases hpair
      exact ((hmem _ _ _).mp he).2
    · rintro ⟨htype, hleast⟩
      obtain ⟨table, f, hat, rfl⟩ := hleast.1
      exact ⟨(place, table, f), (hmem _ _ _).mpr ⟨hat, htype, hleast⟩, rfl⟩
  refine ⟨kept.map fun e => (e.2.2.type, e.1), hmember, ?_, List.pairwise_map.mpr hsorted, ?_⟩
  · rw [List.map_map, List.nodup_iff_pairwise_ne, List.pairwise_map]
    refine hsorted.imp_of_mem fun {a b} ha hb hlt hsame => ?_
    have hleast := ((hmem a.1 a.2.1 a.2.2).mp ha).2.2
    have hleast' := ((hmem b.1 b.2.1 b.2.2).mp hb).2.2
    have htype : a.2.2.type = b.2.2.type := hsame
    rw [htype] at hleast
    exact absurd hlt (by rw [hleast.unique hleast']; exact lt_irrefl _)
  · rw [hcheck, List.forall₂_map_left_iff, List.forall₂_map_right_iff, List.forall₂_same]
    intro e he
    exact ⟨e.2.1, e.2.2, ((hmem e.1 e.2.1 e.2.2).mp he).1, rfl, rfl⟩

/-- Two tables with fields of types that have no entry, one of which comes up in both tables, and a
type map with an entry for `lookup`. -/
def unmappedSample : Generator where
  config := {}
  dataset := {
    package := none
    tables := [
      { name := "item", rows := [], fields :=
        [⟨"Id", "int", none⟩, ⟨"kind", "Color", none⟩, ⟨"owner", "lookup", some "other"⟩,
          ⟨"shade", "Color", none⟩] },
      { name := "other", rows := [], fields :=
        [⟨"ratio", "float", none⟩, ⟨"tint", "Color", none⟩] }] }
  templates := {}
  renderer := FragmentPatterns.renderer {}
  types := .ofList [("lookup", "Handle"), ("int", "i64")]
  replacements := []
  naming := .standard

/-- `Color` is noted where it first comes up, and the row pass writes it as it is. -/
theorem unmapped_types_reported_once_recurring :
    Lint.unmappedType.check unmappedSample.checkInput =
      [Lint.typeNote "Color" "item" "kind", Lint.typeNote "float" "other" "ratio"] ∧
    RowClass.Member.typeName unmappedSample.context
      ⟨⟨"tint", "Color", none⟩, .plain⟩ = "Color" := by
  refine ⟨by decide +kernel, ?_⟩
  exact (unmapped_types_reported_once unmappedSample).2.2 _ (by decide) (by decide)

end TableForge
