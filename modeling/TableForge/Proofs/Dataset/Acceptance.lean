import TableForge.Proofs.Dataset.Decoding
import TableForge.Proofs.Dataset.WellFormed
import TableForge.Proofs.Toml.ScalarText

/-!
# Which drafts are accepted, and what is wrong with the others

Three traversals look at a draft: one at its cells, one at the names of its tables, one at its
fields, and each stops at the first fault it meets. `Draft.Accepted` says what a draft must be like,
`Draft.FirstFault` which error a draft gets that is not: a fault is the first when its own traversal
found nothing in front of it and the traversals before found nothing at all. The lists are cut at
the fault, so the place that an error names can be read off the cut.
-/
namespace TableForge

open Toml (Value)

/-! ## The two sides -/

def DraftTable.HasScalars (table : DraftTable) : Prop :=
  ∀ row ∈ table.rows, ∀ cell ∈ row, cell.2.IsScalar

namespace Draft

def tableNames (draft : Draft) : List String :=
  draft.tables.map DraftTable.name

/-- What is asked of a draft. -/
structure Accepted (draft : Draft) : Prop where
  /-- No cell is an array or a table. -/
  scalar : ∀ table ∈ draft.tables, table.HasScalars
  names_nodup : draft.tableNames.Nodup
  /-- Exactly the lookup fields have a target, and it is the name of a table, wherever it stands. -/
  targeted : ∀ table ∈ draft.tables, ∀ f ∈ table.fields, f.Targeted draft.tableNames

/-- A dataset that holds what a draft says, in the same order and with every cell as the text that
its kind of scalar is shown as. -/
structure HasTexts (draft : Draft) (d : Dataset) : Prop where
  package : d.package = draft.package
  tables : List.Forall₂ (fun (written : DraftTable) (table : Table) =>
    table.name = written.name ∧ table.fields = written.fields ∧
      List.Forall₂ (fun (cells : List (String × Value)) (row : Row) =>
        List.Forall₂ (fun (cell : String × Value) (entry : String × String) =>
          entry.1 = cell.1 ∧ cell.2.ShownAs entry.2) cells row.cells.entries)
        written.rows table.rows) draft.tables d.tables

end Draft

/-- What a field without a proper target is refused for. -/
inductive Field.Fault (source : Source) (names : List String) (table : String) (f : Field) :
    LoadError → Prop
  | noTarget (hlookup : f.type = lookupType) (htarget : f.lookup = none) :
    Fault source names table f (source.violation (.lookupWithoutTarget table f.name))
  | unknownTarget {target : String} (hlookup : f.type = lookupType)
    (htarget : f.lookup = some target) (hunknown : target ∉ names) :
    Fault source names table f (.unknownLookupTable table f.name target (source.findQuoted target))
  | surplusTarget {target : String} (hlookup : f.type ≠ lookupType)
    (htarget : f.lookup = some target) :
    Fault source names table f (source.violation (.targetWithoutLookup table f.name f.type))

/-- The error for the first fault of a draft. -/
inductive Draft.FirstFault (source : Source) (draft : Draft) : LoadError → Prop
  | cell {before after : List DraftTable} {table : DraftTable}
    {earlier later : List (List (String × Value))} {front back : List (String × Value)}
    {column : String} {value : Value}
    (htables : draft.tables = before ++ table :: after)
    (hrows : table.rows = earlier ++ (front ++ (column, value) :: back) :: later)
    (hvalue : ¬ value.IsScalar)
    (hbefore : ∀ t ∈ before, t.HasScalars)
    (hearlier : ∀ row ∈ earlier, ∀ cell ∈ row, cell.2.IsScalar)
    (hfront : ∀ cell ∈ front, cell.2.IsScalar) :
    FirstFault source draft
      (source.violation (.cellNotScalar table.name column (earlier.length + 1) value.kindName))
  | duplicate {before after : List String} {name : String}
    (hscalar : ∀ table ∈ draft.tables, table.HasScalars)
    (hnames : draft.tableNames = before ++ name :: after)
    (hrepeat : name ∈ before)
    (hbefore : before.Nodup) :
    FirstFault source draft
      (.duplicateTable name (source.findQuotedTwice name).1 (source.findQuotedTwice name).2)
  | field {before after : List DraftTable} {table : DraftTable} {front back : List Field}
    {f : Field} {error : LoadError}
    (hscalar : ∀ table ∈ draft.tables, table.HasScalars)
    (hnodup : draft.tableNames.Nodup)
    (htables : draft.tables = before ++ table :: after)
    (hfields : table.fields = front ++ f :: back)
    (hfault : f.Fault source draft.tableNames table.name error)
    (hbefore : ∀ t ∈ before, ∀ g ∈ t.fields, g.Targeted draft.tableNames)
    (hfront : ∀ g ∈ front, g.Targeted draft.tableNames) :
    FirstFault source draft error

/-! ## Cells -/

theorem exists_mem_zipIdx {α : Type} {l : List α} (k : Nat) {a : α} (h : a ∈ l) :
    ∃ i, (a, i) ∈ l.zipIdx k := by
  obtain ⟨i, hi⟩ := List.mem_iff_getElem?.mp h
  exact ⟨k + i, List.mk_add_mem_zipIdx_iff_getElem?.mpr hi⟩

/-- Searching numbered items goes by the items when the number never decides about a hit. -/
theorem findSome?_zipIdx_eq_some_iff {α β : Type} {f : α × Nat → Option β} {l : List α} {k : Nat}
    {b : β} (hf : ∀ a i j, f (a, i) = none → f (a, j) = none) :
    (l.zipIdx k).findSome? f = some b ↔ ∃ before a after, l = before ++ a :: after ∧
      f (a, k + before.length) = some b ∧ ∀ x ∈ before, f (x, k) = none := by
  rw [List.findSome?_eq_some_iff]
  constructor
  · rintro ⟨front, ⟨a, number⟩, back, hl, hb, hfront⟩
    obtain ⟨before, rest, rfl, rfl, hrest⟩ := List.zipIdx_eq_append_iff.mp hl
    obtain ⟨a, after, rfl, he, -⟩ := List.zipIdx_eq_cons_iff.mp hrest.symm
    cases he
    refine ⟨before, a, after, rfl, hb, fun x hx => ?_⟩
    obtain ⟨i, hi⟩ := exists_mem_zipIdx k hx
    exact hf x i k (hfront (x, i) hi)
  · rintro ⟨before, a, after, rfl, hb, hbefore⟩
    refine ⟨before.zipIdx k, (a, k + before.length), after.zipIdx (k + before.length + 1),
      by simp [List.zipIdx_append], hb, ?_⟩
    rintro ⟨x, i⟩ hx
    exact hf x k i (hbefore x (List.fst_mem_of_mem_zipIdx hx))

namespace Draft

variable {draft : Draft} {source : Source}

/-- Within range the test of a cell is whether it is a scalar. -/
theorem rowFault?_eq_findSome? {table : String} {number : Nat} {row : List (String × Value)}
    (h : ∀ cell ∈ row, cell.2 ≠ .hugeFloat) :
    rowFault? table number row = row.findSome? fun cell => if cell.2.IsScalar then none
      else some (.cellNotScalar table cell.1 number cell.2.kindName) := by
  induction row with
  | nil => rfl
  | cons cell rest ih =>
    obtain ⟨hcell, hrest⟩ := List.forall_mem_cons.mp h
    rw [rowFault?, List.findSome?_cons, List.findSome?_cons, ← ih hrest]
    have hiff := Value.scalarText?_eq_none_iff hcell
    cases hs : cell.2.scalarText? with
    | some text =>
      have hscalar : cell.2.IsScalar := by simpa [hs] using hiff
      simp [hs, hscalar, rowFault?]
    | none => simp [hs, hiff.mp hs]

theorem rowFault?_eq_none_iff {table : String} {number : Nat} {row : List (String × Value)}
    (h : ∀ cell ∈ row, cell.2 ≠ .hugeFloat) :
    rowFault? table number row = none ↔ ∀ cell ∈ row, cell.2.IsScalar := by
  simp [rowFault?_eq_findSome? h]

theorem rowFault?_eq_some_iff {table : String} {number : Nat} {row : List (String × Value)}
    {violation : Violation} (h : ∀ cell ∈ row, cell.2 ≠ .hugeFloat) :
    rowFault? table number row = some violation ↔ ∃ front column value back,
      row = front ++ (column, value) :: back ∧ ¬ value.IsScalar ∧
      (∀ cell ∈ front, cell.2.IsScalar) ∧
      violation = .cellNotScalar table column number value.kindName := by
  rw [rowFault?_eq_findSome? h, List.findSome?_eq_some_iff]
  constructor
  · rintro ⟨front, ⟨column, value⟩, back, hrow, hfault, hfront⟩
    by_cases hvalue : value.IsScalar
    · simp [hvalue] at hfault
    · refine ⟨front, column, value, back, hrow, hvalue, by simpa using hfront, ?_⟩
      simpa [hvalue] using hfault.symm
  · rintro ⟨front, column, value, back, hrow, hvalue, hfront, rfl⟩
    exact ⟨front, (column, value), back, hrow, by simp [hvalue], by simpa using hfront⟩

variable (hdecoded : draft.Decoded)
include hdecoded

theorem rowsFault?_eq_none_iff {table : DraftTable} (ht : table ∈ draft.tables) :
    ((table.rows.zipIdx 1).findSome? fun (row, number) => rowFault? table.name number row) = none ↔
      table.HasScalars := by
  rw [List.findSome?_eq_none_iff]
  constructor
  · intro h row hrow
    obtain ⟨i, hi⟩ := exists_mem_zipIdx 1 hrow
    exact (rowFault?_eq_none_iff (hdecoded.inRange ht hrow)).mp (h (row, i) hi)
  · rintro h ⟨row, number⟩ hrow
    have hmem := List.fst_mem_of_mem_zipIdx hrow
    exact (rowFault?_eq_none_iff (hdecoded.inRange ht hmem)).mpr (h row hmem)

theorem cellFault?_eq_none_iff :
    draft.cellFault? = none ↔ ∀ table ∈ draft.tables, table.HasScalars := by
  rw [cellFault?, List.findSome?_eq_none_iff]
  exact forall₂_congr fun table ht => rowsFault?_eq_none_iff hdecoded ht

theorem cellFault?_eq_some_iff {violation : Violation} :
    draft.cellFault? = some violation ↔
      ∃ before table after earlier front column value back later,
        draft.tables = before ++ table :: after ∧
        table.rows = earlier ++ (front ++ (column, value) :: back) :: later ∧
        ¬ value.IsScalar ∧ (∀ t ∈ before, t.HasScalars) ∧
        (∀ row ∈ earlier, ∀ cell ∈ row, cell.2.IsScalar) ∧ (∀ cell ∈ front, cell.2.IsScalar) ∧
        violation = .cellNotScalar table.name column (earlier.length + 1) value.kindName := by
  -- whether a row is faulty does not depend on its number
  have hnumber : ∀ (name : String) (row : List (String × Value)) (i j : Nat),
      rowFault? name i row = none → rowFault? name j row = none := by
    intro name row i j h
    rw [rowFault?, List.findSome?_eq_none_iff] at h ⊢
    intro cell hcell
    have hnone := h cell hcell
    dsimp only at hnone ⊢
    split at hnone <;> simp_all
  rw [cellFault?, List.findSome?_eq_some_iff]
  constructor
  · rintro ⟨before, table, after, htables, hfault, hbefore⟩
    have ht : table ∈ draft.tables := by simp [htables]
    obtain ⟨earlier, row, later, hrows, hrow, hearlier⟩ :=
      (findSome?_zipIdx_eq_some_iff (hnumber table.name)).mp hfault
    have hrange := fun row (hrow : row ∈ table.rows) => hdecoded.inRange ht hrow
    rw [hrows, List.forall_mem_append, List.forall_mem_cons] at hrange
    obtain ⟨front, column, value, back, rfl, hvalue, hfront, rfl⟩ :=
      (rowFault?_eq_some_iff hrange.2.1).mp hrow
    refine ⟨before, table, after, earlier, front, column, value, back, later, htables, hrows,
      hvalue, fun t hb => ?_, fun r hr => ?_, hfront, by rw [Nat.add_comm]⟩
    · exact (rowsFault?_eq_none_iff hdecoded (by simp [htables, hb])).mp (hbefore t hb)
    · exact (rowFault?_eq_none_iff (hrange.1 r hr)).mp (hearlier r hr)
  · rintro ⟨before, table, after, earlier, front, column, value, back, later, htables, hrows,
      hvalue, hbefore, hearlier, hfront, rfl⟩
    have ht : table ∈ draft.tables := by simp [htables]
    have hrange := fun row (hrow : row ∈ table.rows) => hdecoded.inRange ht hrow
    rw [hrows, List.forall_mem_append, List.forall_mem_cons] at hrange
    refine ⟨before, table, after, htables, ?_, fun t hb => ?_⟩
    · refine (findSome?_zipIdx_eq_some_iff (hnumber table.name)).mpr
        ⟨earlier, _, later, hrows, ?_, fun r hr => ?_⟩
      · exact (rowFault?_eq_some_iff hrange.2.1).mpr
          ⟨front, column, value, back, rfl, hvalue, hfront, by rw [Nat.add_comm]⟩
      · exact (rowFault?_eq_none_iff (hrange.1 r hr)).mpr (hearlier r hr)
    · exact (rowsFault?_eq_none_iff hdecoded (by simp [htables, hb])).mpr (hbefore t hb)

end Draft

/-! ## Names and fields -/

namespace Dataset

theorem firstRepeat?_eq_some_iff {seen names : List String} {name : String} :
    firstRepeat? seen names = some name ↔ ∃ before after, names = before ++ name :: after ∧
      (name ∈ seen ∨ name ∈ before) ∧ before.Nodup ∧ ∀ x ∈ before, x ∉ seen := by
  induction names generalizing seen with
  | nil => simp [firstRepeat?]
  | cons first rest ih =>
    by_cases h : first ∈ seen
    · rw [firstRepeat?, if_pos h]
      constructor
      · intro he
        cases he
        exact ⟨[], rest, rfl, .inl h, .nil, by simp⟩
      · rintro ⟨before, after, he, -, -, hseen⟩
        cases before with
        | nil => simp [(List.cons.inj he).1]
        | cons x before => exact absurd h (hseen first (by simp [(List.cons.inj he).1]))
    · rw [firstRepeat?, if_neg h, ih]
      constructor
      · rintro ⟨before, after, rfl, hmem, hnodup, hseen⟩
        simp only [List.mem_cons, not_or] at hmem hseen
        refine ⟨first :: before, after, rfl, ?_,
          List.nodup_cons.mpr ⟨fun hf => (hseen first hf).1 rfl, hnodup⟩,
          List.forall_mem_cons.mpr ⟨h, fun x hx => (hseen x hx).2⟩⟩
        rcases hmem with (rfl | hmem) | hmem
        · exact .inr (by simp)
        · exact .inl hmem
        · exact .inr (by simp [hmem])
      · rintro ⟨before, after, he, hmem, hnodup, hseen⟩
        cases before with
        | nil =>
          obtain rfl := (List.cons.inj he).1
          simp [h] at hmem
        | cons x before =>
          obtain ⟨rfl, rfl⟩ := List.cons.inj he
          obtain ⟨hx, hnodup⟩ := List.nodup_cons.mp hnodup
          refine ⟨before, after, rfl, ?_, hnodup, fun y hy => ?_⟩
          · simpa [or_assoc, or_left_comm] using hmem
          · exact List.not_mem_cons_of_ne_of_not_mem (fun hyx => hx (hyx ▸ hy))
              (hseen y (by simp [hy]))

theorem fieldFault?_eq_some_iff {source : Source} {names : List String} {table : String}
    {f : Field} {error : LoadError} :
    fieldFault? source names table f = some error ↔ f.Fault source names table error := by
  constructor
  · intro h
    unfold fieldFault? at h
    split at h
    · next hl ht =>
      cases h
      exact .noTarget (of_decide_eq_true hl) ht
    · next target hl ht =>
      split at h
      · cases h
      · next hunknown =>
        cases h
        exact .unknownTarget (of_decide_eq_true hl) ht hunknown
    · next target hl ht =>
      cases h
      exact .surplusTarget (of_decide_eq_false hl) ht
    · cases h
  · intro h
    cases h with
    | noTarget hl ht => simp [fieldFault?, Field.isLookup, hl, ht]
    | unknownTarget hl ht hunknown => simp [fieldFault?, Field.isLookup, hl, ht, hunknown]
    | surplusTarget hl ht => simp [fieldFault?, Field.isLookup, hl, ht]

end Dataset

namespace Draft

variable {draft : Draft} {source : Source}

theorem tableNames_texts : draft.texts.tableNames = draft.tableNames := by
  simp [texts, Dataset.tableNames, tableNames, tableTexts, Function.comp_def]

theorem fieldsFault?_eq_some_iff {names : List String} {error : LoadError} :
    (draft.texts.tables.findSome? fun table =>
      table.fields.findSome? (Dataset.fieldFault? source names table.name)) = some error ↔
    ∃ before table after front f back, draft.tables = before ++ table :: after ∧
      table.fields = front ++ f :: back ∧ f.Fault source names table.name error ∧
      (∀ t ∈ before, ∀ g ∈ t.fields, g.Targeted names) ∧ ∀ g ∈ front, g.Targeted names := by
  rw [texts, List.findSome?_map, List.findSome?_eq_some_iff]
  simp only [Function.comp_apply, tableTexts, List.findSome?_eq_some_iff,
    List.findSome?_eq_none_iff, Dataset.fieldFault?_eq_some_iff, Dataset.fieldFault?_eq_none_iff]
  constructor
  · rintro ⟨before, table, after, htables, ⟨front, f, back, hfields, hfault, hfront⟩, hbefore⟩
    exact ⟨before, table, after, front, f, back, htables, hfields, hfault, hbefore, hfront⟩
  · rintro ⟨before, table, after, front, f, back, htables, hfields, hfault, hbefore, hfront⟩
    exact ⟨before, table, after, htables, ⟨front, f, back, hfields, hfault, hfront⟩, hbefore⟩

theorem not_hasScalars_of_cut {before after : List DraftTable} {table : DraftTable}
    {earlier later : List (List (String × Value))} {front back : List (String × Value)}
    {column : String} {value : Value} (htables : draft.tables = before ++ table :: after)
    (hrows : table.rows = earlier ++ (front ++ (column, value) :: back) :: later)
    (hvalue : ¬ value.IsScalar) : ¬ ∀ table ∈ draft.tables, table.HasScalars := by
  intro h
  have hcells := h table (by simp [htables]) (front ++ (column, value) :: back) (by simp [hrows])
  exact hvalue (hcells (column, value) (by simp))

/-- With scalars everywhere the outcome depends on names and fields alone. -/
theorem fault?_texts_eq_some_iff {error : LoadError}
    (hscalar : ∀ table ∈ draft.tables, table.HasScalars) :
    Dataset.fault? source draft.texts = some error ↔ draft.FirstFault source error := by
  rw [Dataset.fault?, tableNames_texts]
  cases hr : Dataset.firstRepeat? [] draft.tableNames with
  | some name =>
    obtain ⟨before, after, hnames, hmem, hnodup, -⟩ := Dataset.firstRepeat?_eq_some_iff.mp hr
    have hrepeat : name ∈ before := by simpa using hmem
    constructor
    · intro he
      cases he
      exact .duplicate hscalar hnames hrepeat hnodup
    · intro h
      cases h with
      | cell htables hrows hvalue =>
        exact absurd hscalar (not_hasScalars_of_cut htables hrows hvalue)
      | duplicate _ hnames' hrepeat' hnodup' =>
        have he : Dataset.firstRepeat? [] draft.tableNames = some _ :=
          Dataset.firstRepeat?_eq_some_iff.mpr ⟨_, _, hnames', .inr hrepeat', hnodup', by simp⟩
        rw [hr] at he
        cases he
        rfl
      | field _ hnodup' =>
        rw [hnames] at hnodup'
        exact absurd hrepeat fun hmem =>
          (List.nodup_append.mp hnodup').2.2 name hmem name (by simp) rfl
  | none =>
    have hnodup := (Dataset.firstRepeat?_eq_none_iff.mp hr).1
    refine fieldsFault?_eq_some_iff.trans ⟨?_, ?_⟩
    · rintro ⟨before, table, after, front, f, back, htables, hfields, hfault, hbefore, hfront⟩
      exact .field hscalar hnodup htables hfields hfault hbefore hfront
    · intro h
      cases h with
      | cell htables hrows hvalue =>
        exact absurd hscalar (not_hasScalars_of_cut htables hrows hvalue)
      | duplicate _ hnames hrepeat =>
        rw [hnames] at hnodup
        exact absurd rfl ((List.nodup_append.mp hnodup).2.2 _ hrepeat _ (by simp))
      | field _ _ htables hfields hfault hbefore hfront =>
        exact ⟨_, _, _, _, _, _, htables, hfields, hfault, hbefore, hfront⟩

theorem ofDraft_eq_error_iff (hdecoded : draft.Decoded) {error : LoadError} :
    Dataset.ofDraft source draft = .error error ↔ draft.FirstFault source error := by
  rw [Dataset.ofDraft]
  cases hc : draft.cellFault? with
  | some violation =>
    obtain ⟨before, table, after, earlier, front, column, value, back, later, htables, hrows,
      hvalue, hbefore, hearlier, hfront, rfl⟩ := (cellFault?_eq_some_iff hdecoded).mp hc
    constructor
    · intro he
      cases he
      exact .cell htables hrows hvalue hbefore hearlier hfront
    · intro h
      have hsome : ¬ ∀ table ∈ draft.tables, table.HasScalars := fun hscalar => by
        rw [(cellFault?_eq_none_iff hdecoded).mpr hscalar] at hc
        cases hc
      cases h with
      | cell htables hrows hvalue hbefore hearlier hfront =>
        have he := (cellFault?_eq_some_iff hdecoded).mpr
          ⟨_, _, _, _, _, _, _, _, _, htables, hrows, hvalue, hbefore, hearlier, hfront, rfl⟩
        rw [← Option.some.inj (hc.symm.trans he)]
      | duplicate hscalar => exact absurd hscalar hsome
      | field hscalar => exact absurd hscalar hsome
  | none =>
    have hscalar := (cellFault?_eq_none_iff hdecoded).mp hc
    rw [← fault?_texts_eq_some_iff hscalar]
    cases Dataset.fault? source draft.texts <;> simp

theorem wellFormed_texts_iff : draft.texts.WellFormed ↔ draft.tableNames.Nodup ∧
    ∀ table ∈ draft.tables, ∀ f ∈ table.fields, f.Targeted draft.tableNames := by
  constructor
  · intro h
    refine ⟨tableNames_texts ▸ h.names_nodup, fun table ht f hf => ?_⟩
    exact tableNames_texts ▸ h.targeted (tableTexts table) (List.mem_map_of_mem ht) f hf
  · rintro ⟨hnodup, htargeted⟩
    refine ⟨tableNames_texts ▸ hnodup, fun table ht f hf => ?_⟩
    obtain ⟨written, hwritten, rfl⟩ := List.mem_map.mp ht
    exact tableNames_texts ▸ htargeted written hwritten f hf

theorem ofDraft_eq_ok_iff (hdecoded : draft.Decoded) {d : Dataset} :
    Dataset.ofDraft source draft = .ok d ↔ draft.Accepted ∧ d = draft.texts := by
  have haccepted : draft.Accepted ↔ draft.cellFault? = none ∧
      Dataset.fault? source draft.texts = none := by
    rw [cellFault?_eq_none_iff hdecoded, Dataset.fault?_eq_none_iff, wellFormed_texts_iff]
    exact ⟨fun h => ⟨h.scalar, h.names_nodup, h.targeted⟩, fun h => ⟨h.1, h.2.1, h.2.2⟩⟩
  rw [haccepted, Dataset.ofDraft]
  cases draft.cellFault? with
  | some violation => simp
  | none =>
    cases Dataset.fault? source draft.texts with
    | some error => simp
    | none => simp [eq_comm]

/-! ## Texts -/

theorem insertEntry_of_not_mem {α : Type} {key : String} {value : α}
    {entries : List (String × α)} (h : key ∉ entries.map Prod.fst) :
    OrderedMap.insertEntry key value entries = entries ++ [(key, value)] := by
  induction entries with
  | nil => rfl
  | cons e rest ih =>
    rw [List.map_cons, List.mem_cons, not_or] at h
    rw [OrderedMap.insertEntry, if_neg (Ne.symm h.1), ih h.2]
    rfl

/-- Distinct keys that are new to a map are appended with their values. -/
theorem entries_foldl_insert {α : Type} {pairs : List (String × α)} {m : OrderedMap α}
    (h : (m.entries.map Prod.fst ++ pairs.map Prod.fst).Nodup) :
    (pairs.foldl (fun m (key, value) => m.insert key value) m).entries = m.entries ++ pairs := by
  induction pairs generalizing m with
  | nil => simp
  | cons pair rest ih =>
    have hout : pair.1 ∉ m.entries.map Prod.fst := fun hmem =>
      (List.nodup_append.mp h).2.2 pair.1 hmem pair.1 (by simp) rfl
    have hnew : (m.insert pair.1 pair.2).entries = m.entries ++ [pair] :=
      insertEntry_of_not_mem hout
    rw [List.foldl_cons, ih (by simpa [hnew] using h), hnew, List.append_assoc]
    rfl

theorem entries_rowTexts {row : List (String × Value)} (h : (row.map Prod.fst).Nodup) :
    (rowTexts row).cells.entries = row.map fun cell => (cell.1, cell.2.scalarText?.getD "") := by
  have hkeys : (row.map fun cell => (cell.1, cell.2.scalarText?.getD "")).map Prod.fst =
      row.map Prod.fst := by simp
  exact entries_foldl_insert (by simpa [OrderedMap.empty, hkeys] using h)

theorem hasTexts_texts (hdecoded : draft.Decoded)
    (hscalar : ∀ table ∈ draft.tables, table.HasScalars) : draft.HasTexts draft.texts := by
  refine ⟨rfl, List.forall₂_map_right_iff.mpr (List.forall₂_same.mpr fun table ht =>
    ⟨rfl, rfl, List.forall₂_map_right_iff.mpr (List.forall₂_same.mpr fun row hrow => ?_)⟩)⟩
  rw [entries_rowTexts (hdecoded.columns_nodup table ht row hrow)]
  refine List.forall₂_map_right_iff.mpr (List.forall₂_same.mpr fun cell hcell => ⟨rfl, ?_⟩)
  have hread := hdecoded.cells table ht row hrow cell hcell
  have hiff := Value.scalarText?_eq_none_iff hread.inRange
  have hvalue := hscalar table ht row hrow cell hcell
  cases hs : cell.2.scalarText? with
  | some text => exact (Value.scalarText?_eq_some_iff hread.canonical).mp hs
  | none => exact absurd hvalue (hiff.mp hs)

end Draft

/-! ## Data files -/

namespace Dataset

/-- **Acceptance.** A draft is accepted exactly if all its cells are scalars, its tables have
different names and exactly its lookup fields have a target, which is the name of a table. The
dataset then holds what the draft says, in the same order and with every cell as the text of its kind
of scalar. Otherwise the error is the one for the first fault. -/
theorem ofSource_outcome {source : Source} {draft : Draft}
    (hdraft : Draft.ofText? source.text = some draft) :
    ((∃ d, ofSource source = .ok d) ↔ draft.Accepted) ∧
      (∀ d, ofSource source = .ok d → draft.HasTexts d) ∧
      ∀ error, ofSource source = .error error ↔ draft.FirstFault source error := by
  have hdecoded := Draft.decoded_of_ofText? hdraft
  have hsource : ofSource source = ofDraft source draft := by rw [ofSource, hdraft]
  rw [hsource]
  refine ⟨⟨?_, ?_⟩, ?_, fun error => Draft.ofDraft_eq_error_iff hdecoded⟩
  · rintro ⟨d, hd⟩
    exact ((Draft.ofDraft_eq_ok_iff hdecoded).mp hd).1
  · intro haccepted
    exact ⟨draft.texts, (Draft.ofDraft_eq_ok_iff hdecoded).mpr ⟨haccepted, rfl⟩⟩
  · intro d hd
    obtain ⟨haccepted, rfl⟩ := (Draft.ofDraft_eq_ok_iff hdecoded).mp hd
    exact Draft.hasTexts_texts hdecoded haccepted.scalar

/-- Two tables of the same name, a lookup without a target, and in the last row a list as a cell. -/
def faultySource : Source where
  text := "[[tables]]\nname = 'A'\nfields = [\x7bname = 'k', type = 'lookup'\x7d]\n"
    ++ "[[tables]]\nname = 'A'\nrows = [\x7bk = 1\x7d, \x7bk = []\x7d]"
  fileName := "d"

/-- A row with a cell of every kind of scalar. -/
def scalarsSource : Source where
  text := "[[tables]]\nname = 'A'\nfields = [\x7bname = 'k', type = 'lookup', lookup = 'A'\x7d]\n"
    ++ "rows = [\x7bk = -7, s = 'a b', w = 1e1, f = -2.50, z = -0.0, b = true, i = -inf, "
    ++ "d = 2024-05-01 07:30:00.250Z\x7d]"
  fileName := "d"

/-- In the first file the cell is the first fault; the second file is accepted. -/
theorem ofSource_outcome_listed :
    (∃ draft, Draft.ofText? faultySource.text = some draft ∧
      draft.FirstFault faultySource (.invalid (.cellNotScalar "A" "k" 2 "array") none)) ∧
    ∃ draft d, Draft.ofText? scalarsSource.text = some draft ∧ ofSource scalarsSource = .ok d ∧
      draft.HasTexts d ∧ d.tables.map (fun table => table.rows.map fun row => row.cells.entries) =
        [[[("k", "-7"), ("s", "a b"), ("w", "10.0"), ("f", "-2.5"), ("z", "-0.0"), ("b", "true"),
          ("i", "-inf"), ("d", "2024-05-01T07:30:00.25Z")]]] := by
  constructor
  · have houtcome : (match ofSource faultySource with
        | .ok _ => none
        | .error error => some error) =
        some (.invalid (.cellNotScalar "A" "k" 2 "array") none) := by decide +kernel
    cases hdraft : Draft.ofText? faultySource.text with
    | none => simp [ofSource, hdraft] at houtcome
    | some draft =>
      refine ⟨draft, rfl, ((ofSource_outcome hdraft).2.2 _).mp ?_⟩
      cases h : ofSource faultySource with
      | ok d => simp [h] at houtcome
      | error error => simpa [h] using houtcome
  · have houtcome : (match ofSource scalarsSource with
        | .ok d => some (d.tables.map fun table => table.rows.map fun row => row.cells.entries)
        | .error _ => none) =
        some [[[("k", "-7"), ("s", "a b"), ("w", "10.0"), ("f", "-2.5"), ("z", "-0.0"),
          ("b", "true"), ("i", "-inf"), ("d", "2024-05-01T07:30:00.25Z")]]] := by decide +kernel
    cases hdraft : Draft.ofText? scalarsSource.text with
    | none => simp [ofSource, hdraft] at houtcome
    | some draft =>
      cases h : ofSource scalarsSource with
      | ok d =>
        rw [h] at houtcome
        exact ⟨draft, d, rfl, rfl, (ofSource_outcome hdraft).2.1 d h, Option.some.inj houtcome⟩
      | error error => simp [h] at houtcome

end Dataset

end TableForge
