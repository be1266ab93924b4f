import Mathlib.Data.List.Nodup
import TableForge.Proofs.Decimal.Rounding
import TableForge.Toml.Document
import TableForge.Toml.Record

/-!
# What reading a document guarantees

A key stands for one thing. However a document is put together, from headers, dotted keys, arrays of
tables and inline values, every table in it has each of its keys once, and its numbers are in
canonical form. A document only grows by changing what one key stands for, so it is enough to follow
this one change through the tables on the way to it.
-/
namespace TableForge.Toml

/-- Anything but an array or a table. -/
def Value.IsScalar : Value → Prop
  | .array _ => False
  | .table _ => False
  | _ => True

instance : DecidablePred Value.IsScalar := fun v => by
  cases v <;> unfold Value.IsScalar <;> infer_instance

/-- A float in canonical form, or no float. -/
def Value.IsCanonical (v : Value) : Prop :=
  ∀ number, v = .float number → number.Canonical

/-- Every table in a value, however deep, has each of its keys once, and floats are canonical. -/
inductive Value.Decoded : Value → Prop
  | scalar {v : Value} (h : v.IsScalar) (hcanonical : v.IsCanonical) : Decoded v
  | array {items : List Value} (hitems : ∀ v ∈ items, Decoded v) : Decoded (.array items)
  | table {entries : List (String × Value)} (hkeys : (entries.map Prod.fst).Nodup)
    (hvalues : ∀ e ∈ entries, Decoded e.2) : Decoded (.table entries)

/-- The same for an item of a document that is being read. -/
inductive Item.Decoded : Item → Prop
  | value {v : Value} (h : v.Decoded) : Decoded (.value v)
  | table {origin : Origin} {entries : Entries} (hkeys : (entries.map Prod.fst).Nodup)
    (hitems : ∀ e ∈ entries, Decoded e.2) : Decoded (.table origin entries)
  | tables {elements : List Entries} (hkeys : ∀ entries ∈ elements, (entries.map Prod.fst).Nodup)
    (hitems : ∀ entries ∈ elements, ∀ e ∈ entries, Decoded e.2) : Decoded (.tables elements)

/-- The entries of a table that has each of its keys once, and so on in every item. -/
structure Entries.Decoded (entries : Entries) : Prop where
  keys : (entries.map Prod.fst).Nodup
  items : ∀ e ∈ entries, e.2.Decoded

/-- A change of a table that keeps keys apart. -/
def KeepsDecoded (change : Entries → Option Entries) : Prop :=
  ∀ {entries result : Entries}, entries.Decoded → change entries = some result → result.Decoded

variable {entries result : Entries} {key name : String} {path : List String}

/-! ## Finished values -/

theorem entryValues_eq_map (entries : Entries) :
    entryValues entries = entries.map fun e => (e.1, e.2.toValue) := by
  induction entries with
  | nil => rfl
  | cons e rest ih =>
    rw [entryValues, ih]
    rfl

theorem elementValues_eq_map (elements : List Entries) :
    elementValues elements = elements.map fun entries => .table (entryValues entries) := by
  induction elements with
  | nil => rfl
  | cons entries rest ih =>
    rw [elementValues, ih]
    rfl

theorem decoded_entryValues (hkeys : (entries.map Prod.fst).Nodup)
    (hvalues : ∀ e ∈ entries, e.2.toValue.Decoded) :
    (Value.table (entryValues entries)).Decoded := by
  rw [entryValues_eq_map]
  refine .table ?_ ?_
  · rw [List.map_map]
    exact hkeys
  · intro e he
    obtain ⟨old, hold, rfl⟩ := List.mem_map.mp he
    exact hvalues old hold

theorem Item.Decoded.toValue {item : Item} (h : item.Decoded) : item.toValue.Decoded := by
  induction h with
  | value h => exact h
  | table hkeys _ ih => exact decoded_entryValues hkeys ih
  | tables hkeys _ ih =>
    refine .array fun v hv => ?_
    rw [elementValues_eq_map, List.mem_reverse, List.mem_map] at hv
    obtain ⟨entries, hmem, rfl⟩ := hv
    exact decoded_entryValues (hkeys entries hmem) (ih entries hmem)

/-! ## How a document grows -/

theorem Entries.decoded_nil : Entries.Decoded [] := ⟨List.nodup_nil, by simp⟩

theorem Entries.Decoded.table (h : entries.Decoded) (origin : Origin) :
    (Item.table origin entries).Decoded := .table h.keys h.items

theorem Entries.decoded_of_table {origin : Origin} (h : (Item.table origin entries).Decoded) :
    entries.Decoded := by
  cases h with
  | table hkeys hitems => exact ⟨hkeys, hitems⟩

theorem Entries.decoded_of_tables {elements : List Entries} (h : (Item.tables elements).Decoded)
    (hmem : entries ∈ elements) : entries.Decoded := by
  cases h with
  | tables hkeys hitems => exact ⟨hkeys entries hmem, hitems entries hmem⟩

theorem Item.Decoded.of_subset {elements fewer : List Entries} (h : (Item.tables elements).Decoded)
    (hsub : fewer ⊆ elements) : (Item.tables fewer).Decoded := by
  cases h with
  | tables hkeys hitems =>
    exact .tables (fun e he => hkeys e (hsub he)) fun e he => hitems e (hsub he)

theorem Entries.Decoded.tables_cons {older : List Entries} (h : entries.Decoded)
    (holder : (Item.tables older).Decoded) : (Item.tables (entries :: older)).Decoded := by
  cases holder with
  | tables hkeys hitems =>
    exact .tables (List.forall_mem_cons.mpr ⟨h.keys, hkeys⟩)
      (List.forall_mem_cons.mpr ⟨h.items, hitems⟩)

theorem Entries.Decoded.concat (h : entries.Decoded) (hname : name ∉ entries.map Prod.fst)
    {item : Item} (hitem : item.Decoded) : Entries.Decoded (entries ++ [(name, item)]) where
  keys := by
    rw [List.map_append, List.nodup_append]
    refine ⟨h.keys, List.nodup_singleton _, ?_⟩
    rintro k hk last hlast rfl
    rw [List.map_singleton, List.mem_singleton] at hlast
    rw [hlast] at hk
    exact hname hk
  items := by
    intro e he
    rcases List.mem_append.mp he with he | he
    · exact h.items e he
    · rw [List.mem_singleton.mp he]
      exact hitem

/-- Changing what one key stands for makes no key stand twice. -/
theorem Entries.Decoded.update {change : Option Item → Option Item} (h : entries.Decoded)
    (hchange : ∀ {old : Option Item} {item : Item}, (∀ i ∈ old, i.Decoded) →
      change old = some item → item.Decoded)
    (hr : entries.update key change = some result) :
    result.Decoded ∧ ∀ k ∈ result.map Prod.fst, k ∈ entries.map Prod.fst ∨ k = key := by
  induction entries generalizing result with
  | nil =>
    obtain ⟨item, hitem, rfl⟩ := Option.map_eq_some_iff.mp hr
    have hdecoded := hchange (by simp) hitem
    exact ⟨⟨List.nodup_singleton _, by simpa using hdecoded⟩, by simp⟩
  | cons e rest ih =>
    obtain ⟨k, item⟩ := e
    obtain ⟨hk, hrest⟩ := List.nodup_cons.mp h.keys
    obtain ⟨hitem, hitems⟩ := List.forall_mem_cons.mp h.items
    rw [Entries.update] at hr
    split at hr
    · obtain ⟨new, hnew, rfl⟩ := Option.map_eq_some_iff.mp hr
      have hdecoded := hchange (by simpa using hitem) hnew
      exact ⟨⟨h.keys, List.forall_mem_cons.mpr ⟨hdecoded, hitems⟩⟩, fun k hk => Or.inl hk⟩
    · next hne =>
      obtain ⟨more, hmore, rfl⟩ := Option.map_eq_some_iff.mp hr
      obtain ⟨hdecoded, hfrom⟩ := ih ⟨hrest, hitems⟩ hmore
      have hnot : k ∉ more.map Prod.fst := fun hmem => (hfrom k hmem).elim hk hne
      refine ⟨⟨List.nodup_cons.mpr ⟨hnot, hdecoded.keys⟩,
        List.forall_mem_cons.mpr ⟨hitem, hdecoded.items⟩⟩, ?_⟩
      intro other hother
      rcases List.mem_cons.mp hother with rfl | hother
      · exact Or.inl List.mem_cons_self
      · exact (hfrom other hother).imp_left (List.mem_cons_of_mem _)

/-- By induction on the path, each table on the way changes what one key stands for. -/
theorem keepsDecoded_within {change : Entries → Option Entries} (hchange : KeepsDecoded change)
    (path : List String) : KeepsDecoded (Entries.within path change) := by
  induction path with
  | nil => exact hchange
  | cons key path ih =>
    intro entries result h hr
    refine (h.update ?_ hr).1
    intro old item hold hitem
    split at hitem
    · obtain ⟨inner, hinner, rfl⟩ := Option.map_eq_some_iff.mp hitem
      exact (ih Entries.decoded_nil hinner).table _
    · next origin inner =>
      obtain ⟨new, hnew, rfl⟩ := Option.map_eq_some_iff.mp hitem
      exact (ih (Entries.decoded_of_table (hold _ rfl)) hnew).table _
    · next newest older =>
      obtain ⟨new, hnew, rfl⟩ := Option.map_eq_some_iff.mp hitem
      have hdecoded := hold _ rfl
      exact (ih (Entries.decoded_of_tables hdecoded List.mem_cons_self) hnew).tables_cons
        (hdecoded.of_subset (List.subset_cons_self newest older))
    · cases hitem

theorem keepsDecoded_declare (path : List String) (name : String) :
    KeepsDecoded (Entries.declare path name) := by
  refine keepsDecoded_within ?_ path
  intro entries result h hr
  dsimp only at hr
  split at hr
  · next hnone =>
    cases hr
    have hname : name ∉ entries.map Prod.fst := by
      intro hmem
      obtain ⟨e, he, rfl⟩ := List.mem_map.mp hmem
      simpa using List.lookup_eq_none_iff.mp hnone e he
    exact h.concat hname (Entries.decoded_nil.table _)
  · next inner hsome =>
    cases hr
    obtain ⟨before, after, rfl, -⟩ := List.lookup_eq_some_iff.mp hsome
    have hinner := Entries.decoded_of_table (h.items (name, .table .implied inner) (by simp))
    have hsub := List.filter_sublist (p := fun e => e.1 ≠ name)
      (l := before ++ (name, Item.table .implied inner) :: after)
    refine Entries.Decoded.concat
      ⟨h.keys.sublist (hsub.map _), fun e he => h.items e (hsub.subset he)⟩ ?_ (hinner.table _)
    intro hmem
    obtain ⟨e, he, hname⟩ := List.mem_map.mp hmem
    have hne := (List.mem_filter.mp he).2
    simp [hname] at hne
  · cases hr

theorem keepsDecoded_append (path : List String) (name : String) :
    KeepsDecoded (Entries.append path name) := by
  refine keepsDecoded_within ?_ path
  intro entries result h hr
  refine (h.update ?_ hr).1
  intro old item hold hitem
  split at hitem
  · cases hitem
    exact Entries.decoded_nil.tables_cons (.tables (by simp) (by simp))
  · cases hitem
    exact Entries.decoded_nil.tables_cons (hold _ rfl)
  · cases hitem

theorem keepsDecoded_assign {value : Value} (hvalue : value.Decoded) (path : List String)
    (name : String) : KeepsDecoded (Entries.assign path name value) := by
  induction path with
  | nil =>
    intro entries result h hr
    refine (h.update ?_ hr).1
    intro old item _ hitem
    split at hitem
    · cases hitem
      exact .value hvalue
    · cases hitem
  | cons key path ih =>
    intro entries result h hr
    refine (h.update ?_ hr).1
    intro old item hold hitem
    split at hitem
    · obtain ⟨inner, hinner, rfl⟩ := Option.map_eq_some_iff.mp hitem
      exact (ih Entries.decoded_nil hinner).table _
    · split at hitem
      · obtain ⟨new, hnew, rfl⟩ := Option.map_eq_some_iff.mp hitem
        exact (ih (Entries.decoded_of_table (hold _ rfl)) hnew).table _
      · cases hitem
    · next newest older =>
      split at hitem
      · cases hitem
      · obtain ⟨new, hnew, rfl⟩ := Option.map_eq_some_iff.mp hitem
        have hdecoded := hold _ rfl
        exact (ih (Entries.decoded_of_tables hdecoded List.mem_cons_self) hnew).tables_cons
          (hdecoded.of_subset (List.subset_cons_self newest older))
    · cases hitem

/-! ## Values -/

theorem Value.Decoded.of_ne_float {v : Value} (h : v.IsScalar)
    (hfloat : ∀ number, v ≠ .float number) : v.Decoded :=
  .scalar h fun number he => absurd he (hfloat number)

theorem decoded_float? {text : List Char} {v : Value} (h : float? text = some v) : v.Decoded := by
  unfold float? at h
  dsimp only at h
  split at h
  · cases h
    exact .scalar trivial fun number he => by cases he; trivial
  · split at h
    · cases h
      exact .scalar trivial fun number he => by cases he; trivial
    · split at h
      · obtain ⟨number, hnumber, hv⟩ := Option.map_eq_some_iff.mp h
        split at hv
        · exact hv ▸ .of_ne_float trivial (by simp)
        · rw [← hv]
          exact .scalar trivial fun number he => by
            cases he
            exact Binary64.canonical_of_ofText? hnumber
      · cases h

theorem decoded_scalarOfText? {text : List Char} {v : Value} (h : scalarOfText? text = some v) :
    v.Decoded := by
  unfold scalarOfText? at h
  split at h
  · cases h
    exact .of_ne_float trivial (by simp)
  · split at h
    · cases h
      exact .of_ne_float trivial (by simp)
    · simp only [Option.orElse_eq_orElse, Option.orElse_eq_or, Option.or_eq_some_iff,
        Option.map_eq_some_iff] at h
      rcases h with ⟨n, -, rfl⟩ | ⟨-, hfloat | ⟨-, moment, -, rfl⟩⟩
      · exact .of_ne_float trivial (by simp)
      · exact decoded_float? hfloat
      · exact .of_ne_float trivial (by simp)

theorem decoded_scalar? {text rest : List Char} {v : Value} (h : scalar? text = some (v, rest)) :
    v.Decoded := by
  have hword {word rest' : List Char}
      (h : (scalarOfText? word).map (fun value => (value, rest')) = some (v, rest)) :
      v.Decoded := by
    obtain ⟨value, hvalue, he⟩ := Option.map_eq_some_iff.mp h
    cases he
    exact decoded_scalarOfText? hvalue
  unfold scalar? at h
  dsimp only at h
  split at h
  · split at h
    · exact hword h
    · exact hword h
  · exact hword h

/-- What the three readers of a value return, for one bound on the number of steps. -/
structure ReadsDecoded (fuel : Nat) : Prop where
  value : ∀ {depth : Nat} {text rest : List Char} {v : Value},
    value? fuel depth text = some (v, rest) → v.Decoded
  items : ∀ {depth : Nat} {text rest : List Char} {items : List Value},
    items? fuel depth text = some (items, rest) → ∀ v ∈ items, v.Decoded
  pairs : ∀ {depth : Nat} {entries result : Entries} {text rest : List Char}, entries.Decoded →
    pairs? fuel depth entries text = some (result, rest) → result.Decoded

theorem ReadsDecoded.value_succ {fuel depth : Nat} {text rest : List Char} {v : Value}
    (ih : ReadsDecoded fuel) (h : value? (fuel + 1) depth text = some (v, rest)) : v.Decoded := by
  unfold value? at h
  dsimp only at h
  split at h
  · obtain ⟨⟨items, more⟩, hitems, he⟩ := Option.map_eq_some_iff.mp h
    cases he
    exact .array (ih.items hitems)
  · obtain ⟨⟨entries, more⟩, hpairs, he⟩ := Option.map_eq_some_iff.mp h
    cases he
    have hdecoded := ih.pairs Entries.decoded_nil hpairs
    exact decoded_entryValues hdecoded.keys fun e he => (hdecoded.items e he).toValue
  · cases h
  · cases h
  · obtain ⟨⟨s, more⟩, -, he⟩ := Option.map_eq_some_iff.mp h
    cases he
    exact .of_ne_float trivial (by simp)
  · obtain ⟨⟨s, more⟩, -, he⟩ := Option.map_eq_some_iff.mp h
    cases he
    exact .of_ne_float trivial (by simp)
  · exact decoded_scalar? h

theorem ReadsDecoded.items_succ {fuel depth : Nat} {text rest : List Char} {items : List Value}
    (ih : ReadsDecoded fuel) (h : items? (fuel + 1) depth text = some (items, rest)) :
    ∀ v ∈ items, v.Decoded := by
  rw [items?] at h
  split at h
  · cases h
    simp
  · obtain ⟨⟨item, text⟩, hitem, h⟩ := Option.bind_eq_some_iff.mp h
    have hdecoded := ih.value hitem
    dsimp only at h
    split at h
    · cases h
      simpa using hdecoded
    · obtain ⟨⟨more, text⟩, hmore, h⟩ := Option.bind_eq_some_iff.mp h
      cases h
      exact List.forall_mem_cons.mpr ⟨hdecoded, ih.items hmore⟩
    · cases h

theorem ReadsDecoded.pairs_succ {fuel depth : Nat} {text rest : List Char} (ih : ReadsDecoded fuel)
    (hentries : entries.Decoded) (h : pairs? (fuel + 1) depth entries text = some (result, rest)) :
    result.Decoded := by
  rw [pairs?] at h
  split at h
  · cases h
    exact hentries
  · obtain ⟨⟨path, text⟩, -, h⟩ := Option.bind_eq_some_iff.mp h
    obtain ⟨text, -, h⟩ := Option.bind_eq_some_iff.mp h
    obtain ⟨⟨value, text⟩, hvalue, h⟩ := Option.bind_eq_some_iff.mp h
    obtain ⟨entries', hassign, h⟩ := Option.bind_eq_some_iff.mp h
    have hdecoded := keepsDecoded_assign (ih.value hvalue) _ _ hentries hassign
    split at h
    · cases h
      exact hdecoded
    · exact ih.pairs hdecoded h
    · cases h

theorem readsDecoded (fuel : Nat) : ReadsDecoded fuel := by
  induction fuel with
  | zero =>
    refine ⟨?_, ?_, ?_⟩
    · intro depth text rest v h
      rw [value?] at h
      cases h
    · intro depth text rest items h
      rw [items?] at h
      cases h
    · intro depth entries result text rest _ h
      rw [pairs?] at h
      cases h
  | succ fuel ih => exact ⟨ih.value_succ, ih.items_succ, ih.pairs_succ⟩

/-! ## Documents -/

theorem keepsDecoded_statement? {opened : List String} {text : List Char} {statement : Statement}
    (h : statement? opened text = some statement) : KeepsDecoded statement.apply := by
  unfold statement? at h
  split at h
  · obtain ⟨⟨path, text⟩, -, h⟩ := Option.bind_eq_some_iff.mp h
    obtain ⟨text, -, h⟩ := Option.bind_eq_some_iff.mp h
    obtain ⟨rest, -, h⟩ := Option.bind_eq_some_iff.mp h
    cases h
    exact keepsDecoded_append _ _
  · obtain ⟨⟨path, text⟩, -, h⟩ := Option.bind_eq_some_iff.mp h
    obtain ⟨rest, -, h⟩ := Option.bind_eq_some_iff.mp h
    cases h
    exact keepsDecoded_declare _ _
  · obtain ⟨⟨path, text⟩, -, h⟩ := Option.bind_eq_some_iff.mp h
    obtain ⟨text, -, h⟩ := Option.bind_eq_some_iff.mp h
    obtain ⟨⟨value, rest⟩, hvalue, h⟩ := Option.bind_eq_some_iff.mp h
    cases h
    exact keepsDecoded_within (keepsDecoded_assign ((readsDecoded _).value hvalue) _ _) _

theorem decoded_of_statements? {fuel : Nat} {opened : List String} {document : Entries}
    {text : List Char} (hdocument : document.Decoded)
    (h : statements? fuel opened document text = some result) : result.Decoded := by
  induction fuel generalizing opened document text with
  | zero => cases h
  | succ fuel ih =>
    rw [statements?] at h
    split at h
    · cases h
      exact hdocument
    · obtain ⟨statement, hstatement, h⟩ := Option.bind_eq_some_iff.mp h
      obtain ⟨next, hnext, h⟩ := Option.bind_eq_some_iff.mp h
      obtain ⟨rest, -, h⟩ := Option.bind_eq_some_iff.mp h
      exact ih (keepsDecoded_statement? hstatement hdocument hnext) h

/-- **Keys are distinct.** In a document that can be read every table has each of its keys once, and
floats are canonical. -/
theorem decoded_of_read? {source : String} {entries : List (String × Value)}
    (h : read? source = some entries) : (Value.table entries).Decoded := by
  obtain ⟨document, hdocument, rfl⟩ := Option.map_eq_some_iff.mp h
  have hdecoded := decoded_of_statements? Entries.decoded_nil hdocument
  exact decoded_entryValues hdecoded.keys fun e he => (hdecoded.items e he).toValue

end TableForge.Toml
