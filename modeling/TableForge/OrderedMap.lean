/-!
# Maps that remember insertion order

A new key goes to the end, a key that is inserted again keeps its place and takes the new value. The
entries in order are the view of a map. `get?_insert` and `keys_insert` say what one insertion does
to the values that are found and to the order of the keys.
-/
namespace TableForge

/-- Looking up in a list of entries, one entry at a time. -/
theorem lookup_cons_eq_ite {κ α : Type} [BEq κ] [LawfulBEq κ] [DecidableEq κ] (key k : κ)
    (value : α) (entries : List (κ × α)) :
    ((k, value) :: entries).lookup key = if key = k then some value else entries.lookup key := by
  by_cases h : key = k
  · simp [h]
  · have hb : (key == k) = false := by simpa using h
    simp [List.lookup_cons, hb, h]

structure OrderedMap (α : Type) where
  entries : List (String × α)
deriving DecidableEq, Repr, Inhabited

namespace OrderedMap

variable {α : Type}

def empty : OrderedMap α := ⟨[]⟩

/-- The entries after one insertion. -/
def insertEntry (key : String) (value : α) : List (String × α) → List (String × α)
  | [] => [(key, value)]
  | (k, v) :: rest => if k = key then (k, value) :: rest else (k, v) :: insertEntry key value rest

def insert (m : OrderedMap α) (key : String) (value : α) : OrderedMap α :=
  ⟨insertEntry key value m.entries⟩

/-- Inserts pairs one after another. -/
def ofList (pairs : List (String × α)) : OrderedMap α :=
  pairs.foldl (fun m (key, value) => m.insert key value) empty

def get? (m : OrderedMap α) (key : String) : Option α :=
  m.entries.lookup key

def contains (m : OrderedMap α) (key : String) : Bool :=
  m.entries.any fun e => e.1 = key

/-- The keys in the order of their first insertion. -/
def keys (m : OrderedMap α) : List String :=
  m.entries.map Prod.fst

theorem lookup_insertEntry (key k : String) (value : α) (entries : List (String × α)) :
    (insertEntry key value entries).lookup k =
      if k = key then some value else entries.lookup k := by
  induction entries with
  | nil => simp [insertEntry, lookup_cons_eq_ite]
  | cons e rest ih =>
    obtain ⟨k', v⟩ := e
    by_cases hk : k' = key
    · by_cases h : k = key <;> simp [insertEntry, lookup_cons_eq_ite, hk, h]
    · simp only [insertEntry, hk, if_false, lookup_cons_eq_ite, ih]
      by_cases h : k = k' <;> simp [h, hk]

@[simp] theorem get?_empty (k : String) : (empty : OrderedMap α).get? k = none := rfl

/-- The value inserted last is found. -/
@[simp] theorem get?_insert (m : OrderedMap α) (key k : String) (value : α) :
    (m.insert key value).get? k = if k = key then some value else m.get? k :=
  lookup_insertEntry key k value m.entries

/-- A new key goes to the end, a key that is there keeps its place. -/
theorem keys_insert (m : OrderedMap α) (key : String) (value : α) :
    (m.insert key value).keys = if key ∈ m.keys then m.keys else m.keys ++ [key] := by
  obtain ⟨entries⟩ := m
  simp only [insert, keys]
  induction entries with
  | nil => rfl
  | cons e rest ih =>
    by_cases h : e.1 = key
    · simp [insertEntry, h]
    · by_cases hm : key ∈ rest.map Prod.fst <;> simp_all [insertEntry, Ne.symm h]

end OrderedMap

end TableForge
