import TableForge.Toml.Value

/-!
# How a document grows

A document is built one statement at a time: a header that opens a table, a header that appends to
an array of tables, or the assignment of a value to a dotted key. Every table remembers how it came
about, for this decides what later statements may do to it. A table that only lies on the way to
another one may still be opened by its own header, once; a table made by dotted keys grows by
dotted keys and by headers of tables inside it; inline values never grow.
-/
namespace TableForge.Toml

/-- How a table came about. -/
inductive Origin where
  /-- On the way to a table that a header names. -/
  | implied
  /-- Named by a header. -/
  | declared
  /-- On the way of a dotted key to its value. -/
  | dotted
deriving DecidableEq, Repr

/-- What a key stands for while the document is read. The elements of an array of tables are listed
newest first. -/
inductive Item where
  | value (value : Value)
  | table (origin : Origin) (entries : List (String × Item))
  | tables (elements : List (List (String × Item)))

/-- The contents of a table that is being built. -/
abbrev Entries := List (String × Item)

mutual

/-- The finished value of an item. -/
def Item.toValue : Item → Value
  | .value v => v
  | .table _ entries => .table (entryValues entries)
  | .tables elements => .array (elementValues elements).reverse

def entryValues : List (String × Item) → List (String × Value)
  | [] => []
  | (key, item) :: rest => (key, item.toValue) :: entryValues rest

def elementValues : List (List (String × Item)) → List Value
  | [] => []
  | entries :: rest => .table (entryValues entries) :: elementValues rest

end

namespace Entries

/-- Changes what `key` stands for, in its place; a new key comes last. -/
def update (key : String) (change : Option Item → Option Item) : Entries → Option Entries
  | [] => (change none).map fun item => [(key, item)]
  | (k, item) :: rest =>
    if k = key then (change (some item)).map fun item => (k, item) :: rest
    else (update key change rest).map ((k, item) :: ·)

/-- Changes the table that a header path leads to. Tables on the way that do not exist yet are
implied; an array of tables leads on to its newest element. -/
def within : List String → (Entries → Option Entries) → Entries → Option Entries
  | [], change, entries => change entries
  | key :: path, change, entries =>
    entries.update key fun
      | none => (within path change []).map (.table .implied)
      | some (.table origin inner) => (within path change inner).map (.table origin)
      | some (.tables (newest :: older)) =>
        (within path change newest).map fun newest => .tables (newest :: older)
      | some _ => none

/-- The statement `[path.name]`. The table comes last, also one that was implied before. -/
def declare (path : List String) (name : String) (document : Entries) : Option Entries :=
  document.within path fun entries =>
    match entries.lookup name with
    | none => some (entries ++ [(name, .table .declared [])])
    | some (.table .implied inner) =>
      some (entries.filter (fun e => e.1 ≠ name) ++ [(name, .table .declared inner)])
    | some _ => none

/-- The statement `[[path.name]]`. -/
def append (path : List String) (name : String) (document : Entries) : Option Entries :=
  document.within path fun entries =>
    entries.update name fun
      | none => some (.tables [[]])
      | some (.tables elements) => some (.tables ([] :: elements))
      | some _ => none

/-- Assigns to a dotted key inside the table at hand. The table that receives the value must be the
one at hand or have come about by dotted keys. -/
def assign : List String → String → Value → Entries → Option Entries
  | [], name, value, entries =>
    entries.update name fun
      | none => some (.value value)
      | some _ => none
  | key :: path, name, value, entries =>
    entries.update key fun
      | none => (assign path name value []).map (.table .dotted)
      | some (.table origin inner) =>
        if origin = .dotted ∨ (origin = .implied ∧ path ≠ []) then
          (assign path name value inner).map (.table origin)
        else none
      | some (.tables (newest :: older)) =>
        if path = [] then none
        else (assign path name value newest).map fun newest => .tables (newest :: older)
      | some _ => none

end Entries

end TableForge.Toml
