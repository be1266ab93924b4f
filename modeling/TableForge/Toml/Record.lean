import TableForge.Toml.Value

/-!
# Reading records out of values

A record has parts with names. It is written as a table, or as an array that lists the parts in
order; a date-time is a record without parts. A part is required, or has a default, or is optional.
An optional part may be missing from a table but not from an array. Entries of a table with other
names are ignored if they are in range; surplus items of an array are ignored whatever they are.
-/
namespace TableForge.Toml

structure Record where
  entries : List (String × Value)
  /-- Whether the parts were listed without their names. -/
  isList : Bool

namespace Record

/-- The record that a table with the given entries stands for, `names` being those of its parts. -/
def ofEntries? (names : List String) (entries : List (String × Value)) : Option Record :=
  if entries.all fun (name, value) => name ∈ names || value.isInRange then
    some { entries, isList := false }
  else none

/-- The record that a value stands for; `names` are those of its parts, in order. -/
def ofValue? (names : List String) : Value → Option Record
  | .table entries => ofEntries? names entries
  | .array items => some { entries := names.zip items, isList := true }
  | .datetime _ => some { entries := [], isList := false }
  | _ => none

def required {α : Type} (r : Record) (name : String) (read : Value → Option α) : Option α :=
  (r.entries.lookup name).bind read

def defaulted {α : Type} (r : Record) (name : String) (default_ : α) (read : Value → Option α) :
    Option α :=
  match r.entries.lookup name with
  | some value => read value
  | none => some default_

def optional {α : Type} (r : Record) (name : String) (read : Value → Option α) :
    Option (Option α) :=
  match r.entries.lookup name with
  | some value => (read value).map some
  | none => if r.isList then none else some none

end Record

namespace Value

def text? : Value → Option String
  | string text => some text
  | _ => none

def flag? : Value → Option Bool
  | boolean flag => some flag
  | _ => none

def items? {α : Type} (read : Value → Option α) : Value → Option (List α)
  | array items => items.mapM read
  | _ => none

/-- The key that marks a date-time where it is written as a table. -/
def datetimeKey : String := "$__toml_private_datetime"

/-- The entries of a table. A date-time counts as a table with its text as the only entry. -/
def entries? {α : Type} (read : Value → Option α) : Value → Option (List (String × α))
  | table entries => entries.mapM fun (key, value) => (read value).map (key, ·)
  | datetime moment => (read (.string moment.text)).map fun text => [(datetimeKey, text)]
  | _ => none

/-- The first value of a table whose first key is `datetimeKey`. -/
def marked? : List (String × Value) → Option Value
  | (key, value) :: _ => if key = datetimeKey then some value else none
  | [] => none

mutual

/-- Reads a value of any kind. Integers have 64 bits, and a table that is marked as a date-time is
the one that its first value is the text of. -/
def any? : Value → Option Value
  | integer n => if -Nat.pow 2 63 ≤ n ∧ n < Nat.pow 2 63 then some (integer n) else none
  | hugeFloat => none
  | array items => (anyItems? items).map array
  | table entries =>
    match marked? entries with
    | some value => (value.text?.bind fun text => Datetime.ofText? text.toList).map datetime
    | none => (anyEntries? entries).map table
  | value => some value

def anyItems? : List Value → Option (List Value)
  | [] => some []
  | item :: rest => do
    let item ← any? item
    let rest ← anyItems? rest
    some (item :: rest)

def anyEntries? : List (String × Value) → Option (List (String × Value))
  | [] => some []
  | (key, value) :: rest => do
    let value ← any? value
    let rest ← anyEntries? rest
    some ((key, value) :: rest)

end

end Value

end TableForge.Toml
