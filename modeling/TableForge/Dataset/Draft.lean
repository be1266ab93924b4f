import TableForge.Dataset.Basic
import TableForge.Toml.Document
import TableForge.Toml.Record

/-!
# Datasets as they are written

A draft is what the data file says before anything is checked beyond its shape: cells are still TOML
values. Everything but the names and types may be left out.
-/
namespace TableForge

structure DraftTable where
  name : String
  fields : List Field
  rows : List (List (String × Toml.Value))

structure Draft where
  package : Option String
  tables : List DraftTable

open Toml (Record Value)

def Field.ofValue? (v : Value) : Option Field := do
  let r ← Record.ofValue? ["name", "type", "lookup"] v
  let name ← r.required "name" Value.text?
  let type ← r.required "type" Value.text?
  let lookup ← r.defaulted "lookup" none fun v => v.text?.map some
  some { name, type, lookup }

def DraftTable.ofValue? (v : Value) : Option DraftTable := do
  let r ← Record.ofValue? ["name", "fields", "rows"] v
  let name ← r.required "name" Value.text?
  let fields ← r.defaulted "fields" [] (Value.items? Field.ofValue?)
  let rows ← r.defaulted "rows" [] (Value.items? (Value.entries? Value.any?))
  some { name, fields, rows }

namespace Draft

def ofEntries? (entries : List (String × Value)) : Option Draft := do
  let r ← Record.ofEntries? ["package", "tables"] entries
  let package ← r.defaulted "package" none fun v => v.text?.map some
  let tables ← r.defaulted "tables" [] (Value.items? DraftTable.ofValue?)
  some { package, tables }

/-- The draft that a text holds, if the text is TOML of the right shape. -/
def ofText? (text : String) : Option Draft :=
  (Toml.read? text).bind ofEntries?

end Draft

end TableForge
