import TableForge.OrderedMap

/-!
# Datasets

A dataset is an ordered list of tables, a table an ordered list of fields and an ordered list of
rows, a row an ordered map from column names to texts. A field's type is a tag that a template
package maps to a type of its language; the tag `lookup` refers to a row of another table.
-/
namespace TableForge

/-- A typed column; `lookup` names the table that a lookup field refers to. -/
structure Field where
  name : String
  type : String
  lookup : Option String
deriving DecidableEq, Repr, Inhabited

structure Row where
  cells : OrderedMap String
deriving DecidableEq, Repr, Inhabited

structure Table where
  name : String
  fields : List Field
  rows : List Row
deriving DecidableEq, Repr, Inhabited

structure Dataset where
  package : Option String
  tables : List Table
deriving DecidableEq, Repr, Inhabited

/-- The type tags that the generator itself knows. -/
def lookupType : String := "lookup"
def intType : String := "int"
def decimalType : String := "decimal"

namespace Field

def isLookup (f : Field) : Bool := f.type = lookupType

/-- Whether cells of this field are written as bare numbers. -/
def isNumeric (f : Field) : Bool :=
  f.type ∈ [lookupType, intType, decimalType]

end Field

/-- Whether two names differ at most in the case of ASCII letters. -/
def sameUpToCase (a b : String) : Bool :=
  a.toList.map Char.toLower = b.toList.map Char.toLower

namespace Row

/-- The cell of a column. The column of exactly this name comes first, then the first column whose
name is the same up to case; a missing cell reads as empty text. -/
def get (r : Row) (column : String) : String :=
  match r.cells.get? column with
  | some cell => cell
  | none =>
    match r.cells.entries.find? fun e => sameUpToCase e.1 column with
    | some (_, cell) => cell
    | none => ""

/-- The identifier of a row. -/
def id (r : Row) : String := r.get "id"

def ofList (cells : List (String × String)) : Row := ⟨.ofList cells⟩

def insert (r : Row) (column cell : String) : Row := ⟨r.cells.insert column cell⟩

end Row

end TableForge
