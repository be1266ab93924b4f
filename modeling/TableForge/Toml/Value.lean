import TableForge.Decimal.Positional
import TableForge.Toml.Datetime

/-!
# TOML values

A document is a table. Tables keep their keys in the order in which they came in. Numbers of any
size may stand in a document: who reads a value decides what range it accepts, and `isInRange` tells
whether a value that nobody asks for may be passed over.
-/
namespace TableForge.Toml

inductive Value where
  | string (text : String)
  | integer (number : Int)
  | float (number : Binary64)
  /-- A decimal beyond the largest finite float. -/
  | hugeFloat
  | boolean (flag : Bool)
  | datetime (moment : Datetime)
  | array (items : List Value)
  | table (entries : List (String × Value))
deriving Repr, Inhabited

namespace Value

/-- What the kind of a value is called in messages. -/
def kindName : Value → String
  | string _ => "string"
  | integer _ => "integer"
  | float _ => "float"
  | hugeFloat => "float"
  | boolean _ => "boolean"
  | datetime _ => "datetime"
  | array _ => "array"
  | table _ => "table"

/-- The text of a scalar; arrays, tables and floats out of range have none. -/
def scalarText? : Value → Option String
  | string text => some text
  | integer number => some (toString number)
  | float number => some number.text
  | hugeFloat => none
  | boolean flag => some (if flag then "true" else "false")
  | datetime moment => some moment.text
  | array _ => none
  | table _ => none

mutual

/-- Whether integers have at most 128 bits and floats are not too large, all the way down. -/
def isInRange : Value → Bool
  | integer n => -Nat.pow 2 127 ≤ n && n < Nat.pow 2 128
  | hugeFloat => false
  | array items => allInRange items
  | table entries => entriesInRange entries
  | _ => true

def allInRange : List Value → Bool
  | [] => true
  | value :: rest => isInRange value && allInRange rest

def entriesInRange : List (String × Value) → Bool
  | [] => true
  | (_, value) :: rest => isInRange value && entriesInRange rest

end

end Value

end TableForge.Toml
