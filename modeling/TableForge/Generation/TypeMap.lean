import TableForge.Dataset.Basic

/-!
# Type maps

A template package says how the types of fields are called in its language. The map is open: a type
without an entry is written as it is. References to rows are kept as numbers, so `lookup` is written
like `int` and an entry for it has no effect.
-/
namespace TableForge

abbrev TypeMap := OrderedMap String

namespace TypeMap

/-- What a type tag is called when it is taken at its word. -/
def named (m : TypeMap) (type : String) : String :=
  (m.get? type).getD type

/-- What a field type is called in the target language. -/
def resolve (m : TypeMap) (type : String) : String :=
  if type = lookupType then m.named intType else m.named type

end TypeMap

end TableForge
