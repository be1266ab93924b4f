import TableForge.Text.Words

/-!
# Naming conventions

How the names of tables, fields and rows become identifiers of the target language. A convention is
three functions, so that any of them can be exchanged.
-/
namespace TableForge

structure Naming where
  /-- From the name of a table to the name of a class. -/
  className : String → String
  /-- From the name of a row or a table to the name of a constant. -/
  constantName : String → String
  /-- From the name of a field to the name of a variable. -/
  variableName : String → String

namespace Naming

def pascalCase (name : String) : String :=
  String.ofList (Text.pascalCase name.toList)

def camelCase (name : String) : String :=
  String.ofList (Text.camelCase name.toList)

def screamingSnakeCase (name : String) : String :=
  String.ofList (Text.screamingSnakeCase name.toList)

/-- Classes in Pascal case, constants in screaming snake case, variables in camel case. -/
def standard : Naming where
  className := pascalCase
  constantName := screamingSnakeCase
  variableName := camelCase

instance : Inhabited Naming := ⟨standard⟩

end Naming

end TableForge
