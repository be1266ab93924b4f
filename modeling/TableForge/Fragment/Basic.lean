/-!
# Fragments

A fragment is one construct of the target language, such as a declaration or an assignment. The
passes only say which fragments they want; a renderer turns each into code. A renderer that does
not support a kind of fragment keeps the passes that need it from running.
-/
namespace TableForge

inductive FragmentKind where
  | classVariable
  | classProperty
  | constant
  | localVariable
  | localAssignment
  | newClassInstance
  | parameter
deriving DecidableEq, Repr

namespace FragmentKind

/-- Every kind, in the order in which they are listed. -/
def all : List FragmentKind :=
  [classVariable, classProperty, constant, localVariable, localAssignment, newClassInstance,
    parameter]

/-- The key of the kind in a manifest. -/
def key : FragmentKind → String
  | classVariable => "class_variable"
  | classProperty => "class_property"
  | constant => "constant"
  | localVariable => "local_variable"
  | localAssignment => "local_assignment"
  | newClassInstance => "new_class_instance"
  | parameter => "parameter"

/-- What the kind is called in messages. -/
def label : FragmentKind → String
  | classVariable => "class variable"
  | classProperty => "class property"
  | constant => "constant"
  | localVariable => "local variable"
  | localAssignment => "local assignment"
  | newClassInstance => "class instance"
  | parameter => "parameter"

end FragmentKind

inductive Fragment where
  /-- A variable of a class. -/
  | classVariable (name type : String)
  /-- A property of a class. -/
  | classProperty (name type : String)
  /-- A constant with its value. -/
  | constant (name type value : String)
  /-- A local variable with its first value. -/
  | localVariable (name type value : String)
  /-- The assignment of a value to a name that exists. -/
  | localAssignment (name value : String)
  /-- An expression that makes an instance of a class from a list of arguments. -/
  | newClassInstance (className arguments : String)
  /-- The declaration of one parameter. -/
  | parameter (name type : String)
deriving DecidableEq, Repr

def Fragment.kind : Fragment → FragmentKind
  | classVariable .. => .classVariable
  | classProperty .. => .classProperty
  | constant .. => .constant
  | localVariable .. => .localVariable
  | localAssignment .. => .localAssignment
  | newClassInstance .. => .newClassInstance
  | parameter .. => .parameter

/-- How fragments become code. -/
structure Renderer where
  supports : FragmentKind → Bool
  render : Fragment → String

end TableForge
