import TableForge.Fragment.Basic

/-!
# Fragment patterns

A pattern is text with holes, which are written `{name}`, `{type}` and `{value}`. Taking a
pattern apart does not depend on what goes into the holes, and what goes into them is never taken
apart again; so a cell that holds the text of a hole comes out as it is. A brace that opens no hole
of the kind of fragment at hand is text.
-/
namespace TableForge

/-- What a hole asks for. -/
inductive Slot where
  | name
  | type
  | value
deriving DecidableEq, Repr

def Slot.token : Slot → List Char
  | name => ['n', 'a', 'm', 'e']
  | type => ['t', 'y', 'p', 'e']
  | value => ['v', 'a', 'l', 'u', 'e']

/-- What stands behind the opening brace of a hole. -/
def Slot.closing (s : Slot) : List Char := s.token ++ ['\x7d']

/-- The holes that a kind of fragment fills, in the order in which they are tried. -/
def FragmentKind.slots : FragmentKind → List Slot
  | classVariable => [.name, .type]
  | classProperty => [.name, .type]
  | constant => [.name, .type, .value]
  | localVariable => [.name, .type, .value]
  | localAssignment => [.name, .value]
  | newClassInstance => [.name, .value]
  | parameter => [.name, .type]

/-- What a fragment puts into a hole. -/
def Fragment.argument : Fragment → Slot → String
  | classVariable name _, .name => name
  | classVariable _ type, .type => type
  | classProperty name _, .name => name
  | classProperty _ type, .type => type
  | constant name _ _, .name => name
  | constant _ type _, .type => type
  | constant _ _ value, .value => value
  | localVariable name _ _, .name => name
  | localVariable _ type _, .type => type
  | localVariable _ _ value, .value => value
  | localAssignment name _, .name => name
  | localAssignment _ value, .value => value
  | newClassInstance className _, .name => className
  | newClassInstance _ arguments, .value => arguments
  | parameter name _, .name => name
  | parameter _ type, .type => type
  | _, _ => ""

namespace Pattern

/-- A piece of a pattern. -/
inductive Piece where
  | text (c : Char)
  | hole (slot : Slot)
deriving DecidableEq, Repr

/-- Takes a pattern apart in one scan. After a hole, `skip` counts the characters of it that are
still to be passed over. -/
def piecesFrom (slots : List Slot) (skip : Nat) : List Char → List Piece
  | [] => []
  | c :: rest =>
    match skip with
    | skip + 1 => piecesFrom slots skip rest
    | 0 =>
      match if c = '\x7b' then slots.find? fun s => s.closing.isPrefixOf rest else none with
      | some slot => .hole slot :: piecesFrom slots slot.closing.length rest
      | none => .text c :: piecesFrom slots 0 rest

/-- The pieces of a pattern, for the given holes. -/
def pieces (slots : List Slot) (pattern : List Char) : List Piece :=
  piecesFrom slots 0 pattern

/-- Puts the pieces together, with the holes filled. -/
def fill (argument : Slot → List Char) (pieces : List Piece) : List Char :=
  pieces.flatMap fun
    | .text c => [c]
    | .hole slot => argument slot

/-- The code that a pattern makes of a fragment. -/
def render (pattern : String) (f : Fragment) : String :=
  String.ofList <|
    fill (fun slot => (f.argument slot).toList) (pieces f.kind.slots pattern.toList)

end Pattern

/-- The patterns of a template package; a kind without a pattern is not supported. -/
structure FragmentPatterns where
  classVariable : Option String := none
  classProperty : Option String := none
  constant : Option String := none
  localVariable : Option String := none
  localAssignment : Option String := none
  newClassInstance : Option String := none
  parameter : Option String := none
deriving DecidableEq, Repr, Inhabited

namespace FragmentPatterns

def get? (p : FragmentPatterns) : FragmentKind → Option String
  | .classVariable => p.classVariable
  | .classProperty => p.classProperty
  | .constant => p.constant
  | .localVariable => p.localVariable
  | .localAssignment => p.localAssignment
  | .newClassInstance => p.newClassInstance
  | .parameter => p.parameter

/-- The renderer of a set of patterns. A fragment of a kind without pattern is empty text. -/
def renderer (p : FragmentPatterns) : Renderer where
  supports kind := (p.get? kind).isSome
  render f := ((p.get? f.kind).map fun pattern => Pattern.render pattern f).getD ""

end FragmentPatterns

end TableForge
