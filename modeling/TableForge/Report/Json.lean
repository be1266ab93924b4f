/-!
# JSON text

Reports can be printed as JSON: two spaces of indentation, members in the order given, one item per
line, and empty arrays and objects on one line. Text outside ASCII is kept; quotes, backslashes and
control characters are escaped.
-/
namespace TableForge

inductive Json where
  | null
  | text (text : String)
  | number (n : Nat)
  | array (items : List Json)
  | object (members : List (String × Json))

namespace Json

/-- A text, or null. -/
def ofOption : Option String → Json
  | none => null
  | some s => text s

def ofTexts (texts : List String) : Json := array (texts.map text)

/-- A control character as four hexadecimal digits. -/
def unicodeEscape (c : Char) : List Char :=
  let digits := Nat.toDigits 16 c.toNat
  ['\\', 'u'] ++ List.replicate (4 - digits.length) '0' ++ digits

def escapeChar (c : Char) : List Char :=
  match c with
  | '"' => ['\\', '"']
  | '\\' => ['\\', '\\']
  | '\x08' => ['\\', 'b']
  | '\x0c' => ['\\', 'f']
  | '\n' => ['\\', 'n']
  | '\r' => ['\\', 'r']
  | '\t' => ['\\', 't']
  | c => if c < ' ' then unicodeEscape c else [c]

/-- A text between quotes. -/
def quoted (s : String) : String :=
  "\"" ++ String.ofList (s.toList.flatMap escapeChar) ++ "\""

/-- The start of a line. -/
def indent (depth : Nat) : String :=
  String.ofList (List.replicate (2 * depth) ' ')

/-- Items on lines of their own between an opening and a closing mark. -/
def enclose (opening closing : String) (depth : Nat) (items : List String) : String :=
  if items.isEmpty then opening ++ closing
  else
    opening ++ "\n" ++ ",\n".intercalate (items.map fun item => indent (depth + 1) ++ item) ++ "\n"
      ++ indent depth ++ closing

mutual

/-- The text of a value that starts on a line indented by `depth`. -/
def textAt (depth : Nat) : Json → String
  | null => "null"
  | text s => quoted s
  | number n => toString n
  | array items => enclose "[" "]" depth (itemTexts (depth + 1) items)
  | object members => enclose "\x7b" "\x7d" depth (memberTexts (depth + 1) members)

def itemTexts (depth : Nat) : List Json → List String
  | [] => []
  | item :: rest => textAt depth item :: itemTexts depth rest

def memberTexts (depth : Nat) : List (String × Json) → List String
  | [] => []
  | (key, value) :: rest =>
    (quoted key ++ ": " ++ textAt depth value) :: memberTexts depth rest

end

/-- The text of a document. -/
def print (j : Json) : String := textAt 0 j

end Json

end TableForge
