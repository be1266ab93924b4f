import TableForge.Toml.Lexeme
import TableForge.Toml.Section

/-!
# Reading a TOML document

The grammar above the lexemes: values, which nest at most `maxDepth` deep, and the statements of a
document. Every recursive call but one between two neighbours takes a character off the text, so
twice the length of the text bounds the number of steps.
-/
namespace TableForge.Toml

/-- How deep arrays and inline tables may nest. -/
def maxDepth : Nat := 80

/-- The last part of a dotted key and the parts before it. -/
def splitLast (path : List String) : List String × String :=
  (path.dropLast, path.getLast?.getD "")

mutual

/-- A value; `depth` is how many levels may still open. -/
def value? : Nat → Nat → List Char → Option (Value × List Char)
  | 0, _, _ => none
  | fuel + 1, depth, text =>
    match text, depth with
    | '[' :: rest, depth + 1 =>
      (items? fuel depth rest).map fun (items, rest) => (.array items, rest)
    | '{' :: rest, depth + 1 =>
      (pairs? fuel depth [] rest).map fun (entries, rest) => (.table (entryValues entries), rest)
    | '[' :: _, 0 => none
    | '{' :: _, 0 => none
    | '"' :: _, _ => (string? text).map fun (s, rest) => (.string (String.ofList s), rest)
    | '\'' :: _, _ => (string? text).map fun (s, rest) => (.string (String.ofList s), rest)
    | _, _ => scalar? text

/-- The items of an array, from behind its bracket or a comma. -/
def items? : Nat → Nat → List Char → Option (List Value × List Char)
  | 0, _, _ => none
  | fuel + 1, depth, text =>
    match skipFiller false text with
    | ']' :: rest => some ([], rest)
    | text => do
      let (item, text) ← value? fuel depth text
      match skipFiller false text with
      | ']' :: rest => some ([item], rest)
      | ',' :: rest => do
        let (items, rest) ← items? fuel depth rest
        some (item :: items, rest)
      | _ => none

/-- The pairs of an inline table, from behind its brace or a comma. -/
def pairs? : Nat → Nat → Entries → List Char → Option (Entries × List Char)
  | 0, _, _, _ => none
  | fuel + 1, depth, entries, text =>
    match skipFiller false text with
    | '\x7d' :: rest => some (entries, rest)
    | text => do
      let (path, text) ← keyPath? text
      let text ← takeChar? '=' (skipFiller false text)
      let (value, text) ← value? fuel depth (skipFiller false text)
      let entries ← entries.assign (splitLast path).1 (splitLast path).2 value
      match skipFiller false text with
      | '\x7d' :: rest => some (entries, rest)
      | ',' :: rest => pairs? fuel depth entries rest
      | _ => none

end

/-- A statement: what it does to the document, the table it leaves open, and the text behind it. -/
structure Statement where
  apply : Entries → Option Entries
  opened : List String
  rest : List Char

def header? (text : List Char) : Option Statement := do
  let (path, text) ← keyPath? text
  let rest ← takeChar? ']' text
  some { apply := Entries.declare (splitLast path).1 (splitLast path).2, opened := path, rest }

def arrayHeader? (text : List Char) : Option Statement := do
  let (path, text) ← keyPath? text
  let text ← takeChar? ']' text
  let rest ← takeChar? ']' text
  some { apply := Entries.append (splitLast path).1 (splitLast path).2, opened := path, rest }

def assignment? (opened : List String) (text : List Char) : Option Statement := do
  let (path, text) ← keyPath? text
  let text ← takeChar? '=' text
  let text := skipBlanks text
  let (value, rest) ← value? (2 * text.length + 2) maxDepth text
  let (before, name) := splitLast path
  some { apply := fun document => document.within opened (Entries.assign before name value),
         opened, rest }

def statement? (opened : List String) : List Char → Option Statement
  | '[' :: '[' :: rest => arrayHeader? rest
  | '[' :: rest => header? rest
  | text => assignment? opened text

/-- Reads statements to the end of the text; `fuel` bounds their number. -/
def statements? : Nat → List String → Entries → List Char → Option Entries
  | 0, _, _, _ => none
  | fuel + 1, opened, document, text =>
    match skipFiller false text with
    | [] => some document
    | text => do
      let statement ← statement? opened text
      let document ← statement.apply document
      let rest ← takeLineEnd? statement.rest
      statements? fuel statement.opened document rest

/-- A byte order mark at the start of the text is no part of the document. -/
def dropByteOrderMark : List Char → List Char
  | '\ufeff' :: rest => rest
  | text => text

/-- The top-level table of a document, or `none` where the text is no TOML. -/
def read? (source : String) : Option (List (String × Value)) :=
  let text := dropByteOrderMark source.toList
  (statements? (text.length + 1) [] [] text).map entryValues

end TableForge.Toml
