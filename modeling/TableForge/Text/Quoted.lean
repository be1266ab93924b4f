import TableForge.Text.Search

/-!
# Quoted text

Text cells are written between double quotes, with a backslash in front of every double quote of the
cell. Nothing else is changed.
-/
namespace TableForge.Text

/-- A text with its double quotes escaped. -/
def escapeQuotes (text : List Char) : List Char :=
  replaceAll ['"'] ['\\', '"'] text

/-- A text between double quotes. -/
def quote (text : List Char) : List Char :=
  '"' :: escapeQuotes text ++ ['"']

end TableForge.Text
