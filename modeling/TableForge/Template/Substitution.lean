import TableForge.Text.Search

/-!
# Filling in templates

Placeholders are replaced one after another, each wherever its text stands, and a later replacement
sees what an earlier one put in. Generated lines come in blocks under a comment; the line breaks at
the end of a block are dropped where it is put in.
-/
namespace TableForge

/-- The placeholders of templates. -/
inductive Placeholder where
  | packageString
  | className
  | variableList
  | propertyList
  | classParamsString
  | classParamsList
  | rowClassName
  | tableName
  | rowList
  | classList
deriving DecidableEq, Repr

def Placeholder.token : Placeholder → String
  | packageString => "PACKAGE_STRING"
  | className => "CLASS_NAME"
  | variableList => "VARIABLE_LIST"
  | propertyList => "PROPERTY_LIST"
  | classParamsString => "CLASS_PARAMS_STRING"
  | classParamsList => "CLASS_PARAMS_LIST"
  | rowClassName => "ROW_CLASS_NAME"
  | tableName => "TABLE_NAME"
  | rowList => "ROW_LIST"
  | classList => "CLASS_LIST"

namespace Body

/-- The body with every occurrence of `token` replaced. -/
def replace (token value body : String) : String :=
  String.ofList (Text.replaceAll token.toList value.toList body.toList)

/-- A text without the line breaks at its end. -/
def trimLineEnds (text : String) : String :=
  String.ofList (Text.trimLineEnds text.toList)

/-- Replaces a token by a block of generated lines. -/
def replaceBlock (token block body : String) : String :=
  replace token (trimLineEnds block) body

/-- Applies pairs of token and value in order. -/
def applyVariables (replacements : List (String × String)) (body : String) : String :=
  replacements.foldl (fun body (token, value) => replace token value body) body

/-- Replaces placeholders in order. -/
def fill (values : List (Placeholder × String)) (body : String) : String :=
  values.foldl (fun body (placeholder, value) => replace placeholder.token value body) body

end Body

/-- Lines, each with a line break behind it. -/
def joinLines (lines : List String) : String :=
  String.join (lines.map fun line => line ++ "\n")

/-- A block of generated lines under its comment. -/
def block (comment : String) (lines : List String) : String :=
  joinLines (comment :: lines)

end TableForge
