import TableForge.Fragment.Pattern
import TableForge.Generation.Config
import TableForge.Generation.TypeMap
import TableForge.LoadError
import TableForge.Toml.Document
import TableForge.Toml.Record

/-!
# Manifests of template packages

The manifest of a template package says who made it, how package names are treated, which files are
the templates, how types and fragments are written in the target language, and which variables are
replaced everywhere. Every part may be left out. A manifest is refused when a variable has an empty
token or a template path could lead out of the package; the same paths serve as output paths.
-/
namespace TableForge

/-- What a package says about itself. -/
structure PackageInfo where
  name : Option String := none
  author : Option String := none
  contact : Option String := none
deriving DecidableEq, Repr, Inhabited

/-- How package names are treated. -/
structure PackageOptions where
  separator : String := "."
  folders : Bool := false
  lowercase : Bool := false
deriving DecidableEq, Repr, Inhabited

/-- The paths of the templates inside the package. -/
structure FileSlots where
  database : Option Path := none
  table : Option Path := none
  row : Option Path := none
  enumeration : Option Path := none
  package : List Path := []
deriving DecidableEq, Repr, Inhabited

structure Manifest where
  info : PackageInfo := {}
  options : PackageOptions := {}
  files : FileSlots := {}
  types : TypeMap := .empty
  fragments : FragmentPatterns := {}
  /-- Tokens and values, in order. -/
  replacements : List (String × String) := []

open Toml (Record Value)

namespace FileSlots

/-- Every declared path with the name of its slot, in the order in which they are checked. -/
def paths (s : FileSlots) : List (String × Path) :=
  (s.database.map (("database", ·))).toList ++ (s.table.map (("table", ·))).toList
    ++ (s.row.map (("row", ·))).toList ++ (s.enumeration.map (("enumeration", ·))).toList
    ++ s.package.map (("package", ·))

/-- The first path that is not plain. -/
def fault? (s : FileSlots) : Option Violation :=
  (s.paths.find? fun (_, path) => !path.isPlain).map fun (slot, path) => .unsafePath slot path

end FileSlots

namespace Manifest

def path? (v : Value) : Option Path := v.text?.map Path.mk

def info? (v : Value) : Option PackageInfo := do
  let r ← Record.ofValue? ["name", "author", "contact"] v
  let name ← r.optional "name" Value.text?
  let author ← r.optional "author" Value.text?
  let contact ← r.optional "contact" Value.text?
  some { name, author, contact }

def options? (v : Value) : Option PackageOptions := do
  let r ← Record.ofValue? ["separator", "folders", "lowercase"] v
  let separator ← r.defaulted "separator" "." Value.text?
  let folders ← r.defaulted "folders" false Value.flag?
  let lowercase ← r.defaulted "lowercase" false Value.flag?
  some { separator, folders, lowercase }

def files? (v : Value) : Option FileSlots := do
  let r ← Record.ofValue? ["database", "table", "row", "enumeration", "package"] v
  let database ← r.optional "database" path?
  let table ← r.optional "table" path?
  let row ← r.optional "row" path?
  let enumeration ← r.optional "enumeration" path?
  let package ← r.defaulted "package" [] (Value.items? path?)
  some { database, table, row, enumeration, package }

def fragments? (v : Value) : Option FragmentPatterns := do
  let r ← Record.ofValue? ["class_variable", "class_property", "constant", "local_variable",
    "local_assignment", "new_class_instance", "parameter"] v
  let classVariable ← r.optional "class_variable" Value.text?
  let classProperty ← r.optional "class_property" Value.text?
  let constant ← r.optional "constant" Value.text?
  let localVariable ← r.optional "local_variable" Value.text?
  let localAssignment ← r.optional "local_assignment" Value.text?
  let newClassInstance ← r.optional "new_class_instance" Value.text?
  let parameter ← r.optional "parameter" Value.text?
  some { classVariable, classProperty, constant, localVariable, localAssignment,
         newClassInstance, parameter }

def variableOf? (v : Value) : Option (String × String) := do
  let r ← Record.ofValue? ["token", "value"] v
  let token ← r.required "token" Value.text?
  let value ← r.required "value" Value.text?
  some (token, value)

def types? (v : Value) : Option TypeMap :=
  (v.entries? Value.text?).map OrderedMap.mk

def ofEntries? (entries : List (String × Value)) : Option Manifest := do
  let r ← Record.ofEntries? ["template", "package", "files", "types", "fragments", "variables"]
    entries
  let info ← r.defaulted "template" {} info?
  let options ← r.defaulted "package" {} options?
  let files ← r.defaulted "files" {} files?
  let types ← r.defaulted "types" .empty types?
  let fragments ← r.defaulted "fragments" {} fragments?
  let replacements ← r.defaulted "variables" [] (Value.items? variableOf?)
  some { info, options, files, types, fragments, replacements }

/-- The first rule that a manifest breaks. -/
def fault? (manifest : Manifest) : Option Violation :=
  match manifest.replacements.find? fun (token, _) => token = "" with
  | some (_, value) => some (.emptyToken value)
  | none => manifest.files.fault?

/-- Reads and checks the text of a manifest. -/
def ofSource (source : Source) : Except LoadError Manifest :=
  match (Toml.read? source.text).bind ofEntries? with
  | none => .error (.malformed source.fileName)
  | some manifest =>
    match manifest.fault? with
    | some violation => .error (source.violation violation)
    | none => .ok manifest

/-- The settings that a manifest declares; the package name is left open. -/
def config (manifest : Manifest) : Config where
  packageSeparator := manifest.options.separator
  packageFolders := manifest.options.folders
  lowercasePackage := manifest.options.lowercase
  name := manifest.info.name
  author := manifest.info.author
  contact := manifest.info.contact

end Manifest

end TableForge
