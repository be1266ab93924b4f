import TableForge.Check.Lint
import TableForge.Generation.Generator
import TableForge.Template.Manifest

/-!
# Template packages

A template package is a directory with a manifest and the templates that the manifest names. All
paths are checked before any template is read, and templates are read in the order in which the
slots are checked; the first that cannot be read is reported.
-/
namespace TableForge

structure TemplatePackage where
  /-- Where the package was loaded from. -/
  dir : Path
  manifest : Manifest
  templates : TemplateSet

namespace TemplatePackage

/-- The name of the manifest inside a package. -/
def manifestName : String := "template.toml"

variable {m : Type → Type} [Monad m] [Disk m]

/-- Reads the template at a path inside the package. -/
def readTemplate (dir : Path) (slot : String) (path : Path) :
    m (Except LoadError TemplateFile) := do
  match ← Disk.readText (dir.join path) with
  | .error fault => return .error (.missingTemplate slot (dir.join path) fault)
  | .ok contents => return .ok { fileName := path, contents }

def readSlot (dir : Path) (slot : String) :
    Option Path → m (Except LoadError (Option TemplateFile))
  | none => return .ok none
  | some path => do
    match ← readTemplate dir slot path with
    | .error error => return .error error
    | .ok template => return .ok (some template)

def readAll (dir : Path) (slot : String) : List Path → m (Except LoadError (List TemplateFile))
  | [] => return .ok []
  | path :: rest => do
    match ← readTemplate dir slot path with
    | .error error => return .error error
    | .ok template =>
      match ← readAll dir slot rest with
      | .error error => return .error error
      | .ok templates => return .ok (template :: templates)

/-- Reads the templates that a manifest names. -/
def readTemplates (dir : Path) (slots : FileSlots) : ExceptT LoadError m TemplateSet := do
  let database ← ExceptT.mk (readSlot dir "database" slots.database)
  let table ← ExceptT.mk (readSlot dir "table" slots.table)
  let row ← ExceptT.mk (readSlot dir "row" slots.row)
  let enumeration ← ExceptT.mk (readSlot dir "enumeration" slots.enumeration)
  let packageFiles ← ExceptT.mk (readAll dir "package" slots.package)
  return { database, table, row, enumeration, packageFiles }

/-- Loads a package whose manifest has been read. The paths are checked once more, for the manifest
may come from anywhere; there is no source that faults could be shown in. -/
def ofManifest (dir : Path) (manifest : Manifest) : m (Except LoadError TemplatePackage) := do
  match manifest.files.fault? with
  | some violation => return .error (.invalid violation none)
  | none =>
    match ← (readTemplates dir manifest.files).run with
    | .error error => return .error error
    | .ok templates => return .ok { dir, manifest, templates }

/-- Loads the package in a directory. -/
def load (dir : Path) : m (Except LoadError TemplatePackage) := do
  let path := dir.join ⟨manifestName⟩
  match ← Disk.readText path with
  | .error fault => return .error (.unreadable path fault)
  | .ok text =>
    match Manifest.ofSource { text, fileName := path.text } with
    | .error error => return .error error
    | .ok manifest => ofManifest dir manifest

/-- The generator for a dataset. The package name is that of the dataset. -/
def generator (p : TemplatePackage) (dataset : Dataset) : Generator where
  config := { p.manifest.config with packageName := dataset.package.getD "" }
  dataset
  templates := p.templates
  renderer := p.manifest.fragments.renderer
  types := p.manifest.types
  replacements := p.manifest.replacements
  naming := .standard

end TemplatePackage

/-- What the lints look at in a generator. -/
def Generator.checkInput (g : Generator) : CheckInput where
  dataset := g.dataset
  templates := g.templates
  renderer := g.renderer
  types := g.types

end TableForge
