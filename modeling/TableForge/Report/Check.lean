import TableForge.Report.Json
import TableForge.Report.Output
import TableForge.Template.Package

/-!
# Reports on checks

The findings of all lints on a dataset and a template package, by severity. A check passes when it
finds no error.
-/
namespace TableForge

structure CheckReport where
  datasetPath : Path
  templateDir : Path
  tables : Nat
  rows : Nat
  errors : List String
  warnings : List String
  infos : List String
deriving DecidableEq, Repr

/-- A finding with its place on a second line. -/
def Diagnostic.located (d : Diagnostic) : String :=
  d.message ++ d.location.elim "" fun loc => "\n  --> " ++ loc

/-- Lints a dataset against a template package. -/
def check (dataset : Dataset) (package : TemplatePackage) (datasetPath : Path) : CheckReport :=
  let found := (package.generator dataset).checkInput.diagnostics
  { datasetPath
    templateDir := package.dir
    tables := dataset.tables.length
    rows := (dataset.tables.flatMap Table.rows).length
    errors := (Diagnostic.ofSeverity .error found).map Diagnostic.located
    warnings := (Diagnostic.ofSeverity .warning found).map Diagnostic.located
    infos := (Diagnostic.ofSeverity .info found).map Diagnostic.located }

namespace CheckReport

/-- Whether nothing would abort. -/
def isValid (r : CheckReport) : Bool := r.errors.isEmpty

def findingLines (r : CheckReport) : List OutputLine :=
  r.errors.map (fun e => .warning ("error: " ++ e))
    ++ r.warnings.map (fun w => .warning ("warning: " ++ w))
    ++ r.infos.map (fun i => .preformatted ("info: " ++ i))

def readyLines (r : CheckReport) : List OutputLine :=
  [.preformatted ("✓ " ++ r.datasetPath.text ++ " is ready for " ++ r.templateDir.text),
   .listItem (toString r.tables ++ " tables"),
   .listItem (toString r.rows ++ " rows")]

/-- The report for people. -/
def lines (r : CheckReport) : List OutputLine :=
  r.findingLines ++ (if r.findingLines.isEmpty then [] else [.newline])
    ++ if r.isValid then r.readyLines else []

/-- The report for programs. -/
def json (r : CheckReport) : Json :=
  .object
    [("dataset_path", .text r.datasetPath.text), ("template_dir", .text r.templateDir.text),
     ("tables", .number r.tables), ("rows", .number r.rows),
     ("errors", .ofTexts r.errors), ("warnings", .ofTexts r.warnings), ("infos", .ofTexts r.infos)]

end CheckReport

end TableForge
