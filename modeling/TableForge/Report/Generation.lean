import TableForge.Report.Json
import TableForge.Report.Output
import TableForge.Template.Package

/-!
# Reports on generation

Generating either previews or writes, and both give a report: the log, the passes, and the files.
A report is a success when the run was gone through and no pass was aborted.
-/
namespace TableForge

/-- What is asked for. -/
structure GenerateOptions where
  /-- The folder to clear and write into; a dry run does not need it. -/
  output : Option Path := none
  /-- Takes the place of the package name of the dataset. -/
  package : Option String := none
  dryRun : Bool := false
deriving DecidableEq, Repr

structure PassSummary where
  pass : PassKind
  status : String
  files : Nat
  error : Option String
deriving DecidableEq, Repr

/-- The files of a report. -/
inductive GenerationResult where
  | written (status : RunStatus) (root : Option Path) (files : List Path)
  | preview (files : List GeneratedFile)
deriving DecidableEq, Repr

structure GenerateReport where
  /-- The name of the template package. -/
  templateName : Option String
  passes : List PassSummary
  log : RunLog
  result : GenerationResult
deriving DecidableEq, Repr

/-- Why there is no report. -/
inductive GenerateError where
  | outputRequired
  /-- The disk failed while files were generated into a folder. -/
  | failed (output : Path) (cause : RunError)
deriving DecidableEq, Repr

namespace GenerateError

def message : GenerateError → String
  | outputRequired => "An output directory is required unless --dry-run is set"
  | failed output _ => "Failed to generate into " ++ output.text

def cause? : GenerateError → Option RunError
  | outputRequired => none
  | failed _ cause => some cause

end GenerateError

/-- The moment at which log entries are shown: the time of day for people and the full time for
programs. -/
structure Clock where
  time : String
  timestamp : String

namespace PassSummary

def ofReport (r : PassReport) : PassSummary :=
  match r.status with
  | .completed files => { pass := r.pass, status := "completed", files, error := none }
  | .skipped => { pass := r.pass, status := "skipped", files := 0, error := none }
  | .aborted error =>
    { pass := r.pass, status := "aborted", files := 0, error := some error.message }

/-- How the pass ended, on one line. -/
def text (s : PassSummary) : String :=
  match s.error with
  | some error => s.status ++ " - " ++ error
  | none => if 0 < s.files then s.status ++ " (" ++ toString s.files ++ " files)" else s.status

def json (s : PassSummary) : Json :=
  .object <|
    [("kind", .text s.pass.name), ("status", .text s.status), ("files", .number s.files)]
      ++ (s.error.map fun error => ("error", Json.text error)).toList

end PassSummary

namespace GenerateReport

def ofPreview (templateName : Option String) (p : Preview) : GenerateReport where
  templateName
  passes := p.passes.map .ofReport
  log := p.log
  result := .preview p.files

def ofWritten (templateName : Option String) (r : WriteReport) : GenerateReport where
  templateName
  passes := r.passes.map .ofReport
  log := r.log
  result := .written r.status r.outputRoot r.written

/-- Whether the run was gone through and no pass was aborted. -/
def isSuccess (r : GenerateReport) : Bool :=
  (match r.result with
    | .written status .. => status = .completed
    | .preview _ => true)
  && r.passes.all fun s => s.error.isNone

def logLine (clock : Clock) (e : LogEntry) : OutputLine :=
  let text := "[" ++ clock.time ++ "] " ++ e.text
  match e.level with
  | .warning | .aborted => .warning text
  | .info | .skipped => .preformatted text

def passLines (r : GenerateReport) : List OutputLine :=
  [.newline, .section_ (r.templateName.elim "Passes" fun name => "Passes (" ++ name ++ ")")]
    ++ r.passes.map fun s => .keyValueIndented s.pass.name s.text

def resultLines (r : GenerateReport) : List OutputLine :=
  match r.result with
  | .written _ (some root) files =>
    [.newline, .section_ ("Wrote " ++ toString files.length ++ " files to " ++ root.text)]
      ++ files.map fun file => .addedItem ((file.relativeTo? root).getD file).text
  | .written _ none _ => []
  | .preview files =>
    files.flatMap fun f => [.newline, .divider f.path.text, .preformatted f.content]

/-- The report for people. A run that could not begin shows its log only. -/
def lines (clock : Clock) (r : GenerateReport) : List OutputLine :=
  r.log.map (logLine clock)
    ++ if r.passes.isEmpty then [] else r.passLines ++ r.resultLines

def resultJson (r : GenerateReport) : Json :=
  match r.result with
  | .written status root files =>
    .object [("mode", .text "written"), ("status", .text status.name),
      ("output_root", .ofOption (root.map Path.text)), ("files", .ofTexts (files.map Path.text))]
  | .preview files =>
    .object [("mode", .text "preview"),
      ("files", .array (files.map fun f =>
        .object [("path", .text f.path.text), ("content", .text f.content)]))]

/-- The report for programs. -/
def json (clock : Clock) (r : GenerateReport) : Json :=
  .object
    [("template_name", .ofOption r.templateName),
     ("passes", .array (r.passes.map PassSummary.json)),
     ("log", .array (r.log.map fun e =>
       .object [("timestamp", .text clock.timestamp), ("level", .text e.level.name),
         ("message", .text e.message)])),
     ("result", r.resultJson)]

end GenerateReport

variable {m : Type → Type} [Monad m] [Disk m]

/-- The generator that a request asks for. -/
def GenerateOptions.generator (opts : GenerateOptions) (dataset : Dataset)
    (package : TemplatePackage) : Generator :=
  let g := package.generator dataset
  match opts.package with
  | some name => { g with config := { g.config with packageName := name } }
  | none => g

/-- Previews or writes, as asked. -/
def generate (dataset : Dataset) (package : TemplatePackage) (opts : GenerateOptions) :
    m (Except GenerateError GenerateReport) := do
  let g := opts.generator dataset package
  let templateName := package.manifest.info.name
  if opts.dryRun then
    return .ok (.ofPreview templateName g.preview)
  else
    match opts.output with
    | none => return .error .outputRequired
    | some output =>
      match ← g.writeTo output with
      | .error cause => return .error (.failed output cause)
      | .ok report => return .ok (.ofWritten templateName report)

end TableForge
