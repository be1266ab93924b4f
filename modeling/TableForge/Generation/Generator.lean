import TableForge.Disk
import TableForge.Generation.Config
import TableForge.Generation.Outcome
import TableForge.RunLog

/-!
# Generating files

A generator brings a dataset and its templates together. A preview renders every pass and keeps the
files; a run clears the output folder and writes the same files there, in the same order. Rendering
never fails as a whole: a pass that cannot run is reported and the others go on. A run fails only
when the disk does, and then what was written stays.
-/
namespace TableForge

structure Generator where
  config : Config
  dataset : Dataset
  templates : TemplateSet
  renderer : Renderer
  types : TypeMap
  replacements : List (String × String)
  naming : Naming

/-- How a pass ended. -/
inductive PassStatus where
  | completed (files : Nat)
  | skipped
  | aborted (error : PassError)
deriving DecidableEq, Repr

structure PassReport where
  pass : PassKind
  status : PassStatus
deriving DecidableEq, Repr

def PassOutcome.status : PassOutcome → PassStatus
  | skipped => .skipped
  | aborted error => .aborted error
  | rendered files => .completed files.length

def PassOutcome.files : PassOutcome → List GeneratedFile
  | rendered files => files
  | _ => []

/-- What the log says about a pass; `verb` is what happens to its files. -/
def PassOutcome.log (verb : String) (pass : PassKind) : PassOutcome → RunLog
  | skipped =>
    [⟨.skipped, "No " ++ pass.name ++ " template, skipping " ++ pass.name ++ " files"⟩]
  | aborted error => [⟨.aborted, error.message⟩]
  | rendered files =>
    files.map fun f => ⟨.info, verb ++ " " ++ pass.label ++ " File - " ++ f.name⟩

/-- What a run would write. -/
structure Preview where
  passes : List PassReport
  /-- The files, with paths relative to the output folder. -/
  files : List GeneratedFile
  log : RunLog
deriving DecidableEq, Repr

/-- How a whole run ended. -/
inductive RunStatus where
  /-- All passes were gone through; some may have been skipped or aborted. -/
  | completed
  /-- The output folder could not be used and nothing was touched. -/
  | aborted
deriving DecidableEq, Repr

def RunStatus.name : RunStatus → String
  | completed => "completed"
  | aborted => "aborted"

structure WriteReport where
  status : RunStatus
  /-- The folder that the files were written under. -/
  outputRoot : Option Path
  passes : List PassReport
  /-- The files written, in order. -/
  written : List Path
  log : RunLog
deriving DecidableEq, Repr

/-- A failure of the disk that ends a run. -/
inductive RunError where
  | clear (path : Path) (fault : FileFault)
  | write (path : Path) (fault : FileFault)
deriving DecidableEq, Repr

namespace RunError

def message : RunError → String
  | clear path _ => "failed to clear output directory '" ++ path.text ++ "'"
  | write path _ => "failed to write '" ++ path.text ++ "'"

def fault : RunError → FileFault
  | clear _ fault => fault
  | write _ fault => fault

end RunError

/-- The passes that stopped for lack of configuration. -/
def WriteReport.abortedPasses (r : WriteReport) : List (PassKind × PassError) :=
  r.passes.filterMap fun p =>
    match p.status with
    | .aborted error => some (p.pass, error)
    | _ => none

namespace Generator

/-- What the passes of a generator read. -/
def context (g : Generator) : Context where
  dataset := g.dataset
  templates := g.templates
  renderer := g.renderer
  types := g.types
  naming := g.naming
  replacements := g.replacements
  package := g.config.packageString

def outcomes (g : Generator) : List (PassKind × PassOutcome) :=
  g.context.outcomes

def passReports (g : Generator) : List PassReport :=
  g.outcomes.map fun (pass, outcome) => ⟨pass, outcome.status⟩

/-- Every rendered file, in the order in which files are written. -/
def files (g : Generator) : List GeneratedFile :=
  g.outcomes.flatMap fun (_, outcome) => outcome.files

/-- A warning when the package name is to be laid out as folders and gives none. -/
def folderWarning (g : Generator) : RunLog :=
  if g.config.packageFolders ∧ g.config.packagePath.text = "" then
    [⟨.warning, "Package folders requested but no package string set, writing to output root"⟩]
  else []

/-- What the log says about the passes. -/
def passLog (g : Generator) (verb : String) : RunLog :=
  g.folderWarning ++ g.outcomes.flatMap fun (pass, outcome) => outcome.log verb pass

/-- Renders every pass without touching the disk. -/
def preview (g : Generator) : Preview where
  passes := g.passReports
  files := g.files.map fun f => { f with path := (g.config.outputRoot ⟨""⟩).join f.path }
  log := g.passLog "Rendered"

/-- The report of a run that could not begin. -/
def refused (reason : String) : WriteReport where
  status := .aborted
  outputRoot := none
  passes := []
  written := []
  log := [⟨.aborted, reason⟩]

/-- The report of a run that wrote every file under `root`. -/
def completed (g : Generator) (root : Path) : WriteReport where
  status := .completed
  outputRoot := some root
  passes := g.passReports
  written := g.files.map fun f => root.join f.path
  log :=
    [⟨.info, "Starting Write Process"⟩] ++ g.passLog "Created"
      ++ [⟨.info, "Finished Write Process"⟩]

variable {m : Type → Type} [Monad m] [Disk m]

/-- Writes files under `root` one after another and stops at the first that cannot be written. -/
def writeFiles (root : Path) : List GeneratedFile → m (Except RunError Unit)
  | [] => return .ok ()
  | f :: rest => do
    match ← Disk.write (root.join f.path) f.content with
    | .error fault => return .error (.write (root.join f.path) fault)
    | .ok () => writeFiles root rest

/-- Clears the output folder and writes every file. Without an output folder nothing is touched. -/
def writeTo (g : Generator) (output : Path) : m (Except RunError WriteReport) := do
  if output.text = "" then
    return .ok (refused "No output directory set")
  else if !(← Disk.isFolder output) then
    return .ok (refused "Output path does not exist.")
  else
    match ← Disk.clear output with
    | .error fault => return .error (.clear output fault)
    | .ok _ =>
      let root := g.config.outputRoot output
      match ← writeFiles root g.files with
      | .error error => return .error error
      | .ok () => return .ok (g.completed root)

end Generator

end TableForge
