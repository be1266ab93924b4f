import TableForge.Generation.Generator

/-!
# Passes one after another

The report of a run can be put together while it goes on. Every pass hands its files over one by
one; a file that was taken is kept and entered into the log before the next is handed over, a pass
that renders nothing enters why, and behind each pass its report is added. Whatever takes the files,
the passes and the log come out as they are told of the outcomes of all passes, and what takes the
files is asked for each of them once, in order. Both a preview and a run are such loops.
-/
namespace TableForge

/-- What has come of the passes so far: their reports, what was kept of the files, and the log. -/
structure Progress (α : Type) where
  passes : List PassReport
  kept : List α
  log : RunLog

/-- What becomes of the files that are handed over. -/
structure Sink (m : Type → Type) (α : Type) where
  /-- Takes a file, or ends the run. -/
  accept : GeneratedFile → ExceptT RunError m Unit
  /-- What is kept of a file that was taken. -/
  keep : GeneratedFile → α
  /-- What the log says has happened to it. -/
  verb : String

namespace Sink

variable {m : Type → Type} [Monad m] {α : Type}

/-- Hands over a file of a pass. -/
def emit (sink : Sink m α) (pass : PassKind) (p : Progress α) (f : GeneratedFile) :
    ExceptT RunError m (Progress α) := do
  sink.accept f
  return { p with
    kept := p.kept ++ [sink.keep f]
    log := p.log ++ [⟨.info, sink.verb ++ " " ++ pass.label ++ " File - " ++ f.name⟩] }

def runPass (sink : Sink m α) (ctx : Context) (p : Progress α) (pass : PassKind) :
    ExceptT RunError m (Progress α) :=
  match ctx.outcome pass with
  | .rendered files => do
    let p ← files.foldlM (sink.emit pass) p
    return { p with passes := p.passes ++ [⟨pass, .completed files.length⟩] }
  | .skipped =>
    return { p with
      passes := p.passes ++ [⟨pass, .skipped⟩]
      log := p.log ++
        [⟨.skipped, "No " ++ pass.name ++ " template, skipping " ++ pass.name ++ " files"⟩] }
  | .aborted error =>
    return { p with
      passes := p.passes ++ [⟨pass, .aborted error⟩]
      log := p.log ++ [⟨.aborted, error.message⟩] }

/-- All passes of a generator, with a log that has begun. -/
def runPasses (sink : Sink m α) (g : Generator) (log : RunLog) :
    ExceptT RunError m (Progress α) :=
  PassKind.all.foldlM (sink.runPass g.context)
    { passes := [], kept := [], log := log ++ g.folderWarning }

/-! ## One pass -/

/-- What a pass adds once all of its files have been taken. -/
def after (sink : Sink m α) (p : Progress α) (pass : PassKind) (outcome : PassOutcome) :
    Progress α where
  passes := p.passes ++ [⟨pass, outcome.status⟩]
  kept := p.kept ++ outcome.files.map sink.keep
  log := p.log ++ outcome.log sink.verb pass

variable [LawfulMonad m] (sink : Sink m α) (ctx : Context)

theorem foldlM_emit (pass : PassKind) (files : List GeneratedFile) (p : Progress α) :
    files.foldlM (sink.emit pass) p = do
      forM files sink.accept
      return { p with
        kept := p.kept ++ files.map sink.keep
        log := p.log ++ (PassOutcome.rendered files).log sink.verb pass } := by
  -- what has come so far is arbitrary, so that the rest may go on from what the first file left
  induction files generalizing p with
  | nil => simp [PassOutcome.log]
  | cons f rest ih => simp [emit, ih, PassOutcome.log]

/-- A pass hands over its files and adds what its outcome tells. -/
theorem runPass_eq (p : Progress α) (pass : PassKind) :
    sink.runPass ctx p pass = do
      forM (ctx.outcome pass).files sink.accept
      return sink.after p pass (ctx.outcome pass) := by
  unfold runPass
  cases ctx.outcome pass with
  | skipped => simp [after, PassOutcome.status, PassOutcome.files, PassOutcome.log]
  | aborted error => simp [after, PassOutcome.status, PassOutcome.files, PassOutcome.log]
  | rendered files => simp [foldlM_emit, after, PassOutcome.status, PassOutcome.files]

/-! ## All passes -/

/-- By induction on the passes still to come. -/
theorem foldlM_runPass (passes : List PassKind) (p : Progress α) :
    passes.foldlM (sink.runPass ctx) p = do
      forM (passes.flatMap fun pass => (ctx.outcome pass).files) sink.accept
      return {
        passes := p.passes ++ passes.map fun pass => ⟨pass, (ctx.outcome pass).status⟩
        kept := p.kept ++ (passes.flatMap fun pass => (ctx.outcome pass).files).map sink.keep
        log := p.log ++ passes.flatMap fun pass => (ctx.outcome pass).log sink.verb pass } := by
  induction passes generalizing p with
  | nil => simp
  | cons pass rest ih => simp [runPass_eq, ih, after]

/-- The passes of a generator hand over its files, and what has come of them in the end is what the
outcomes tell. -/
theorem runPasses_eq (g : Generator) (log : RunLog) :
    sink.runPasses g log = do
      forM g.files sink.accept
      return {
        passes := g.passReports
        kept := g.files.map sink.keep
        log := log ++ g.passLog sink.verb } := by
  rw [runPasses, foldlM_runPass]
  simp only [Generator.files, Generator.passReports, Generator.passLog, Generator.outcomes,
    Context.outcomes, List.flatMap_map, List.map_map, Function.comp_def, List.nil_append,
    List.append_assoc]

end Sink

/-! ## Previews and runs -/

namespace Generator

variable {m : Type → Type} [Monad m]

/-- Keeps the files, seen from `root`, and does nothing else. -/
def rendering (root : Path) : Sink m GeneratedFile where
  accept _ := return ()
  keep f := { f with path := root.join f.path }
  verb := "Rendered"

/-- Writes the files under `root` and keeps where they are. -/
def creating [Disk m] (root : Path) : Sink m Path where
  accept f := ExceptT.mk do
    match ← Disk.write (root.join f.path) f.content with
    | .error fault => return .error (.write (root.join f.path) fault)
    | .ok () => return .ok ()
  keep f := root.join f.path
  verb := "Created"

/-- A run that puts its report together pass by pass, once the output folder is cleared. -/
def writePassByPass [Disk m] (g : Generator) (output : Path) :
    m (Except RunError WriteReport) := do
  if output.text = "" then
    return .ok (refused "No output directory set")
  else if !(← Disk.isFolder output) then
    return .ok (refused "Output path does not exist.")
  else
    match ← Disk.clear output with
    | .error fault => return .error (.clear output fault)
    | .ok _ => ExceptT.run do
      let root := g.config.outputRoot output
      let p ← (creating root).runPasses g [⟨.info, "Starting Write Process"⟩]
      return {
        status := .completed
        outputRoot := some root
        passes := p.passes
        written := p.kept
        log := p.log ++ [⟨.info, "Finished Write Process"⟩] }

variable [LawfulMonad m]

theorem run_forM_creating [Disk m] (root : Path) (files : List GeneratedFile) :
    (forM files (creating root).accept : ExceptT RunError m Unit).run = writeFiles root files := by
  induction files with
  | nil => rfl
  | cons f rest ih =>
    rw [List.forM_cons, ExceptT.run_bind, ih, writeFiles, creating, ExceptT.run_mk, bind_assoc]
    refine bind_congr fun answer => ?_
    cases answer <;> simp

theorem forM_rendering (root : Path) (files : List GeneratedFile) :
    forM files (rendering root).accept = (return () : ExceptT RunError m Unit) := by
  induction files with
  | nil => rfl
  | cons f rest ih => rw [List.forM_cons, ih, rendering, pure_bind]

/-- **A run can be told pass by pass.** On any disk, writing all files first and reporting the
outcomes afterwards is the same run as reporting every file and every pass when its turn comes. -/
theorem writeTo_eq_writePassByPass [Disk m] (g : Generator) (output : Path) :
    (g.writeTo output : m _) = g.writePassByPass output := by
  unfold writeTo writePassByPass
  split
  · rfl
  · refine bind_congr fun isFolder => ?_
    split
    · rfl
    · refine bind_congr fun cleared => ?_
      cases cleared with
      | error fault => rfl
      | ok removed =>
        simp only [Sink.runPasses_eq, bind_assoc, pure_bind, ExceptT.run_bind, run_forM_creating]
        refine bind_congr fun written => ?_
        cases written <;> rfl

/-- **A preview can be told pass by pass**, and nothing ends it early. -/
theorem preview_eq_runPasses (g : Generator) :
    (rendering (g.config.outputRoot ⟨""⟩)).runPasses g [] = (return {
        passes := g.preview.passes
        kept := g.preview.files
        log := g.preview.log } : ExceptT RunError m _) := by
  rw [Sink.runPasses_eq, forM_rendering, pure_bind]
  rfl

end Generator

end TableForge
