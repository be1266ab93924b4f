import Mathlib.Algebra.GroupWithZero.Nat
import TableForge.Proofs.Check.Prediction
import TableForge.Proofs.Generation.PassEnding
import TableForge.Proofs.Generation.Preview

/-!
# Reports account for every pass

What a run did is told several times over: pass by pass, file by file, in the log, and on the lines
that people read. Each is put together on its own from the outcomes of the passes. Here they are
shown to tell the same. Every pass is reported with the way in which it ended, the files are those of
the completed passes, the log has one entry for every file and one for every pass that rendered
nothing, and a report shows all of this line by line.
-/
namespace TableForge

/-- The number of files that a status tells of. -/
def PassStatus.fileCount : PassStatus → Nat
  | completed files => files
  | _ => 0

/-- A status on one line. -/
def PassStatus.text : PassStatus → String
  | completed files =>
    if 0 < files then "completed (" ++ toString files ++ " files)" else "completed"
  | skipped => "skipped"
  | aborted error => "aborted - " ++ error.message

/-- What the log says about a pass that rendered nothing. -/
def PassReport.stop? (r : PassReport) : Option LogEntry :=
  match r.status with
  | .completed _ => none
  | .skipped =>
    some ⟨.skipped, "No " ++ r.pass.name ++ " template, skipping " ++ r.pass.name ++ " files"⟩
  | .aborted error => some ⟨.aborted, error.message⟩

namespace LogEntry

/-- Whether an entry tells that something happened to a file. -/
def tellsFile (verb : String) (e : LogEntry) : Bool :=
  e.level = .info && (verb ++ " ").toList.isPrefixOf e.message.toList

/-- Whether an entry tells that a pass rendered nothing. -/
def tellsStop (e : LogEntry) : Bool := e.level = .skipped || e.level = .aborted

end LogEntry

/-- What a run of a generator reports: its passes, the number of its files, and its log, in which
`verb` is what happened to the files. -/
structure Generator.Account (g : Generator) (verb : String) (passes : List PassReport)
    (files : Nat) (log : RunLog) : Prop where
  /-- Every pass is reported once, in the order in which they run. -/
  order : passes.map PassReport.pass = [.enumeration, .row, .table, .database, .package]
  statuses : ∀ pass status, ⟨pass, status⟩ ∈ passes ↔ g.context.Ends pass status
  total : (passes.map fun r => r.status.fileCount).sum = files
  /-- There is one entry for every file. -/
  entries : log.countP (·.tellsFile verb) = files
  /-- The skipped and the aborted passes have one entry each, in their order. -/
  stops : log.filter (·.tellsStop) = passes.filterMap PassReport.stop?
  warning : (∃ e ∈ log, e.level = .warning) ↔
    g.config.packageFolders = true ∧ g.config.packagePath.text = ""

/-! ## The log of a pass -/

namespace PassOutcome

theorem fileCount_status (outcome : PassOutcome) :
    outcome.status.fileCount = outcome.files.length := by
  cases outcome <;> rfl

theorem countP_log (verb : String) (pass : PassKind) (outcome : PassOutcome) :
    (outcome.log verb pass).countP (·.tellsFile verb) = outcome.files.length := by
  cases outcome with
  | skipped => rfl
  | aborted error => rfl
  | rendered files =>
    have htells (f : GeneratedFile) : LogEntry.tellsFile verb
        ⟨.info, verb ++ " " ++ pass.label ++ " File - " ++ f.name⟩ = true := by
      simp [LogEntry.tellsFile, List.isPrefixOf_iff_prefix, List.append_assoc]
    simp [log, PassOutcome.files, List.countP_map, Function.comp_def, htells]

theorem filter_log (verb : String) (pass : PassKind) (outcome : PassOutcome) :
    (outcome.log verb pass).filter (·.tellsStop) =
      (PassReport.stop? ⟨pass, outcome.status⟩).toList := by
  cases outcome with
  | skipped => rfl
  | aborted error => rfl
  | rendered files =>
    apply List.filter_eq_nil_iff.mpr
    intro e he
    obtain ⟨f, -, rfl⟩ := List.mem_map.mp he
    simp [LogEntry.tellsStop]

theorem level_ne_warning {verb : String} {pass : PassKind} {outcome : PassOutcome} {e : LogEntry}
    (he : e ∈ outcome.log verb pass) : e.level ≠ .warning := by
  cases outcome with
  | skipped => simp_all [log]
  | aborted error => simp_all [log]
  | rendered files =>
    obtain ⟨f, -, rfl⟩ := List.mem_map.mp he
    simp

end PassOutcome

/-! ## Previews and runs -/

namespace Generator

variable {g : Generator} {verb : String} {passes : List PassReport} {files : Nat} {log : RunLog}

theorem files_length (g : Generator) :
    g.files.length = (g.passReports.map fun r => r.status.fileCount).sum := by
  simp only [Generator.files, passReports, List.length_flatMap, List.map_map, Function.comp_def,
    PassOutcome.fileCount_status]

theorem mem_folderWarning_iff {e : LogEntry} : e ∈ g.folderWarning ↔
    (g.config.packageFolders = true ∧ g.config.packagePath.text = "") ∧
      e = ⟨.warning,
        "Package folders requested but no package string set, writing to output root"⟩ := by
  unfold folderWarning
  split
  · next h => simp [h]
  · next h => simp [h]

theorem mem_passLog_iff {e : LogEntry} : e ∈ g.passLog verb ↔
    e ∈ g.folderWarning ∨ ∃ pass, e ∈ (g.context.outcome pass).log verb pass := by
  simp [passLog, outcomes, Context.outcomes, PassKind.mem_all]

theorem folderWarning_level {e : LogEntry} (he : e ∈ g.folderWarning) : e.level = .warning := by
  rw [(mem_folderWarning_iff.mp he).2]

/-- The passes of a generator and what the log says about them. -/
theorem account_passLog (g : Generator) (verb : String) :
    g.Account verb g.passReports g.files.length (g.passLog verb) where
  order := rfl
  statuses := by
    intro pass status
    rw [mem_passReports_iff, Context.ends_iff, eq_comm]
  total := g.files_length.symm
  entries := by
    have hwarning : g.folderWarning.countP (·.tellsFile verb) = 0 := by
      apply List.countP_eq_zero.mpr
      intro e he
      simp [LogEntry.tellsFile, folderWarning_level he]
    rw [passLog, List.countP_append, hwarning, Nat.zero_add, List.countP_flatMap, files_length]
    simp only [passReports, List.map_map, Function.comp_def, PassOutcome.countP_log,
      PassOutcome.fileCount_status]
  stops := by
    have hwarning : g.folderWarning.filter (·.tellsStop) = [] := by
      apply List.filter_eq_nil_iff.mpr
      intro e he
      simp [LogEntry.tellsStop, folderWarning_level he]
    rw [passLog, List.filter_append, hwarning, List.nil_append, List.filter_flatMap,
      List.filterMap_eq_flatMap_toList, passReports, List.flatMap_map]
    simp only [PassOutcome.filter_log]
  warning := by
    constructor
    · rintro ⟨e, he, hlevel⟩
      rcases mem_passLog_iff.mp he with he | ⟨pass, he⟩
      · exact (mem_folderWarning_iff.mp he).1
      · exact absurd hlevel (PassOutcome.level_ne_warning he)
    · intro h
      exact ⟨_, mem_passLog_iff.mpr (.inl (mem_folderWarning_iff.mpr ⟨h, rfl⟩)), rfl⟩

/-- Entries about neither files nor passes leave the account as it is. -/
theorem Account.surrounded (h : g.Account verb passes files log) {before after : RunLog}
    (hplain : ∀ e ∈ before ++ after, e.level = .info ∧ e.tellsFile verb = false) :
    g.Account verb passes files (before ++ log ++ after) where
  order := h.order
  statuses := h.statuses
  total := h.total
  entries := by
    have hzero : ∀ l ⊆ before ++ after, l.countP (·.tellsFile verb) = 0 := by
      intro l hl
      apply List.countP_eq_zero.mpr
      intro e he
      simp [(hplain e (hl he)).2]
    rw [List.countP_append, List.countP_append, hzero before (List.subset_append_left _ _),
      hzero after (List.subset_append_right _ _), h.entries, Nat.zero_add, Nat.add_zero]
  stops := by
    have hnil : ∀ l ⊆ before ++ after, l.filter (·.tellsStop) = [] := by
      intro l hl
      apply List.filter_eq_nil_iff.mpr
      intro e he
      simp [LogEntry.tellsStop, (hplain e (hl he)).1]
    rw [List.filter_append, List.filter_append, hnil before (List.subset_append_left _ _),
      hnil after (List.subset_append_right _ _), h.stops, List.nil_append, List.append_nil]
  warning := by
    rw [← h.warning]
    constructor
    · rintro ⟨e, he, hlevel⟩
      by_cases hlog : e ∈ log
      · exact ⟨e, hlog, hlevel⟩
      · have hrest : e ∈ before ++ after := by simpa [hlog] using he
        rw [(hplain e hrest).1] at hlevel
        cases hlevel
    · rintro ⟨e, he, hlevel⟩
      exact ⟨e, List.mem_append_left _ (List.mem_append_right _ he), hlevel⟩

theorem account_preview (g : Generator) :
    g.Account "Rendered" g.preview.passes g.preview.files.length g.preview.log := by
  have hfiles : g.preview.files.length = g.files.length := List.length_map _
  rw [hfiles]
  exact g.account_passLog "Rendered"

theorem account_completed (g : Generator) (root : Path) :
    g.Account "Created" (g.completed root).passes (g.completed root).written.length
      (g.completed root).log := by
  have hfiles : (g.completed root).written.length = g.files.length := List.length_map _
  rw [hfiles]
  exact (g.account_passLog "Created").surrounded (by decide)

end Generator

/-! ## Reports for people -/

namespace OutputLine

/-- The key and the value of a line that has them. -/
def keyValue? : OutputLine → Option (String × String)
  | keyValueIndented key value => some (key, value)
  | _ => none

def warning? : OutputLine → Option String
  | warning text => some text
  | _ => none

/-- The file that a line stands for, one that was written or one that would be. -/
def file? : OutputLine → Option String
  | addedItem text => some text
  | divider label => some label
  | _ => none

end OutputLine

namespace GenerationResult

/-- What happened to the files of a result, unless the run could not begin. -/
def verb? : GenerationResult → Option String
  | preview _ => some "Rendered"
  | written .completed (some _) _ => some "Created"
  | written .. => none

def fileCount : GenerationResult → Nat
  | preview files => files.length
  | written _ _ files => files.length

theorem verb?_eq_some_iff {result : GenerationResult} {verb : String} :
    result.verb? = some verb ↔
      (∃ files, result = .preview files ∧ verb = "Rendered") ∨
        ∃ root files, result = .written .completed (some root) files ∧ verb = "Created" := by
  constructor
  · intro h
    rcases result with ⟨_ | _, _ | root, files⟩ | files
    · cases h
    · exact .inr ⟨root, files, rfl, (Option.some.inj h).symm⟩
    · cases h
    · cases h
    · exact .inl ⟨files, rfl, (Option.some.inj h).symm⟩
  · rintro (⟨files, rfl, rfl⟩ | ⟨root, files, rfl, rfl⟩) <;> rfl

end GenerationResult

/-- What a report of a run tells, and shows on its lines. -/
structure GenerateReport.Accounts (r : GenerateReport) (g : Generator) (verb : String)
    (passes : List PassReport) (clock : Clock) : Prop where
  passes_eq : r.passes = passes.map .ofReport
  account : g.Account verb passes r.result.fileCount r.log
  success : r.isSuccess = true ↔ ∀ pass error, ¬ g.context.Ends pass (.aborted error)
  /-- There is one line for every pass. -/
  passLines : (r.lines clock).filterMap OutputLine.keyValue? =
    passes.map fun p => (p.pass.name, p.status.text)
  /-- There is one line for every file. -/
  fileLines : ((r.lines clock).filterMap OutputLine.file?).length = r.result.fileCount
  /-- The number of files that were written stands above them. -/
  heading : ∀ status root files, r.result = .written status (some root) files →
    .section_ ("Wrote " ++ toString r.result.fileCount ++ " files to " ++ root.text) ∈ r.lines clock
  /-- There is one warning for every entry about a warning or an aborted pass. -/
  warnings : (r.lines clock).filterMap OutputLine.warning? =
    (r.log.filter fun e => e.level = .warning || e.level = .aborted).map fun e =>
      "[" ++ clock.time ++ "] " ++ e.text

namespace PassSummary

variable (p : PassReport)

theorem text_ofReport : (ofReport p).text = p.status.text := by
  obtain ⟨pass, status⟩ := p
  cases status <;> rfl

theorem pass_ofReport : (ofReport p).pass = p.pass := by
  obtain ⟨pass, status⟩ := p
  cases status <;> rfl

end PassSummary

namespace GenerateReport

variable {r : GenerateReport} {passes : List PassReport} {clock : Clock} {verb : String}

/-- A report of a run that began is a success if none of its passes was aborted. -/
theorem isSuccess_iff (hverb : r.result.verb? = some verb)
    (hpasses : r.passes = passes.map .ofReport) :
    r.isSuccess = true ↔ ∀ pass error, ⟨pass, .aborted error⟩ ∉ passes := by
  have hpreview := Generator.isSuccess_ofPreview_iff r.templateName
    { passes, files := [], log := r.log }
  rcases GenerationResult.verb?_eq_some_iff.mp hverb with ⟨files, hresult, -⟩ |
    ⟨root, files, hresult, -⟩
  · rw [← hpreview, isSuccess, hresult, hpasses]
    rfl
  · rw [← hpreview, isSuccess, hresult, hpasses]
    rfl

theorem lines_eq (hpasses : r.passes ≠ []) :
    r.lines clock = r.log.map (logLine clock) ++ (r.passLines ++ r.resultLines) := by
  rw [lines, if_neg (by simpa using hpasses)]

/-! What the parts of a report have of each kind of lines. -/

theorem keyValue?_logLine (e : LogEntry) : (logLine clock e).keyValue? = none := by
  obtain ⟨level, message⟩ := e
  cases level <;> rfl

theorem file?_logLine (e : LogEntry) : (logLine clock e).file? = none := by
  obtain ⟨level, message⟩ := e
  cases level <;> rfl

theorem warning?_logLine (e : LogEntry) : (logLine clock e).warning? =
    if e.level = .warning || e.level = .aborted then some ("[" ++ clock.time ++ "] " ++ e.text)
    else none := by
  obtain ⟨level, message⟩ := e
  cases level <;> rfl

theorem keyValue?_passLines (hpasses : r.passes = passes.map .ofReport) :
    r.passLines.filterMap OutputLine.keyValue? =
      passes.map fun p => (p.pass.name, p.status.text) := by
  simp [GenerateReport.passLines, OutputLine.keyValue?, hpasses, Function.comp_def,
    PassSummary.text_ofReport, PassSummary.pass_ofReport, List.filterMap_cons]

theorem file?_passLines (r : GenerateReport) : r.passLines.filterMap OutputLine.file? = [] := by
  simp [GenerateReport.passLines, OutputLine.file?]

theorem warning?_passLines (r : GenerateReport) :
    r.passLines.filterMap OutputLine.warning? = [] := by
  simp [GenerateReport.passLines, OutputLine.warning?]

theorem keyValue?_resultLines (r : GenerateReport) :
    r.resultLines.filterMap OutputLine.keyValue? = [] := by
  unfold resultLines
  split <;> simp [OutputLine.keyValue?, List.filterMap_flatMap]

theorem warning?_resultLines (r : GenerateReport) :
    r.resultLines.filterMap OutputLine.warning? = [] := by
  unfold resultLines
  split <;> simp [OutputLine.warning?, List.filterMap_flatMap]

theorem length_file?_resultLines (hverb : r.result.verb? = some verb) :
    (r.resultLines.filterMap OutputLine.file?).length = r.result.fileCount := by
  rcases GenerationResult.verb?_eq_some_iff.mp hverb with ⟨files, hresult, -⟩ |
    ⟨root, files, hresult, -⟩
  · simp [resultLines, hresult, OutputLine.file?, GenerationResult.fileCount,
      List.filterMap_flatMap, List.filterMap_cons]
  · simp [resultLines, hresult, OutputLine.file?, GenerationResult.fileCount, List.filterMap_cons]

theorem accounts_of_account {g : Generator} (hverb : r.result.verb? = some verb)
    (hpasses : r.passes = passes.map .ofReport)
    (haccount : g.Account verb passes r.result.fileCount r.log) (clock : Clock) :
    r.Accounts g verb passes clock := by
  have hne : r.passes ≠ [] := by
    rw [hpasses]
    intro hnil
    have horder := haccount.order
    rw [List.map_eq_nil_iff.mp hnil] at horder
    cases horder
  refine ⟨hpasses, haccount, ?_, ?_, ?_, ?_, ?_⟩
  · rw [isSuccess_iff hverb hpasses]
    simp only [haccount.statuses]
  · rw [lines_eq hne, List.filterMap_append, List.filterMap_append, List.filterMap_map,
      keyValue?_passLines hpasses, keyValue?_resultLines]
    simp [keyValue?_logLine]
  · rw [lines_eq hne, List.filterMap_append, List.filterMap_append, List.filterMap_map,
      file?_passLines, List.nil_append, List.length_append, length_file?_resultLines hverb]
    simp [file?_logLine]
  · intro status root files hresult
    rw [lines_eq hne]
    simp [resultLines, hresult, GenerationResult.fileCount]
  · rw [lines_eq hne, List.filterMap_append, List.filterMap_append, List.filterMap_map,
      warning?_passLines, warning?_resultLines, List.append_nil, List.append_nil]
    simp only [Function.comp_def, warning?_logLine]
    rw [← List.filterMap_eq_map, List.filterMap_filter]
    rfl

/-- A report is made of a preview or of the report of a run. -/
theorem exists_of_generate {σ : Type} [Disk (StateM σ)] {dataset : Dataset}
    {package : TemplatePackage} {opts : GenerateOptions} {s s' : σ}
    (h : (generate dataset package opts : StateM σ _) s = (.ok r, s')) :
    (opts.dryRun = true ∧
      r = ofPreview package.manifest.info.name (opts.generator dataset package).preview) ∨
    ∃ output report, opts.dryRun = false ∧
      ((opts.generator dataset package).writeTo output : StateM σ _) s = (.ok report, s') ∧
      r = ofWritten package.manifest.info.name report := by
  cases hdry : opts.dryRun with
  | true =>
    rw [generate_dryRun hdry] at h
    cases h
    exact .inl ⟨rfl, rfl⟩
  | false =>
    simp only [generate, hdry, Bool.false_eq_true, if_false] at h
    cases houtput : opts.output with
    | none =>
      rw [houtput] at h
      cases h
    | some output =>
      simp only [houtput, Generator.bind_apply] at h
      rcases hrun : ((opts.generator dataset package).writeTo output : StateM σ _) s with
        ⟨cause | report, s₁⟩
      · rw [hrun] at h
        cases h
      · rw [hrun] at h
        cases h
        exact .inr ⟨output, report, rfl, hrun, rfl⟩

end GenerateReport

namespace Generator

variable {g : Generator} {σ : Type} [Disk (StateM σ)] {s s' : σ}

theorem account_writeTo {output : Path} {report : WriteReport}
    (h : (g.writeTo output : StateM σ _) s = (.ok report, s')) (hc : report.status = .completed) :
    g.Account "Created" report.passes report.written.length report.log := by
  obtain ⟨-, rfl, -⟩ := writeTo_completed h hc
  exact g.account_completed _

/-- A run that is not completed tells of no pass. -/
theorem writeTo_aborted {output : Path} {report : WriteReport}
    (h : (g.writeTo output : StateM σ _) s = (.ok report, s')) (hc : report.status ≠ .completed) :
    report.passes = [] ∧ report.status = .aborted ∧ report.outputRoot = none := by
  obtain ⟨requests, -, hending⟩ := ending_of_writeTo h
  cases hending with
  | pathless => exact ⟨rfl, rfl, rfl⟩
  | notFolder => exact ⟨rfl, rfl, rfl⟩
  | completed => exact absurd rfl hc

/-- What generating reports is an account of its generator, or tells that the run did not begin. -/
theorem accounts_of_generate {dataset : Dataset} {package : TemplatePackage}
    {opts : GenerateOptions} {r : GenerateReport}
    (h : (generate dataset package opts : StateM σ _) s = (.ok r, s')) :
    (∀ verb, r.result.verb? = some verb → ∀ clock,
      r.Accounts (opts.generator dataset package) verb
        (opts.generator dataset package).passReports clock) ∧
    (r.result.verb? = none → r.passes = [] ∧ r.isSuccess = false) := by
  rcases GenerateReport.exists_of_generate h with ⟨-, rfl⟩ | ⟨output, report, -, hrun, rfl⟩
  · refine ⟨?_, fun hnone => by cases hnone⟩
    intro verb hverb clock
    obtain rfl := Option.some.inj hverb
    exact GenerateReport.accounts_of_account rfl rfl (account_preview _) clock
  · by_cases hc : report.status = .completed
    · obtain ⟨-, hreport, -⟩ := writeTo_completed hrun hc
      have haccount := account_writeTo hrun hc
      subst hreport
      refine ⟨?_, fun hnone => by cases hnone⟩
      intro verb hverb clock
      obtain rfl := Option.some.inj hverb
      exact GenerateReport.accounts_of_account rfl rfl haccount clock
    · obtain ⟨hpasses, hstatus, hroot⟩ := writeTo_aborted hrun hc
      have hnone : (GenerateReport.ofWritten package.manifest.info.name report).result.verb? =
          none := by
        simp only [GenerateReport.ofWritten, hstatus, hroot]
        rfl
      refine ⟨fun verb hverb => ?_, fun _ => ⟨?_, ?_⟩⟩
      · rw [hnone] at hverb
        cases hverb
      · simp only [GenerateReport.ofWritten, hpasses, List.map_nil]
      · simp only [GenerateReport.isSuccess, GenerateReport.ofWritten, hstatus]
        rfl

/-- **Reports are complete and agree.** The report of a preview and that of a completed run, on any
disk, tell of all five passes in their order, each with the way in which it ended; the number of files
is the sum of those of the completed passes and that of the entries about files; the entries about
skipped and aborted passes are those of these passes in their order; and there is a warning exactly if
the package name is to be laid out as folders and gives none. What generating reports is such an
account too, and its lines show it: one for every pass and for every file, and one warning for every
entry about a warning or an aborted pass. It is a success exactly if no pass was aborted, unless the
run could not begin, of which it tells with no pass and no success. -/
theorem reports_account_for_passes (g : Generator) :
    g.Account "Rendered" g.preview.passes g.preview.files.length g.preview.log ∧
    (∀ (σ : Type) [Disk (StateM σ)] (output : Path) (s s' : σ) (report : WriteReport),
      (g.writeTo output : StateM σ _) s = (.ok report, s') → report.status = .completed →
        g.Account "Created" report.passes report.written.length report.log) ∧
    ∀ (σ : Type) [Disk (StateM σ)] (dataset : Dataset) (package : TemplatePackage)
      (opts : GenerateOptions) (s s' : σ) (r : GenerateReport),
      opts.generator dataset package = g →
      (generate dataset package opts : StateM σ _) s = (.ok r, s') →
        (∀ verb, r.result.verb? = some verb → ∀ clock, r.Accounts g verb g.passReports clock) ∧
        (r.result.verb? = none → r.passes = [] ∧ r.isSuccess = false) := by
  refine ⟨g.account_preview, ?_, ?_⟩
  · intro σ _ output s s' report hrun hc
    exact account_writeTo hrun hc
  · intro σ _ dataset package opts s s' r hg hrun
    rw [← hg]
    exact accounts_of_generate hrun

/-- A table with a lookup field that refers to nothing. -/
def looseDataset : Dataset where
  package := none
  tables := [{ name := "item", fields := [⟨"kind", "lookup", none⟩], rows := [] }]

/-- A package without a database template and without a fragment for constants. -/
def loosePackage : TemplatePackage where
  dir := ⟨"pkg"⟩
  manifest := {
    info := { name := some "loose" }
    options := { folders := true }
    fragments := {
      classVariable := some "{name}"
      classProperty := some "{name}"
      localAssignment := some "{name}"
      parameter := some "{name}"
      newClassInstance := some "{name}"
      localVariable := some "{name}" } }
  templates := {
    enumeration := some ⟨⟨"Enum.txt"⟩, ""⟩
    row := some ⟨⟨"Row.txt"⟩, ""⟩
    table := some ⟨⟨"Table.txt"⟩, "TABLE_NAME"⟩
    packageFiles := [⟨⟨"Readme.txt"⟩, ""⟩] }

/-- Passes that end in every way, and what is shown of them. -/
theorem reports_account_for_passes_loose :
    ∃ r tree g, GenerateOptions.generator { output := some ⟨"out"⟩ } looseDataset loosePackage = g ∧
      (generate looseDataset loosePackage { output := some ⟨"out"⟩ } : StateM FileTree _) staleTree =
        (.ok r, tree) ∧
      g.context.Ends .enumeration (.aborted (.missingFragment .enumeration .constant)) ∧
      g.context.Ends .row (.aborted (.missingLookupTarget .row "item" "kind")) ∧
      g.context.Ends .table (.completed 1) ∧ g.context.Ends .database .skipped ∧
      r.result.fileCount = 2 ∧ r.isSuccess = false ∧
      (r.lines ⟨"12:00", ""⟩).filterMap OutputLine.keyValue? =
        [("enumeration",
            "aborted - No constant fragment available to write enumeration template."),
          ("row", "aborted - Lookup field 'item.kind' has no lookup target, "
            ++ "cannot write row template."),
          ("table", "completed (1 files)"), ("database", "skipped"),
          ("package", "completed (1 files)")] := by
  obtain ⟨g, hg⟩ : ∃ g, g =
    GenerateOptions.generator { output := some ⟨"out"⟩ } looseDataset loosePackage := ⟨_, rfl⟩
  have hresult : ((generate looseDataset loosePackage { output := some ⟨"out"⟩ } :
      StateM FileTree _) staleTree).1 = .ok (.ofWritten (some "loose") (g.completed ⟨"out/"⟩)) := by
    rw [hg]
    decide +kernel
  obtain ⟨tree, hrun⟩ := exists_state hresult
  obtain ⟨-, -, hgenerate⟩ := reports_account_for_passes g
  have h := (hgenerate _ _ _ _ _ _ _ hg.symm hrun).1 "Created" rfl ⟨"12:00", ""⟩
  have hends := h.account.statuses
  subst hg
  refine ⟨_, tree, _, rfl, hrun, ?_, ?_, ?_, ?_, ?_, ?_, ?_⟩
  · exact (hends _ _).mp (by decide +kernel)
  · exact (hends _ _).mp (by decide +kernel)
  · exact (hends _ _).mp (by decide +kernel)
  · exact (hends _ _).mp (by decide +kernel)
  · decide +kernel
  · decide +kernel
  · rw [h.passLines]
    decide +kernel

end Generator

end TableForge
