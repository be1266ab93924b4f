import TableForge.Proofs.CommandLine.DryRun
import TableForge.Proofs.Generation.Abort

/-!
# A check predicts what a dry run aborts

The errors of a check are the findings of one lint, which lists the fragments that the template of
each pass lacks. A pass over a well-formed dataset stops for nothing but the first of these. So a
check is passed exactly if a dry run is a success, and for each pass the first error about it names
the fragment for which the pass is aborted. Both sides read the templates and the renderer on their
own; nothing of what they share is assumed.
-/
namespace TableForge

/-- How an error about a pass begins. -/
def PassKind.need (pass : PassKind) : String := pass.name ++ " template needs a "

namespace Diagnostic

/-- Whether a diagnostic is an error about a pass: it says what the template of the pass needs. -/
def isAbout (pass : PassKind) (d : Diagnostic) : Bool :=
  d.severity = .error && decide (pass.need.toList <+: d.message.toList)

theorem ofSeverity_append (severity : Severity) (a b : List Diagnostic) :
    ofSeverity severity (a ++ b) = ofSeverity severity a ++ ofSeverity severity b :=
  List.filter_append a b

theorem ofSeverity_ofSeverity (severity other : Severity) (found : List Diagnostic) :
    ofSeverity severity (ofSeverity other found) =
      if severity = other then ofSeverity severity found else [] := by
  simp only [ofSeverity, List.filter_filter]
  split
  · next h => simp [h]
  · next h =>
    apply List.filter_eq_nil_iff.mpr
    rintro d -
    simp only [Bool.and_eq_true, decide_eq_true_eq, not_and]
    exact fun hd hother => h (hd.symm.trans hother)

theorem errors_sortBySeverity (found : List Diagnostic) :
    ofSeverity .error (sortBySeverity found) = ofSeverity .error found := by
  simp [sortBySeverity, ofSeverity_append, ofSeverity_ofSeverity]

theorem find?_isAbout_errors (pass : PassKind) (found : List Diagnostic) :
    (ofSeverity .error found).find? (isAbout pass) = found.find? (isAbout pass) := by
  rw [ofSeverity, List.find?_filter]
  congr 1
  funext d
  simp [isAbout]

end Diagnostic

namespace Lint

/-- The error about a fragment that the template of a pass needs. -/
def abortDiagnostic (pass : PassKind) (fragment : FragmentKind) : Diagnostic where
  severity := .error
  lint := "missing-fragment"
  message := pass.name ++ " template needs a " ++ fragment.label ++ " fragment; the "
    ++ pass.name ++ " pass will abort"
  location := some ("fragments." ++ fragment.key)

theorem missingFragment_check (input : CheckInput) :
    missingFragment.check input =
      PassKind.all.flatMap fun pass => (missingFragments input pass).map (abortDiagnostic pass) :=
  rfl

theorem name_head_injective {a b : PassKind} (h : a.name.toList.head? = b.name.toList.head?) :
    a = b := by
  cases a <;> cases b <;> first | rfl | exact absurd h (by decide)

/-- The error about a fragment is about the pass whose template needs it and about no other. -/
theorem isAbout_abortDiagnostic (pass other : PassKind) (fragment : FragmentKind) :
    (abortDiagnostic pass fragment).isAbout other = decide (pass = other) := by
  have hmessage : (abortDiagnostic pass fragment).message.toList = pass.need.toList ++
      (fragment.label ++ " fragment; the " ++ pass.name ++ " pass will abort").toList := by
    simp [abortDiagnostic, PassKind.need]
  have hhead (k : PassKind) (rest : List Char) :
      (k.need.toList ++ rest).head? = k.name.toList.head? := by
    cases k <;> rfl
  by_cases h : pass = other
  · have hpre : pass.need.toList <+: (abortDiagnostic pass fragment).message.toList :=
      hmessage ▸ List.prefix_append _ _
    rw [Diagnostic.isAbout, ← h, decide_eq_true hpre]
    simp [abortDiagnostic]
  · have hnot : ¬ other.need.toList <+: (abortDiagnostic pass fragment).message.toList := by
      rintro ⟨rest, hrest⟩
      apply h
      apply name_head_injective
      rw [← hhead pass, ← hmessage, ← hrest, hhead other]
    rw [Diagnostic.isAbout, decide_eq_false hnot, Bool.and_false, decide_eq_false h]

/-- Only one lint finds errors. -/
theorem errors_of_other_lints (input : CheckInput) :
    Diagnostic.ofSeverity .error (duplicateRowId.check input) = [] ∧
    Diagnostic.ofSeverity .error (enumName.check input) = [] ∧
    Diagnostic.ofSeverity .error (unmappedType.check input) = [] := by
  refine ⟨?_, ?_, ?_⟩
  · apply List.filter_eq_nil_iff.mpr
    intro d hd
    obtain ⟨table, -, hd⟩ := List.mem_flatMap.mp hd
    obtain ⟨id, -, rfl⟩ := List.mem_map.mp hd
    simp
  · apply List.filter_eq_nil_iff.mpr
    intro d hd
    simp only [enumName] at hd
    split at hd
    · cases hd
    · obtain ⟨table, -, rfl⟩ := List.mem_map.mp hd
      simp
  · apply List.filter_eq_nil_iff.mpr
    intro d hd
    obtain ⟨f, -, rfl⟩ := List.mem_map.mp hd
    simp

theorem errors_diagnostics (input : CheckInput) :
    Diagnostic.ofSeverity .error input.diagnostics =
      PassKind.all.flatMap fun pass => (missingFragments input pass).map (abortDiagnostic pass) := by
  obtain ⟨hrepeat, hname, htype⟩ := errors_of_other_lints input
  have hmissing : Diagnostic.ofSeverity .error (missingFragment.check input) =
      missingFragment.check input := by
    apply List.filter_eq_self.mpr
    intro d hd
    obtain ⟨pass, -, hd⟩ := List.mem_flatMap.mp hd
    obtain ⟨fragment, -, rfl⟩ := List.mem_map.mp hd
    rfl
  rw [CheckInput.diagnostics, Diagnostic.errors_sortBySeverity, ← missingFragment_check]
  simp only [all, List.flatMap_cons, List.flatMap_nil, List.append_nil,
    Diagnostic.ofSeverity_append, hrepeat, hname, htype, hmissing]

/-- Among the errors about some passes, the first about a given one is that of the first fragment
that its template lacks. -/
theorem find?_isAbout_flatMap (missing : PassKind → List FragmentKind) (pass : PassKind)
    (passes : List PassKind) :
    (passes.flatMap fun p => (missing p).map (abortDiagnostic p)).find? (Diagnostic.isAbout pass) =
      if pass ∈ passes then (missing pass).head?.map (abortDiagnostic pass) else none := by
  induction passes with
  | nil => rfl
  | cons p rest ih =>
    rw [List.flatMap_cons, List.find?_append, ih]
    by_cases h : p = pass
    · subst h
      cases hm : missing p with
      | nil => simp
      | cons fragment more => simp [isAbout_abortDiagnostic]
    · have hnone : ((missing p).map (abortDiagnostic p)).find? (Diagnostic.isAbout pass) = none := by
        simp [List.find?_eq_none, isAbout_abortDiagnostic, h]
      rw [hnone]
      simp [List.mem_cons, Ne.symm h]

theorem find?_isAbout_diagnostics (input : CheckInput) (pass : PassKind) :
    input.diagnostics.find? (Diagnostic.isAbout pass) =
      (missingFragments input pass).head?.map (abortDiagnostic pass) := by
  have hall : pass ∈ PassKind.all := by cases pass <;> decide
  rw [← Diagnostic.find?_isAbout_errors, errors_diagnostics, find?_isAbout_flatMap, if_pos hall]

end Lint

/-! ## Reports -/

/-- What the findings of a check tell about the passes of a preview. -/
structure Predicts (found : List Diagnostic) (preview : Preview) : Prop where
  /-- Every error is about some pass. -/
  about : ∀ d ∈ found, d.severity = .error → ∃ pass, d.isAbout pass = true
  /-- There are errors about the passes that are aborted, and about no other. -/
  aborted : ∀ pass, (∃ d ∈ found, d.isAbout pass = true) ↔
    ∃ error, ⟨pass, .aborted error⟩ ∈ preview.passes
  /-- A pass is aborted for the fragment that the first error about it points at. -/
  first : ∀ pass error, ⟨pass, .aborted error⟩ ∈ preview.passes →
    ∃ d fragment, found.find? (Diagnostic.isAbout pass) = some d ∧
      d.location = some ("fragments." ++ fragment.key) ∧ error = .missingFragment pass fragment

namespace Generator

variable {g : Generator}

theorem aborted_mem_preview_iff (h : g.dataset.WellFormed) {pass : PassKind} {error : PassError} :
    ⟨pass, .aborted error⟩ ∈ g.preview.passes ↔
      ∃ fragment, (Lint.missingFragments g.checkInput pass).head? = some fragment ∧
        error = .missingFragment pass fragment := by
  have hpasses : g.preview.passes = g.passReports := rfl
  rw [hpasses, aborted_mem_passReports_iff, outcome_eq_aborted_iff h]

theorem predicts_preview (h : g.dataset.WellFormed) :
    Predicts g.checkInput.diagnostics g.preview where
  about := by
    intro d hd hsev
    have herr : d ∈ Diagnostic.ofSeverity .error g.checkInput.diagnostics :=
      List.mem_filter.mpr ⟨hd, by simpa using hsev⟩
    rw [Lint.errors_diagnostics] at herr
    obtain ⟨pass, -, hd⟩ := List.mem_flatMap.mp herr
    obtain ⟨fragment, -, rfl⟩ := List.mem_map.mp hd
    exact ⟨pass, by simp [Lint.isAbout_abortDiagnostic]⟩
  aborted := by
    intro pass
    have hfound : (∃ d ∈ g.checkInput.diagnostics, d.isAbout pass = true) ↔
        (g.checkInput.diagnostics.find? (Diagnostic.isAbout pass)).isSome = true := by
      simp [List.find?_isSome]
    rw [hfound, Lint.find?_isAbout_diagnostics, Option.isSome_map, Option.isSome_iff_exists]
    constructor
    · rintro ⟨fragment, hf⟩
      exact ⟨_, (aborted_mem_preview_iff h).mpr ⟨fragment, hf, rfl⟩⟩
    · rintro ⟨error, he⟩
      obtain ⟨fragment, hf, -⟩ := (aborted_mem_preview_iff h).mp he
      exact ⟨fragment, hf⟩
  first := by
    intro pass error he
    obtain ⟨fragment, hf, herror⟩ := (aborted_mem_preview_iff h).mp he
    refine ⟨Lint.abortDiagnostic pass fragment, fragment, ?_, rfl, herror⟩
    rw [Lint.find?_isAbout_diagnostics, hf]
    rfl

theorem isSuccess_ofPreview_iff (name : Option String) (p : Preview) :
    (GenerateReport.ofPreview name p).isSuccess = true ↔
      ∀ pass error, ⟨pass, .aborted error⟩ ∉ p.passes := by
  simp only [GenerateReport.isSuccess, GenerateReport.ofPreview, Bool.true_and, List.all_map,
    List.all_eq_true, Function.comp_apply]
  constructor
  · intro h pass error hmem
    have hnone := h _ hmem
    simp [PassSummary.ofReport] at hnone
  · rintro h ⟨pass, status⟩ hmem
    cases status with
    | completed files => rfl
    | skipped => rfl
    | aborted error => exact absurd hmem (h pass error)

theorem errors_eq_nil_iff (h : g.dataset.WellFormed) :
    Diagnostic.ofSeverity .error g.checkInput.diagnostics = [] ↔
      ∀ pass error, ⟨pass, .aborted error⟩ ∉ g.preview.passes := by
  have hpredicts := predicts_preview h
  constructor
  · intro hnil pass error hmem
    obtain ⟨d, hd, habout⟩ := (hpredicts.aborted pass).mpr ⟨error, hmem⟩
    have hsev : d.severity = .error := by
      simp only [Diagnostic.isAbout, Bool.and_eq_true, decide_eq_true_eq] at habout
      exact habout.1
    have herr : d ∈ Diagnostic.ofSeverity .error g.checkInput.diagnostics :=
      List.mem_filter.mpr ⟨hd, by simpa using hsev⟩
    rw [hnil] at herr
    cases herr
  · intro hnone
    apply List.filter_eq_nil_iff.mpr
    intro d hd hsev
    obtain ⟨pass, hpass⟩ := hpredicts.about d hd (by simpa using hsev)
    obtain ⟨error, he⟩ := (hpredicts.aborted pass).mp ⟨d, hd, hpass⟩
    exact hnone pass error he

end Generator

/-- What a dry run asks for leaves its templates and its renderer as they are. -/
theorem GenerateOptions.checkInput_generator (opts : GenerateOptions) (dataset : Dataset)
    (package : TemplatePackage) :
    (opts.generator dataset package).checkInput = (package.generator dataset).checkInput := by
  unfold GenerateOptions.generator
  cases opts.package <;> rfl

theorem GenerateOptions.dataset_generator (opts : GenerateOptions) (dataset : Dataset)
    (package : TemplatePackage) : (opts.generator dataset package).dataset = dataset := by
  unfold GenerateOptions.generator
  cases opts.package <;> rfl

/-- A check of a well-formed dataset is passed exactly if a dry run is a success. -/
theorem isValid_check_iff {dataset : Dataset} (h : dataset.WellFormed) (package : TemplatePackage)
    (path : Path) (opts : GenerateOptions) (name : Option String) :
    (check dataset package path).isValid = true ↔
      (GenerateReport.ofPreview name (opts.generator dataset package).preview).isSuccess = true := by
  have hwell : (opts.generator dataset package).dataset.WellFormed := by
    rw [opts.dataset_generator]
    exact h
  rw [Generator.isSuccess_ofPreview_iff, ← Generator.errors_eq_nil_iff hwell,
    opts.checkInput_generator]
  simp [CheckReport.isValid, check]

/-! ## Command lines -/

section Disk

variable {σ : Type} [Disk (StateM σ)]

theorem generate_dryRun {opts : GenerateOptions} (h : opts.dryRun = true) (dataset : Dataset)
    (package : TemplatePackage) (s : σ) :
    (generate dataset package opts : StateM σ _) s =
      (.ok (.ofPreview package.manifest.info.name (opts.generator dataset package).preview), s) := by
  simp only [generate, h, if_true]
  rfl

theorem Dataset.ofSource_of_load {path : Path} {dataset : Dataset} {s s' : σ}
    (h : (Dataset.load path : StateM σ _) s = (.ok dataset, s')) :
    ∃ source, Dataset.ofSource source = .ok dataset := by
  rw [Dataset.load, Generator.bind_apply] at h
  rcases hr : (Disk.readText path : StateM σ _) s with ⟨_ | text, s₁⟩
  · rw [hr] at h
    cases h
  · rw [hr] at h
    exact ⟨{ text, fileName := path.text }, (Prod.ext_iff.mp h).1⟩

namespace CommandLine

theorem wellFormed_of_loadInputs {inputs : Inputs} {dataset : Dataset} {package : TemplatePackage}
    {s s' : σ} (h : (loadInputs inputs : StateM σ _) s = (.ok (dataset, package), s')) :
    dataset.WellFormed := by
  rw [loadInputs, Generator.bind_apply] at h
  rcases hd : (Dataset.load inputs.dataset : StateM σ _) s with ⟨_ | loaded, s₁⟩
  · rw [hd] at h
    cases h
  · simp only [hd, Generator.bind_apply] at h
    rcases hp : (TemplatePackage.load inputs.templates : StateM σ _) s₁ with ⟨_ | p, s₂⟩
    · rw [hp] at h
      cases h
    · rw [hp] at h
      cases h
      obtain ⟨source, hsource⟩ := Dataset.ofSource_of_load hd
      exact Dataset.wellFormed_of_ofSource hsource

/-- On the same inputs a check and a dry run end with the same success. -/
theorem executeCommand_code_iff (clock : Clock) (inputs : Inputs) {opts : GenerateOptions}
    (h : opts.dryRun = true) (s : σ) :
    ((executeCommand clock (.check inputs) : StateM σ _) s).1.code = 0 ↔
      ((executeCommand clock (.generate inputs opts) : StateM σ _) s).1.code = 0 := by
  simp only [executeCommand, Generator.bind_apply]
  rcases hl : (loadInputs inputs : StateM σ _) s with ⟨_ | ⟨dataset, package⟩, s₁⟩
  · exact Iff.rfl
  · have hvalid := isValid_check_iff (wellFormed_of_loadInputs hl) package inputs.dataset opts
      package.manifest.info.name
    have hcode (ok : Bool) (printed : Printed) : (reported ok printed).code = 0 ↔ ok = true := by
      cases ok <;> simp [reported]
    simp only [Generator.bind_apply, generate_dryRun h]
    exact (hcode _ _).trans (hvalid.trans (hcode _ _).symm)

theorem execute_code_iff (clock : Clock) (dataset templates : Option String) (s : σ) :
    ((execute clock ("check" :: inputArguments dataset templates) : StateM σ _) s).1.code = 0 ↔
      ((execute clock ("generate" :: "--dry-run" :: inputArguments dataset templates) :
        StateM σ _) s).1.code = 0 := by
  simp only [execute, read_check, read_dryRun]
  cases readArguments checkGrammar (inputArguments dataset templates) with
  | error stop => cases stop <;> exact Iff.rfl
  | ok g => exact executeCommand_code_iff clock (inputs g) g.has_dryRun_dry s

end CommandLine

variable (σ) in
/-- **A check predicts what a dry run aborts.** For an accepted dataset and any templates, a dry run
has a report, which is a success exactly if the check is passed; the passes with errors about them
are those that are aborted, each for the fragment that the first error about it points at. Two
command lines that name the same inputs, one for a check and one for a dry run, exit with 0 in the
same cases. -/
theorem check_predicts_dryRun :
    (∀ source dataset, Dataset.ofSource source = .ok dataset →
      ∀ (package : TemplatePackage) (path : Path) (opts : GenerateOptions), opts.dryRun = true →
        Predicts (package.generator dataset).checkInput.diagnostics
          (opts.generator dataset package).preview ∧
        ∀ s : σ, ∃ report, (generate dataset package opts : StateM σ _) s = (.ok report, s) ∧
          ((check dataset package path).isValid = true ↔ report.isSuccess = true)) ∧
    ∀ (clock : Clock) (dataset templates : Option String) (s : σ),
      ((CommandLine.execute clock ("check" :: CommandLine.inputArguments dataset templates) :
        StateM σ _) s).1.code = 0 ↔
      ((CommandLine.execute clock
        ("generate" :: "--dry-run" :: CommandLine.inputArguments dataset templates) :
        StateM σ _) s).1.code = 0 := by
  refine ⟨?_, CommandLine.execute_code_iff⟩
  intro source dataset hsource package path opts hdry
  have hwell := Dataset.wellFormed_of_ofSource hsource
  constructor
  · have hgenerator : (opts.generator dataset package).dataset.WellFormed := by
      rw [opts.dataset_generator]
      exact hwell
    rw [← opts.checkInput_generator]
    exact Generator.predicts_preview hgenerator
  · intro s
    exact ⟨_, generate_dryRun hdry dataset package s, isValid_check_iff hwell package path opts _⟩

end Disk

/-- A table that refers to another one. -/
def lookupSource : Source where
  text := "[[tables]]\nname = 'item'\nfields = [\x7bname = 'kind', type = 'lookup', " ++
    "lookup = 'kind'\x7d]\n[[tables]]\nname = 'kind'\n"
  fileName := "data.toml"

def lookupDataset : Dataset where
  package := none
  tables := [
    { name := "item", fields := [⟨"kind", "lookup", some "kind"⟩], rows := [] },
    { name := "kind", fields := [], rows := [] }]

/-- Templates for two passes, both of which need more than the two fragments that there are. -/
def partialPackage : TemplatePackage where
  dir := ⟨"."⟩
  manifest := { fragments := { classVariable := some "", newClassInstance := some "" } }
  templates := { row := some ⟨⟨"Row.cs"⟩, ""⟩, database := some ⟨⟨"Database.cs"⟩, ""⟩ }

theorem check_predicts_dryRun_lookup :
    Dataset.ofSource lookupSource = .ok lookupDataset ∧
    (check lookupDataset partialPackage ⟨"data.toml"⟩).isValid = false ∧
    Predicts (partialPackage.generator lookupDataset).checkInput.diagnostics
      (partialPackage.generator lookupDataset).preview ∧
    ⟨.row, .aborted (.missingFragment .row .classProperty)⟩ ∈
      (partialPackage.generator lookupDataset).preview.passes := by
  have hsource : Dataset.ofSource lookupSource = .ok lookupDataset := by decide +kernel
  have h := (check_predicts_dryRun FileTree).1 lookupSource lookupDataset hsource
    partialPackage ⟨"data.toml"⟩ { dryRun := true } rfl
  exact ⟨hsource, by decide +kernel, h.1, by decide +kernel⟩

end TableForge
