import TableForge.Fragment.Pattern
import TableForge.Proofs.Generation.Run
import TableForge.Proofs.Path.Join

/-!
# A preview tells what a run writes

Under notes a completed run asks for exactly the files of the preview, seen from the output folder,
with the same texts in the same order; its pass reports are those of the preview, and its log is
that of the preview with every rendered file created, between a first and a last line. The disk
itself is arbitrary: it may answer as it likes.
-/
namespace TableForge

/-- The entry of a run for an entry of a preview: a file that was rendered there is created. -/
def LogEntry.asCreated (e : LogEntry) : LogEntry :=
  if e.level = .info ∧ "Rendered ".toList <+: e.message.toList then
    { e with message := "Created " ++ String.ofList (e.message.toList.drop "Rendered ".length) }
  else e

theorem LogEntry.asCreated_rendered (rest : String) :
    (LogEntry.mk .info ("Rendered " ++ rest)).asCreated = ⟨.info, "Created " ++ rest⟩ := by
  have hl : ("Rendered " ++ rest).toList = "Rendered ".toList ++ rest.toList :=
    String.toList_append
  have hdrop : ("Rendered " ++ rest).toList.drop "Rendered ".length = rest.toList := by
    rw [hl, ← String.length_toList]
    exact List.drop_left
  rw [asCreated, if_pos ⟨rfl, hl ▸ List.prefix_append _ _⟩, hdrop, String.ofList_toList]

theorem LogEntry.asCreated_of_level {e : LogEntry} (h : e.level ≠ .info) : e.asCreated = e := by
  simp [asCreated, h]

/-- What a run says of a pass is what the preview says, with its files created. -/
theorem PassOutcome.log_created (pass : PassKind) (outcome : PassOutcome) :
    outcome.log "Created" pass = (outcome.log "Rendered" pass).map LogEntry.asCreated := by
  cases outcome with
  | skipped => simp [log, LogEntry.asCreated_of_level]
  | aborted error => simp [log, LogEntry.asCreated_of_level]
  | rendered files =>
    simp only [log, List.map_map]
    apply List.map_congr_left
    intro f _
    have hmessage (verb : String) : verb ++ " " ++ pass.label ++ " File - " ++ f.name =
        verb ++ " " ++ (pass.label ++ " File - " ++ f.name) := by
      simp only [String.append_assoc]
    have h := LogEntry.asCreated_rendered (pass.label ++ " File - " ++ f.name)
    rw [Function.comp_apply, hmessage "Created", hmessage "Rendered"]
    exact h.symm

namespace Generator

theorem folderWarning_created (g : Generator) :
    g.folderWarning.map LogEntry.asCreated = g.folderWarning := by
  unfold folderWarning
  split <;> simp [LogEntry.asCreated_of_level]

theorem passLog_created (g : Generator) :
    g.passLog "Created" = g.preview.log.map LogEntry.asCreated := by
  simp only [preview, passLog, List.map_append, folderWarning_created, List.map_flatMap,
    PassOutcome.log_created]

theorem outputRoot_join (c : Config) (output path : Path) :
    (c.outputRoot output).join path = output.join ((c.outputRoot ⟨""⟩).join path) := by
  unfold Config.outputRoot
  split
  · rw [Path.empty_join, Path.join_assoc]
  · rw [Path.empty_join]

variable {σ : Type} [Disk (StateM σ)]

/-- **A completed run writes what its preview shows.** Run under notes, it ends in the same way and
has asked the disk for the texts of the preview's files, in order, each at the path that the preview
gives it under the output folder; these are the paths it reports as written. Its pass reports are
the preview's, and so is its log, with every rendered file created and a line before and behind. -/
theorem writeTo_agrees_with_preview {g : Generator} {output : Path} {s s' : σ}
    {report : WriteReport} (h : (g.writeTo output : StateM σ _) s = (.ok report, s'))
    (hc : report.status = .completed) :
    report.written = (g.preview.files.map fun f => output.join f.path) ∧
    (g.writeTo output : Noted (StateM σ) _).start s =
      ((.ok report, g.preview.files.map fun f => (output.join f.path, f.content)), s') ∧
    report.passes = g.preview.passes ∧
    report.log = [⟨.info, "Starting Write Process"⟩] ++ g.preview.log.map LogEntry.asCreated ++
      [⟨.info, "Finished Write Process"⟩] := by
  obtain ⟨-, hreport, -⟩ := writeTo_completed h hc
  have hpath (f : GeneratedFile) : output.join ((g.config.outputRoot ⟨""⟩).join f.path) =
      (g.config.outputRoot output).join f.path := (outputRoot_join g.config output f.path).symm
  refine ⟨?_, ?_, ?_, ?_⟩
  · simp [hreport, completed, preview, hpath]
  · simp [writeTo_noted h hc, preview, hpath]
  · simp [hreport, completed, preview]
  · rw [hreport, completed, passLog_created]

/-- A generator with package folders on; its enumeration and row passes are skipped, and its database
pass is aborted for lack of fragments. -/
def nestedSample : Generator where
  config := { packageFolders := true, lowercasePackage := true, packageName := "Net.Game" }
  dataset := {
    package := none
    tables := [{
      name := "item"
      fields := [⟨"id", "int", none⟩, ⟨"label", "string", none⟩]
      rows := [.ofList [("id", "1"), ("label", "Sword")]] }] }
  templates := {
    database := some ⟨⟨"Database.cs"⟩, "CLASS_LIST"⟩
    table := some ⟨⟨"src/Table.cs"⟩, "ROW_LIST"⟩
    packageFiles := [⟨⟨"Readme.txt"⟩, "PACKAGE_STRING"⟩] }
  renderer := FragmentPatterns.renderer {
    newClassInstance := some "new {name}({value})"
    localVariable := some "{type} {name} = {value};" }
  types := .empty
  replacements := []
  naming := .standard

/-- An output folder with a file from an earlier run. -/
def staleTree : FileTree where
  entries := [(["out"], .folder), (["out", "Old.txt"], .file "old".toUTF8)]
  here := []

theorem writeTo_agrees_with_preview_nested :
    ∃ report tree, (nestedSample.writeTo ⟨"out"⟩ : StateM FileTree _) staleTree = (.ok report, tree) ∧
      report.status = .completed ∧
      report.written = [⟨"out/net/game/src/ItemTable.cs"⟩, ⟨"out/net/game/Readme.txt"⟩] ∧
      report.written = (nestedSample.preview.files.map fun f => Path.join ⟨"out"⟩ f.path) ∧
      report.passes = nestedSample.preview.passes := by
  have hresult : ((nestedSample.writeTo ⟨"out"⟩ : StateM FileTree _) staleTree).1 =
      .ok (nestedSample.completed ⟨"out/net/game"⟩) := by decide +kernel
  obtain ⟨tree, hrun⟩ := exists_state hresult
  have h := writeTo_agrees_with_preview hrun rfl
  exact ⟨_, tree, hrun, rfl, by decide +kernel, h.1, h.2.2.1⟩

end Generator

end TableForge
