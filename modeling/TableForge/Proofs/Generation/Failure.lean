import Mathlib.Data.List.Forall2
import TableForge.Proofs.FileTree.Overlay
import TableForge.Proofs.Generation.Effect

/-!
# What a run leaves when it fails

The disk holds a file tree and may fail at any request; a clearing that fails has removed something
at most, and a write that fails leaves its file alone. So the tree behind a failure is told by the
requests that succeeded before it: a stopped run has cleared the folder and laid the first files
over it, each where its path led at the time. A pass that is aborted asks for nothing in whatever
way the run ends, and the passes behind it go on.
-/
namespace TableForge

open FileTree

variable {σ : Type} [Disk (StateM σ)] {tree : σ → FileTree}

/-- A disk that holds a file tree. It may fail where the tree would not: then a clearing has removed
something at most, and a write has made folders at most. -/
structure Disk.Holds (tree : σ → FileTree) : Prop where
  isFolder : ∀ {path answer s s'}, (Disk.isFolder path : StateM σ _) s = (answer, s') →
    answer = (tree s).isFolder path ∧ tree s' = tree s
  clear_ok : ∀ {path removed s s'}, (Disk.clear path : StateM σ _) s = (.ok removed, s') →
    ∃ arrange, Arranges arrange ∧ (tree s).clear arrange path = (tree s', .ok removed)
  clear_error : ∀ {path fault s s'}, (Disk.clear path : StateM σ _) s = (.error fault, s') →
    Shrinks (tree s) (tree s')
  write_ok : ∀ {path text s s'}, (Disk.write path text : StateM σ _) s = (.ok (), s') →
    (tree s).write path text = (tree s', .ok ())
  write_error : ∀ {path text fault s s'},
    (Disk.write path text : StateM σ _) s = (.error fault, s') → Overlaid [] (tree s) (tree s')

/-- A file tree that serves as a disk holds itself. -/
theorem FileTree.holds : Disk.Holds (id : FileTree → FileTree) where
  isFolder h := by
    cases h
    exact ⟨rfl, rfl⟩
  clear_ok h := ⟨fun _ names => names, arranges_listed, Generator.clear_of_disk h⟩
  clear_error h := shrinks_clear (Generator.clear_of_disk h)
  write_ok h := Generator.write_of_disk h
  write_error h := FileTree.write_error (Generator.write_of_disk h)

/-- Every request has put its file somewhere, and its path leads there. -/
def Found (t : FileTree) (requests : WriteRequests) (files : List (Location × ByteArray)) : Prop :=
  List.Forall₂ (fun request file => file.2 = request.2.toUTF8 ∧
    ∃ content, t.find request.1 = .ok (file.1, .file content)) requests files

theorem Found.mono {t t' : FileTree} {requests : WriteRequests}
    {dests : List (Location × ByteArray)} (hext : Extends t t') (h : Found t requests dests) :
    Found t' requests dests := by
  refine List.Forall₂.imp ?_ h
  rintro request file ⟨htext, content, hfind⟩
  exact ⟨htext, find_file_mono hext hfind⟩

/-- A tree whose folder was cleared before some files were written, anywhere. -/
structure Interrupted (folder : Location) (files : List (Location × ByteArray))
    (before after : FileTree) : Prop where
  /-- Every file is there, with the content that was written last. -/
  file : ∀ loc content, lastContent? files loc = some content →
    after.node? loc = some (.file content)
  /-- Nothing else is left below the folder but folders. -/
  below : ∀ loc node, Below folder loc → lastContent? files loc = none →
    after.node? loc = some node → node = .folder
  /-- Elsewhere nothing is changed, and what is new is a folder. -/
  outside : ∀ loc, ¬ Below folder loc → lastContent? files loc = none →
    after.node? loc = before.node? loc ∨
      (before.node? loc = none ∧ after.node? loc = some .folder)
  /-- No folder is removed. -/
  folders : ∀ loc, before.node? loc = some .folder → after.node? loc = some .folder

theorem interrupted_of_overlaid {folder : Location} {files : List (Location × ByteArray)}
    {before after : FileTree} (h : Overlaid files (before.cleared folder) after) :
    Interrupted folder files before after where
  file := h.file
  below loc node hbelow hnone hnode := by
    rcases h.frame loc hnone with hsame | ⟨-, hfolder⟩
    · rw [hsame] at hnode
      exact folder_of_node?_cleared hbelow hnode
    · rw [hfolder] at hnode
      exact (Option.some.inj hnode).symm
  outside loc hout hnone := by
    have hsame : (before.cleared folder).node? loc = before.node? loc := by
      rw [node?_cleared, if_neg fun hboth => hout hboth.1]
    rw [← hsame]
    exact h.frame loc hnone
  folders loc hfolder := h.kept.folder (isFolder_cleared hfolder)

theorem FileTree.find_of_isFolder {t : FileTree} {path : Path} (h : t.isFolder path = true) :
    ∃ loc, t.find path = .ok (loc, .folder) := by
  unfold isFolder at h
  split at h
  · next loc hfind => exact ⟨loc, hfind⟩
  · cases h

/-- What the files of a preview ask of the disk under an output folder. -/
def Preview.requests (p : Preview) (output : Path) : WriteRequests :=
  p.files.map (Generator.request output)

namespace Generator

/-- What the files of some passes ask of the disk. -/
def requestsOf (g : Generator) (output : Path) (passes : List PassKind) : WriteRequests :=
  passes.flatMap fun pass =>
    (g.context.outcome pass).files.map (request (g.config.outputRoot output))

variable {g : Generator} {output root : Path} {s s' : σ} {files : List GeneratedFile}
  {result : Except RunError WriteReport} {requests : WriteRequests}

theorem requests_preview (g : Generator) (output : Path) :
    g.preview.requests output = g.files.map (request (g.config.outputRoot output)) := by
  simp only [Preview.requests, preview, List.map_map]
  apply List.map_congr_left
  intro f _
  simp only [Function.comp_apply, request, outputRoot_join g.config output f.path]

theorem requestsOf_all (g : Generator) (output : Path) :
    g.requestsOf output PassKind.all = g.preview.requests output := by
  rw [requests_preview]
  simp [requestsOf, files, outcomes, Context.outcomes, List.flatMap_map, List.map_flatMap]

/-- A pass without files asks for nothing. -/
theorem requestsOf_filter {pass : PassKind} (h : (g.context.outcome pass).files = [])
    (passes : List PassKind) :
    g.requestsOf output (passes.filter (· ≠ pass)) = g.requestsOf output passes := by
  induction passes with
  | nil => rfl
  | cons first rest ih =>
    by_cases hfirst : first = pass
    · subst hfirst
      rw [List.filter_cons_of_neg (by simp), ih]
      simp [requestsOf, h]
    · rw [List.filter_cons_of_pos (by simpa using hfirst)]
      simp only [requestsOf, List.flatMap_cons] at ih ⊢
      rw [ih]

/-! ## What is left -/

/-- Files that are written one after another, each where its path leads at the time. -/
theorem overlaid_of_writeFiles (hdisk : Disk.Holds tree) (hclosed : (tree s).Closed)
    (h : (writeFiles root files : StateM σ _) s = (.ok (), s')) :
    ∃ dests, Found (tree s') (files.map (request root)) dests ∧
      Overlaid dests (tree s) (tree s') := by
  induction files generalizing s with
  | nil =>
    cases h
    exact ⟨[], .nil, Overlaid.refl _⟩
  | cons f rest ih =>
    obtain ⟨s₁, hfirst, hrest⟩ := writeFiles_ok_cons h
    obtain ⟨loc, hfind, hover, hclosed₁⟩ := write_ok hclosed (hdisk.write_ok hfirst)
    obtain ⟨dests, hfound, hmore⟩ := ih hclosed₁ hrest
    exact ⟨(loc, f.content.toUTF8) :: dests,
      .cons ⟨rfl, find_file_mono hmore.kept hfind⟩ hfound, hover.append hmore⟩

/-- The folder is cleared before the first file is written. -/
theorem overlaid_of_clear (hdisk : Disk.Holds tree) (hwf : (tree s).WellFormed) {s₁ s₂ : σ}
    {removed : Nat} (hisFolder : (Disk.isFolder output : StateM σ _) s = (true, s₁))
    (hclear : (Disk.clear output : StateM σ _) s₁ = (.ok removed, s₂)) :
    ∃ folder, (tree s).find output = .ok (folder, .folder) ∧
      Overlaid [] ((tree s).cleared folder) (tree s₂) ∧ (tree s₂).Closed := by
  obtain ⟨hanswer, htree⟩ := hdisk.isFolder hisFolder
  obtain ⟨folder, hfind⟩ := find_of_isFolder hanswer.symm
  obtain ⟨arrange, harrange, hrun⟩ := hdisk.clear_ok hclear
  rw [htree] at hrun
  obtain ⟨hhere, hnode⟩ := FileTree.clear_ok hwf harrange hfind hrun
  exact ⟨folder, hfind, (Overlaid.refl (tree s₂)).congr hhere.symm fun loc => (hnode loc).symm,
    (hwf.closed.cleared folder).congr hnode⟩

namespace Ending

theorem aborted_iff (hdisk : Disk.Holds tree) (h : Ending g output s result requests s') :
    (∃ report, result = .ok report ∧ report.status = .aborted) ↔
      output.text = "" ∨ (tree s).isFolder output = false := by
  have hfound {s₁ : σ} (hpath : output.text ≠ "")
      (hisFolder : (Disk.isFolder output : StateM σ _) s = (true, s₁)) :
      ¬ (output.text = "" ∨ (tree s).isFolder output = false) := by
    rw [← (hdisk.isFolder hisFolder).1]
    simpa using hpath
  cases h with
  | pathless hempty => exact ⟨fun _ => Or.inl hempty, fun _ => ⟨_, rfl, rfl⟩⟩
  | notFolder hisFolder =>
    exact ⟨fun _ => Or.inr (hdisk.isFolder hisFolder).1.symm, fun _ => ⟨_, rfl, rfl⟩⟩
  | notCleared hpath hisFolder => simpa using hfound hpath hisFolder
  | stopped hpath hisFolder => simpa using hfound hpath hisFolder
  | completed hpath hisFolder => simpa [Generator.completed] using hfound hpath hisFolder

/-- A run that is refused has touched nothing. -/
theorem untouched (hdisk : Disk.Holds tree) {report : WriteReport}
    (h : Ending g output s (.ok report) requests s') (hstatus : report.status = .aborted) :
    tree s' = tree s ∧ requests = [] ∧ report.passes = [] ∧ report.written = [] ∧
      report.outputRoot = none := by
  cases h with
  | pathless hempty => exact ⟨rfl, rfl, rfl, rfl, rfl⟩
  | notFolder hisFolder => exact ⟨(hdisk.isFolder hisFolder).2, rfl, rfl, rfl, rfl⟩
  | completed => cases hstatus

theorem of_clear_error (hdisk : Disk.Holds tree) {path : Path} {fault : FileFault}
    (h : Ending g output s (.error (.clear path fault)) requests s') :
    path = output ∧ requests = [] ∧ Shrinks (tree s) (tree s') := by
  cases h with
  | notCleared hpath hisFolder hclear =>
    rw [← (hdisk.isFolder hisFolder).2]
    exact ⟨rfl, rfl, hdisk.clear_error hclear⟩

theorem of_write_error (hdisk : Disk.Holds tree) (hwf : (tree s).WellFormed) {path : Path}
    {fault : FileFault} (h : Ending g output s (.error (.write path fault)) requests s') :
    ∃ k file folder dests, g.preview.files[k]? = some file ∧ path = output.join file.path ∧
      requests = (g.preview.requests output).take (k + 1) ∧
      (tree s).find output = .ok (folder, .folder) ∧
      Found (tree s') ((g.preview.requests output).take k) dests ∧
      Interrupted folder dests (tree s) (tree s') := by
  cases h with
  | @stopped s₁ s₂ s₃ _ removed done rest f _ hpath hisFolder hclear hfiles hdone hfail =>
    obtain ⟨folder, hfind, hcleared, hclosed⟩ := overlaid_of_clear hdisk hwf hisFolder hclear
    obtain ⟨dests, hfound, hover⟩ := overlaid_of_writeFiles hdisk hclosed hdone
    have hlast := hdisk.write_error hfail
    have hall : Overlaid dests ((tree s).cleared folder) (tree s') := by
      have happend := (hcleared.trans hover).append hlast
      rwa [List.append_nil] at happend
    refine ⟨done.length, { f with path := (g.config.outputRoot ⟨""⟩).join f.path }, folder, dests,
      ?_, outputRoot_join g.config output f.path, ?_, hfind, ?_, interrupted_of_overlaid hall⟩
    · simp [preview, hfiles]
    · rw [requests_preview, hfiles, ← List.map_take, List.append_cons done f rest,
        List.take_left' (by simp)]
    · rw [requests_preview, hfiles, ← List.map_take, List.take_left]
      exact hfound.mono hlast.kept

/-- A run asks for files of the preview from the first one on. -/
theorem requests_isPrefix (h : Ending g output s result requests s') :
    requests <+: g.preview.requests output := by
  rw [requests_preview]
  cases h with
  | pathless => exact List.nil_prefix
  | notFolder => exact List.nil_prefix
  | notCleared => exact List.nil_prefix
  | @stopped s₁ s₂ s₃ _ removed done rest f _ hpath hisFolder hclear hfiles hdone hfail =>
    rw [hfiles]
    exact ⟨rest.map (request (g.config.outputRoot output)), by simp⟩
  | completed => exact List.prefix_refl _

theorem of_completed {report : WriteReport} (h : Ending g output s (.ok report) requests s')
    (hstatus : report.status = .completed) :
    requests = g.preview.requests output ∧
      report.passes = PassKind.all.map fun pass => ⟨pass, (g.context.outcome pass).status⟩ := by
  cases h with
  | pathless => cases hstatus
  | notFolder => cases hstatus
  | completed => exact ⟨(requests_preview g output).symm, by
      simp [Generator.completed, passReports, outcomes, Context.outcomes]⟩

end Ending

/-- **How a run fails.** It is refused exactly without a path or without a folder there, and then
nothing is touched. If the folder cannot be cleared, no file was written and nothing is new. If a
file cannot be written, it is one of the preview's; the files before it were written where their
paths lead, the folder was cleared of all else, and nothing further was asked for. A pass that is
aborted asks for nothing, however the run ends, and the other passes go on. -/
theorem writeTo_failures (hdisk : Disk.Holds tree) (hwf : (tree s).WellFormed)
    (hrun : (g.writeTo output : StateM σ _) s = (result, s')) :
    ∃ requests, (g.writeTo output : Noted (StateM σ) _).start s = ((result, requests), s') ∧
    ((∃ report, result = .ok report ∧ report.status = .aborted) ↔
      output.text = "" ∨ (tree s).isFolder output = false) ∧
    (∀ report, result = .ok report → report.status = .aborted →
      tree s' = tree s ∧ requests = [] ∧ report.passes = [] ∧ report.written = [] ∧
        report.outputRoot = none) ∧
    (∀ path fault, result = .error (.clear path fault) →
      path = output ∧ requests = [] ∧ Shrinks (tree s) (tree s')) ∧
    (∀ path fault, result = .error (.write path fault) →
      ∃ k file folder dests, g.preview.files[k]? = some file ∧ path = output.join file.path ∧
        requests = (g.preview.requests output).take (k + 1) ∧
        (tree s).find output = .ok (folder, .folder) ∧
        Found (tree s') ((g.preview.requests output).take k) dests ∧
        Interrupted folder dests (tree s) (tree s')) ∧
    (∀ pass error, g.context.outcome pass = .aborted error →
      requests <+: g.requestsOf output (PassKind.all.filter (· ≠ pass)) ∧
      ∀ report, result = .ok report → report.status = .completed →
        requests = g.requestsOf output (PassKind.all.filter (· ≠ pass)) ∧
        report.passes = PassKind.all.map fun pass =>
          ⟨pass, (g.context.outcome pass).status⟩) := by
  obtain ⟨requests, hnoted, hending⟩ := ending_of_writeTo hrun
  refine ⟨requests, hnoted, hending.aborted_iff hdisk, ?_, ?_, ?_, ?_⟩
  · rintro report rfl hstatus
    exact hending.untouched hdisk hstatus
  · rintro path fault rfl
    exact hending.of_clear_error hdisk
  · rintro path fault rfl
    exact hending.of_write_error hdisk hwf
  · intro pass error haborted
    have hnone : (g.context.outcome pass).files = [] := by
      rw [haborted]
      rfl
    rw [requestsOf_filter hnone, requestsOf_all]
    refine ⟨hending.requests_isPrefix, ?_⟩
    rintro report rfl hstatus
    exact hending.of_completed hstatus

/-- A file tree with room for some more files only. -/
structure FullDisk where
  tree : FileTree
  room : Nat

instance : Disk (StateM FullDisk) where
  isFolder path := fun d => (d.tree.isFolder path, d)
  readText path := fun d => (d.tree.readText path, d)
  clear path := fun d =>
    let cleared := d.tree.clear (fun _ names => names) path
    (cleared.2, { d with tree := cleared.1 })
  write path text := fun d =>
    match d.room with
    | 0 => (.error (.other "No space left on device"), d)
    | room + 1 =>
      let written := d.tree.write path text
      (written.2, ⟨written.1, room⟩)

namespace FullDisk

variable {d d' : FullDisk} {path : Path}

theorem clear_of_disk {result : Except FileFault Nat}
    (h : (Disk.clear path : StateM FullDisk _) d = (result, d')) :
    d.tree.clear (fun _ names => names) path = (d'.tree, result) := by
  obtain ⟨hresult, hstate⟩ := Prod.ext_iff.mp h
  exact Prod.ext (congrArg FullDisk.tree hstate) hresult

theorem write_of_disk {text : String} {result : Except FileFault Unit}
    (h : (Disk.write path text : StateM FullDisk _) d = (result, d')) :
    (d'.tree = d.tree ∧ result = .error (.other "No space left on device")) ∨
      d.tree.write path text = (d'.tree, result) := by
  obtain ⟨tree, room⟩ := d
  cases room with
  | zero =>
    cases h
    exact Or.inl ⟨rfl, rfl⟩
  | succ room =>
    obtain ⟨hresult, hstate⟩ := Prod.ext_iff.mp h
    exact Or.inr (Prod.ext (congrArg FullDisk.tree hstate) hresult)

theorem holds : Disk.Holds FullDisk.tree where
  isFolder h := by
    cases h
    exact ⟨rfl, rfl⟩
  clear_ok h := ⟨fun _ names => names, fun _ names => List.Perm.refl names, clear_of_disk h⟩
  clear_error h := shrinks_clear (clear_of_disk h)
  write_ok h := by
    rcases write_of_disk h with ⟨-, hfull⟩ | hwrite
    · cases hfull
    · exact hwrite
  write_error h := by
    rcases write_of_disk h with ⟨hsame, -⟩ | hwrite
    · rw [hsame]
      exact Overlaid.refl _
    · exact FileTree.write_error hwrite

end FullDisk

theorem writeTo_failures_full :
    ∃ disk requests k dests, staleTree.WellFormed ∧
      (nestedSample.writeTo ⟨"out"⟩ : StateM FullDisk _) ⟨staleTree, 1⟩ =
        (.error (.write ⟨"out/net/game/Readme.txt"⟩ (.other "No space left on device")), disk) ∧
      (nestedSample.writeTo ⟨"out"⟩ : Noted (StateM FullDisk) _).start ⟨staleTree, 1⟩ =
        ((.error (.write ⟨"out/net/game/Readme.txt"⟩ (.other "No space left on device")), requests),
          disk) ∧
      requests = (nestedSample.preview.requests ⟨"out"⟩).take (k + 1) ∧
      Found disk.tree ((nestedSample.preview.requests ⟨"out"⟩).take k) dests ∧
      requests <+: nestedSample.requestsOf ⟨"out"⟩ [.enumeration, .row, .table, .package] := by
  have hresult : ((nestedSample.writeTo ⟨"out"⟩ : StateM FullDisk _) ⟨staleTree, 1⟩).1 =
      .error (.write ⟨"out/net/game/Readme.txt"⟩ (.other "No space left on device")) := by
    decide +kernel
  have hdatabase : nestedSample.context.outcome .database =
      .aborted (.missingFragment .database .localAssignment) := by decide +kernel
  have hwf : staleTree.WellFormed := by decide
  obtain ⟨disk, hrun⟩ := exists_state hresult
  obtain ⟨requests, hnoted, -, -, -, hwrite, habort⟩ := writeTo_failures FullDisk.holds hwf hrun
  obtain ⟨k, file, folder, dests, -, -, hrequests, -, hfound, -⟩ := hwrite _ _ rfl
  exact ⟨disk, requests, k, dests, hwf, hrun, hnoted, hrequests, hfound, (habort _ _ hdatabase).1⟩

end Generator

end TableForge
