import TableForge.Proofs.FileTree.Clearing
import TableForge.Proofs.FileTree.Writing
import TableForge.Proofs.Generation.Preview

/-!
# What a completed run leaves on a file tree

Clearing leaves nothing but folders below the output folder, in particular no link, so that no write
is led away from there. What is below the folder after a completed run is then the preview laid over
the folders of before, and everything else is untouched. Each request follows the output path anew;
the path itself must therefore not depend on what is cleared, as soon as there is something to
write.
-/
namespace TableForge

open FileTree

/-- Where the files of a preview are to stand, each with its content. -/
def Preview.destinations (p : Preview) (folder : Location) : List (Location × ByteArray) :=
  p.files.map fun f => (folder ++ f.path.names, f.content.toUTF8)

namespace Generator

variable {base root output : Path} {folder : Location} {t t' : FileTree}

theorem write_of_disk {path : Path} {text : String} {result : Except FileFault Unit}
    (h : (Disk.write path text : StateM FileTree _) t = (result, t')) :
    t.write path text = (t', result) := by
  have hswap : (t.write path text).swap = (result, t') := h
  rw [← Prod.swap_swap (t.write path text), hswap, Prod.swap_prod_mk]

theorem clear_of_disk {path : Path} {result : Except FileFault Nat}
    (h : (Disk.clear path : StateM FileTree _) t = (result, t')) :
    t.clear (fun _ names => names) path = (t', result) := by
  have hswap : (t.clear (fun _ names => names) path).swap = (result, t') := h
  rw [← Prod.swap_swap (t.clear _ path), hswap, Prod.swap_prod_mk]

/-- Files that are written one after another at paths below a folder, by induction on the list. -/
theorem written_of_writeFiles {files : List GeneratedFile} {inside : Path → Path}
    (hready : files ≠ [] → t.Ready base folder)
    (hinside : ∀ f ∈ files, root.join f.path = base.join (inside f.path) ∧ (inside f.path).Downward)
    (hrun : (writeFiles root files : StateM FileTree _) t = (.ok (), t')) :
    Written folder (files.map fun f => (folder ++ (inside f.path).names, f.content.toUTF8)) t t' := by
  induction files generalizing t with
  | nil =>
    cases hrun
    exact Written.nil folder _
  | cons f rest ih =>
    obtain ⟨mid, hfirst, hrest⟩ := writeFiles_ok_cons hrun
    obtain ⟨hpath, hdown⟩ := hinside f List.mem_cons_self
    have hwrite : t.write (base.join (inside f.path)) f.content = (mid, .ok ()) := by
      rw [← hpath]
      exact write_of_disk hfirst
    have ht := hready (List.cons_ne_nil f rest)
    have hone := ht.write hdown hwrite
    have hmore := ih (fun _ => hone.ready ht)
      (fun g hg => hinside g (List.mem_cons_of_mem f hg)) hrest
    exact hone.append hmore

/-- A cleared folder has no links for a write to follow. -/
theorem ready_of_cleared {mid : FileTree} (hhere : mid.here = t.here)
    (hnode : ∀ loc, mid.node? loc = (t.cleared folder).node? loc)
    (hfind : (t.cleared folder).find output = .ok (folder, .folder)) : mid.Ready output folder := by
  have hfolder := (find_ok_iff.mp hfind).2
  have hext : Extends (t.cleared folder) mid := .of_same hhere hnode
  refine ⟨(leadsTo_of_find hfind).mono hext (by rw [hfolder]; rfl), hext.folder hfolder, ?_⟩
  intro loc hbelow target hlink
  rw [hnode] at hlink
  cases folder_of_node?_cleared hbelow hlink

/-- The paths of a preview lead downwards if those of the files and that of the package do. -/
theorem downward_inside {g : Generator} (hpackage : g.config.packageFolders = true →
    g.config.packagePath.Downward) {path : Path} (hpath : path.Downward) :
    ((g.config.outputRoot ⟨""⟩).join path).Downward := by
  unfold Config.outputRoot
  split
  · next hfolders =>
    rw [Path.empty_join]
    exact (hpackage hfolders).join hpath
  · rw [Path.empty_join]
    exact hpath

/-- Every file goes to a path behind the output path that leads downwards. -/
theorem join_inside {g : Generator} (hfiles : ∀ f ∈ g.files, f.path.Downward)
    (hpackage : g.config.packageFolders = true → g.config.packagePath.Downward) (output : Path) :
    ∀ f ∈ g.files, (g.config.outputRoot output).join f.path =
      output.join ((g.config.outputRoot ⟨""⟩).join f.path) ∧
        ((g.config.outputRoot ⟨""⟩).join f.path).Downward :=
  fun f hf => ⟨outputRoot_join g.config output f.path, downward_inside hpackage (hfiles f hf)⟩

theorem destinations_preview (g : Generator) (folder : Location) :
    g.preview.destinations folder = g.files.map fun f =>
      (folder ++ ((g.config.outputRoot ⟨""⟩).join f.path).names, f.content.toUTF8) := by
  simp only [Preview.destinations, preview, List.map_map, Function.comp_def]

/-- A completed run has cleared the output folder and written every file. -/
theorem writeTo_steps {g : Generator} {report : WriteReport}
    (hrun : (g.writeTo output : StateM FileTree _) t = (.ok report, t'))
    (hc : report.status = .completed) :
    ∃ mid removed, t.clear (fun _ names => names) output = (mid, .ok removed) ∧
      (writeFiles (g.config.outputRoot output) g.files : StateM FileTree _) mid = (.ok (), t') := by
  obtain ⟨-, -, start, mid, removed, hisFolder, hclear, hwrite⟩ := writeTo_completed hrun hc
  have hstart : start = t := (Prod.ext_iff.mp hisFolder).2.symm
  rw [hstart] at hclear
  exact ⟨mid, removed, clear_of_disk hclear, hwrite⟩

/-- A completed run clears the output folder and writes the files of the preview. -/
theorem writeTo_written {g : Generator} {report : WriteReport} (hwf : t.WellFormed)
    (hfind : t.find output = .ok (folder, .folder))
    (hstays : g.files ≠ [] → (t.cleared folder).find output = .ok (folder, .folder))
    (hfiles : ∀ f ∈ g.files, f.path.Downward)
    (hpackage : g.config.packageFolders = true → g.config.packagePath.Downward)
    (hrun : (g.writeTo output : StateM FileTree _) t = (.ok report, t'))
    (hc : report.status = .completed) :
    ∃ mid, mid.here = t.here ∧ (∀ loc, mid.node? loc = (t.cleared folder).node? loc) ∧
      Written folder (g.preview.destinations folder) mid t' := by
  obtain ⟨mid, removed, hclear, hwrite⟩ := writeTo_steps hrun hc
  obtain ⟨hhere, hnode⟩ := clear_ok hwf arranges_listed hfind hclear
  refine ⟨mid, hhere, hnode, ?_⟩
  rw [destinations_preview]
  exact written_of_writeFiles (fun hne => ready_of_cleared hhere hnode (hstays hne))
    (join_inside hfiles hpackage output) hwrite

/-- **What a completed run leaves.** The tree is well-formed, with any files, folders and links. The
output path leads to a folder and, if there is something to write, still does so with the files and
links below this folder gone. The paths of the files and of the package consist of names. Then what
is below the folder and no folder itself is a file with the content of the last rendered file that
goes there, the folders are those of before and those on the way to a rendered file, and everything
else is as it was. -/
theorem writeTo_effect {g : Generator} {report : WriteReport} (hwf : t.WellFormed)
    (hfind : t.find output = .ok (folder, .folder))
    (hstays : g.files ≠ [] → (t.cleared folder).find output = .ok (folder, .folder))
    (hfiles : ∀ f ∈ g.files, f.path.Downward)
    (hpackage : g.config.packageFolders = true → g.config.packagePath.Downward)
    (hrun : (g.writeTo output : StateM FileTree _) t = (.ok report, t'))
    (hc : report.status = .completed) :
    (∀ loc node, Below folder loc → node ≠ .folder → (t'.node? loc = some node ↔
      ∃ content, lastContent? (g.preview.destinations folder) loc = some content ∧
        node = .file content)) ∧
    (∀ loc, Below folder loc → (t'.node? loc = some .folder ↔
      t.node? loc = some .folder ∨ ∃ f ∈ g.preview.destinations folder, Below loc f.1)) ∧
    (∀ loc, ¬ Below folder loc → t'.node? loc = t.node? loc) ∧ t'.here = t.here := by
  obtain ⟨mid, hhere, hnode, hw⟩ := writeTo_written hwf hfind hstays hfiles hpackage hrun hc
  refine ⟨?_, ?_, ?_, hw.kept.here.symm.trans hhere⟩
  · intro loc node hbelow hno
    constructor
    · intro h
      rcases hw.node_cases loc with ⟨content, hlast, hfile⟩ | ⟨-, ⟨-, -, hfolder⟩ | ⟨-, hsame⟩⟩
      · rw [hfile] at h
        exact ⟨content, hlast, (Option.some.inj h).symm⟩
      · rw [hfolder] at h
        exact absurd (Option.some.inj h).symm hno
      · rw [hsame, hnode] at h
        exact absurd (folder_of_node?_cleared hbelow h) hno
    · rintro ⟨content, hlast, rfl⟩
      exact hw.file loc content hlast
  · intro loc hbelow
    constructor
    · intro h
      rcases hw.node_cases loc with ⟨content, -, hfile⟩ | ⟨-, ⟨-, hway, -⟩ | ⟨-, hsame⟩⟩
      · rw [hfile] at h
        cases h
      · exact Or.inr hway
      · rw [hsame, hnode] at h
        exact Or.inl (node?_of_node?_cleared h)
    · rintro (hold | hway)
      · exact hw.kept.folder ((hnode loc).trans (isFolder_cleared hold))
      · exact hw.onWay loc hbelow hway
  · intro loc hout
    rcases hw.node_cases loc with ⟨content, hlast, -⟩ | ⟨-, ⟨hbelow, -, -⟩ | ⟨-, hsame⟩⟩
    · exact absurd (hw.below _ (mem_of_lastContent? hlast)) hout
    · exact absurd hbelow hout
    · rw [hsame, hnode, node?_cleared, if_neg fun hboth => hout hboth.1]

/-- An output folder where files are to go through what is still a link to somewhere else. -/
def linkedTree : FileTree where
  entries := [(["keep"], .folder), (["keep", "Kept.txt"], .file "kept".toUTF8), (["out"], .folder),
    (["out", "Old.txt"], .file "old".toUTF8), (["out", "net"], .folder),
    (["out", "net", "game"], .link "../../keep")]
  here := []

theorem writeTo_effect_linked :
    ∃ report tree, linkedTree.WellFormed ∧
      (nestedSample.writeTo ⟨"out"⟩ : StateM FileTree _) linkedTree = (.ok report, tree) ∧
      report.status = .completed ∧ (∀ f ∈ nestedSample.files, f.path.Downward) ∧
      tree.node? ["out", "net", "game", "Readme.txt"] = some (.file "net.game".toUTF8) ∧
      tree.node? ["out", "net", "game"] = some .folder ∧
      tree.node? ["out", "Old.txt"] ≠ some (.file "old".toUTF8) ∧
      tree.node? ["keep", "Readme.txt"] = none := by
  have hwf : linkedTree.WellFormed := by decide
  have hresult : ((nestedSample.writeTo ⟨"out"⟩ : StateM FileTree _) linkedTree).1 =
      .ok (nestedSample.completed ⟨"out/net/game"⟩) := by decide +kernel
  obtain ⟨tree, hrun⟩ := exists_state hresult
  have hfiles : ∀ f ∈ nestedSample.files, f.path.Downward := by decide +kernel
  have hreadme : lastContent? (nestedSample.preview.destinations ["out"])
      ["out", "net", "game", "Readme.txt"] = some "net.game".toUTF8 := by decide +kernel
  have hold : lastContent? (nestedSample.preview.destinations ["out"]) ["out", "Old.txt"] = none := by
    decide +kernel
  have hway : ∃ f ∈ nestedSample.preview.destinations ["out"], Below ["out", "net", "game"] f.1 := by
    decide +kernel
  have hfind : linkedTree.find ⟨"out"⟩ = .ok (["out"], .folder) := rfl
  have hstays : (linkedTree.cleared ["out"]).find ⟨"out"⟩ = .ok (["out"], .folder) := rfl
  obtain ⟨hfile, hfolder, hframe, -⟩ := writeTo_effect hwf hfind (fun _ => hstays) hfiles
    (by decide +kernel) hrun rfl
  have hreadmeBelow : Below ["out"] ["out", "net", "game", "Readme.txt"] := by decide
  have hgameBelow : Below ["out"] ["out", "net", "game"] := by decide
  have holdBelow : Below ["out"] ["out", "Old.txt"] := by decide
  have hkeepOutside : ¬ Below ["out"] ["keep", "Readme.txt"] := by decide
  refine ⟨_, tree, hwf, hrun, rfl, hfiles, ?_, ?_, ?_, ?_⟩
  · rw [hfile _ _ hreadmeBelow (by simp)]
    exact ⟨_, hreadme, rfl⟩
  · rw [hfolder _ hgameBelow]
    exact Or.inr hway
  · intro hstale
    obtain ⟨content, hlast, -⟩ := (hfile _ _ holdBelow (by simp)).mp hstale
    rw [hold] at hlast
    cases hlast
  · rw [hframe _ hkeepOutside]
    rfl

/-- A generator that writes a single file. -/
def singleSample : Generator where
  config := {}
  dataset := { package := none, tables := [] }
  templates := { packageFiles := [⟨⟨"f.txt"⟩, "hello"⟩] }
  renderer := FragmentPatterns.renderer {}
  types := .empty
  replacements := []
  naming := .standard

/-- An output folder with a link that the path `w/out/l/../../x` leads through on its way there. -/
def windingTree : FileTree where
  entries := [(["w"], .folder), (["w", "out"], .folder), (["a"], .folder), (["a", "b"], .folder),
    (["a", "b", "c"], .folder), (["a", "x"], .link "../w/out"),
    (["w", "out", "l"], .link "../../a/b/c")]
  here := []

/-- A run clears the link that its own output path leads through, and then writes elsewhere. -/
theorem writeTo_effect_winding :
    ∃ report tree, windingTree.WellFormed ∧
      windingTree.find ⟨"w/out/l/../../x"⟩ = .ok (["w", "out"], .folder) ∧
      (∀ f ∈ singleSample.files, f.path.isPlain = true) ∧
      singleSample.config.packagePath.Downward ∧
      (singleSample.writeTo ⟨"w/out/l/../../x"⟩ : StateM FileTree _) windingTree =
        (.ok report, tree) ∧
      report.status = .completed ∧ ¬ Below ["w", "out"] ["w", "x", "f.txt"] ∧
      windingTree.node? ["w", "x", "f.txt"] = none ∧
      (tree.node? ["w", "x", "f.txt"]).isSome = true := by
  have hresult : ((singleSample.writeTo ⟨"w/out/l/../../x"⟩ : StateM FileTree _) windingTree).1 =
      .ok (singleSample.completed ⟨"w/out/l/../../x"⟩) := by decide +kernel
  have hwritten : (((singleSample.writeTo ⟨"w/out/l/../../x"⟩ : StateM FileTree _)
      windingTree).2.node? ["w", "x", "f.txt"]).isSome = true := by decide +kernel
  have hresolve : windingTree.resolve .target ⟨"w/out/l/../../x"⟩ = .ok ["w", "out"] := by
    decide +kernel
  have hfolder : windingTree.node? ["w", "out"] = some .folder := rfl
  obtain ⟨tree, hrun⟩ := exists_state hresult
  rw [hrun] at hwritten
  exact ⟨_, tree, by decide, find_ok_iff.mpr ⟨hresolve, hfolder⟩, by decide +kernel, by decide, hrun,
    rfl, by decide, rfl, hwritten⟩

end Generator

end TableForge
