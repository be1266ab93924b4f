import TableForge.Proofs.FileTree.Rewriting
import TableForge.Proofs.Generation.Effect

/-!
# Running again

The tree that a completed run leaves holds every folder that the run found or made. A second run of
the same generator therefore has to clear what the first one wrote, through paths that must not be
too long, and to find a place for every file among those folders. Both succeed: whatever stands
below the output folder was cleared or written by the first run, and at paths that are no shorter.
What the second run leaves is then what it found.
-/
namespace TableForge

open FileTree

namespace Generator

variable {base root output : Path} {folder : Location} {t t' mid mid' : FileTree}

/-! ## The first run -/

/-- Files that could be written below a folder, one after another, have paths that can be written
to, and leave a tidy tree, by induction on the list. -/
theorem writable_of_writeFiles {files : List GeneratedFile} {inside : Path → Path}
    (hready : t.Ready base folder) (htidy : t.Tidy folder)
    (hinside : ∀ f ∈ files, root.join f.path = base.join (inside f.path) ∧ (inside f.path).Downward)
    (hrun : (writeFiles root files : StateM FileTree _) t = (.ok (), t')) :
    (∀ f ∈ files, Writable base (inside f.path)) ∧ t'.Tidy folder := by
  induction files generalizing t with
  | nil =>
    cases hrun
    exact ⟨by simp, htidy⟩
  | cons f rest ih =>
    obtain ⟨next, hfirst, hrest⟩ := writeFiles_ok_cons hrun
    obtain ⟨hpath, hdown⟩ := hinside f List.mem_cons_self
    have hwrite : t.write (base.join (inside f.path)) f.content = (next, .ok ()) := by
      rw [← hpath]
      exact write_of_disk hfirst
    obtain ⟨hmore, hlast⟩ := ih ((hready.write hdown hwrite).ready hready)
      (htidy.write hready hdown hwrite) (fun g hg => hinside g (List.mem_cons_of_mem f hg)) hrest
    exact ⟨List.forall_mem_cons.mpr ⟨hready.writable hdown hwrite, hmore⟩, hlast⟩

/-- What a completed run has found to be possible. -/
structure Rerunnable (g : Generator) (output : Path) (folder : Location) (t : FileTree) : Prop where
  reclearable : t.Reclearable output folder
  writable : ∀ f ∈ g.files, Writable output ((g.config.outputRoot ⟨""⟩).join f.path)
  place : ∀ f ∈ g.files,
    t.FilePlace folder ((g.config.outputRoot ⟨""⟩).join f.path).names

/-- Whatever stands below the folder after a run was there when it was cleared, or has been written
since, and could be addressed. -/
theorem addressable_of_written {files : List (Location × ByteArray)} {removed : Nat}
    (hwf : t.WellFormed) (hfind : t.find output = .ok (folder, .folder))
    (hclear : t.clear (fun _ names => names) output = (mid, .ok removed))
    (hw : Written folder files mid t')
    (hfiles : ∀ f ∈ files, ∃ names, f.1 = folder ++ names ∧ Addressable output names)
    {names : List String} (hne : names ≠ []) (hthere : (t'.node? (folder ++ names)).isSome = true) :
    Addressable output names := by
  obtain ⟨-, hnode⟩ := clear_ok hwf arranges_listed hfind hclear
  rcases hw.node_cases (folder ++ names) with
    ⟨content, hlast, -⟩ | ⟨-, ⟨-, ⟨f, hf, hway⟩, -⟩ | ⟨-, hsame⟩⟩
  · obtain ⟨written, hloc, haddress⟩ := hfiles _ (mem_of_lastContent? hlast)
    rw [List.append_cancel_left hloc]
    exact haddress
  · obtain ⟨written, hloc, haddress⟩ := hfiles f hf
    rw [hloc] at hway
    exact haddress.of_isPrefix ((List.prefix_append_right_inj folder).mp hway.1)
  · obtain ⟨node, hn⟩ := Option.isSome_iff_exists.mp hthere
    rw [hsame, hnode] at hn
    have hfolder : t.node? (folder ++ names) = some .folder := by
      rw [← folder_of_node?_cleared (below_append hne) hn]
      exact node?_of_node?_cleared hn
    exact addressable_of_clear hwf arranges_listed hfind hclear hne (by rw [hfolder]; rfl)

/-- **A completed run can be repeated.** -/
theorem rerunnable_of_writeTo {g : Generator} {report : WriteReport} (hwf : t.WellFormed)
    (hfind : t.find output = .ok (folder, .folder))
    (hstays : (t.cleared folder).find output = .ok (folder, .folder))
    (hfiles : ∀ f ∈ g.files, f.path.Downward)
    (hpackage : g.config.packageFolders = true → g.config.packagePath.Downward)
    (hrun : (g.writeTo output : StateM FileTree _) t = (.ok report, t'))
    (hc : report.status = .completed) : Rerunnable g output folder t' := by
  obtain ⟨mid, removed, hclear, hwrite⟩ := writeTo_steps hrun hc
  obtain ⟨hhere, hnode⟩ := clear_ok hwf arranges_listed hfind hclear
  have hready := ready_of_cleared hhere hnode hstays
  have hinside := join_inside hfiles hpackage output
  have hw := written_of_writeFiles (fun _ => hready) hinside hwrite
  obtain ⟨hwritable, htidy⟩ := writable_of_writeFiles hready
    (tidy_of_clear hwf arranges_listed hfind hclear) hinside hwrite
  have hmid : Extends (t.cleared folder) mid := .of_same hhere hnode
  have hfolder : t'.node? folder = some .folder := hw.kept.folder hready.isFolder
  have haddress : ∀ f ∈ g.files,
      Addressable output ((g.config.outputRoot ⟨""⟩).join f.path).names :=
    fun f hf => (hwritable f hf).addressable hready.leads.1 (hinside f hf).2
  refine ⟨⟨htidy, (resolve_ok_iff.mp (find_ok_iff.mp hfind).1).1, hfolder, ?_, ?_⟩, hwritable, ?_⟩
  · exact (leadsTo_of_find hstays).mono (hmid.trans hw.kept).cleared
      (by rw [(find_ok_iff.mp hstays).2]; rfl)
  · intro names hne hthere
    refine addressable_of_written hwf hfind hclear hw ?_ hne hthere
    intro file hfile
    obtain ⟨f, hf, rfl⟩ := List.mem_map.mp hfile
    exact ⟨_, rfl, haddress f hf⟩
  · exact fun f hf => hw.filePlace hfolder (List.mem_map_of_mem hf)

/-! ## The second run -/

/-- Files for which there are places can be written one after another, by induction on the list: a
file that is written takes no place from the others. -/
theorem exists_writeFiles {files : List GeneratedFile} {inside : Path → Path}
    (hready : t.Ready base folder)
    (hinside : ∀ f ∈ files, root.join f.path = base.join (inside f.path) ∧ (inside f.path).Downward)
    (hwritable : ∀ f ∈ files, Writable base (inside f.path))
    (hplace : ∀ f ∈ files, t.FilePlace folder (inside f.path).names) :
    ∃ t', (writeFiles root files : StateM FileTree _) t = (.ok (), t') := by
  induction files generalizing t with
  | nil => exact ⟨t, rfl⟩
  | cons f rest ih =>
    obtain ⟨hpath, hdown⟩ := hinside f List.mem_cons_self
    have hfirst := hplace f List.mem_cons_self
    have hwrite := hready.write_ok (hwritable f List.mem_cons_self) hdown hfirst f.content
    have hdisk : (Disk.write (root.join f.path) f.content : StateM FileTree _) t =
        (.ok (), t.put (folder ++ (inside f.path).names) (.file f.content.toUTF8)) := by
      rw [hpath]
      exact congrArg Prod.swap hwrite
    obtain ⟨t', hrest⟩ := ih ((hready.write hdown hwrite).ready hready)
      (fun g hg => hinside g (List.mem_cons_of_mem f hg))
      (fun g hg => hwritable g (List.mem_cons_of_mem f hg))
      (fun g hg => (hplace g (List.mem_cons_of_mem f hg)).congr
        (node?_put_file_eq_folder_iff hfirst.free))
    refine ⟨t', ?_⟩
    rw [writeFiles_cons, hdisk]
    exact hrest

theorem Rerunnable.exists_writeTo {g : Generator} (h : Rerunnable g output folder t)
    (hfiles : ∀ f ∈ g.files, f.path.Downward)
    (hpackage : g.config.packageFolders = true → g.config.packagePath.Downward) :
    ∃ t', (g.writeTo output : StateM FileTree _) t =
      (.ok (g.completed (g.config.outputRoot output)), t') := by
  obtain ⟨hr, hwritable, hplace⟩ := h
  have hisFolder : (Disk.isFolder output : StateM FileTree _) t = (true, t) := by
    have hfolder : t.isFolder output = true := by simp [isFolder, hr.find]
    exact congrArg (·, t) hfolder
  obtain ⟨mid, removed, hclear⟩ := hr.clear_ok arranges_listed
  have hcleared : (Disk.clear output : StateM FileTree _) t = (.ok removed, mid) :=
    congrArg Prod.swap hclear
  obtain ⟨hhere, hnode⟩ := clear_ok hr.wellFormed arranges_listed hr.find hclear
  have hsame : ∀ loc, mid.node? loc = some .folder ↔ t.node? loc = some .folder := by
    intro loc
    rw [hnode]
    exact ⟨node?_of_node?_cleared, isFolder_cleared⟩
  obtain ⟨t', hwrite⟩ := exists_writeFiles (ready_of_cleared hhere hnode hr.find_cleared)
    (join_inside hfiles hpackage output) hwritable (fun f hf => (hplace f hf).congr hsame)
  refine ⟨t', ?_⟩
  rw [writeTo_eq, if_neg (text_ne_empty_of_checkPath hr.check), hisFolder]
  simp only [hcleared, hwrite]

/-- **Regeneration is stable.** The tree is well-formed, the output path leads to a folder and still
does so with the files and links below this folder gone, and the paths of the files and of the
package consist of names. Then the same run, started again from the tree that a completed run has
left, is completed too, with the same report, and leaves the tree as it was. -/
theorem writeTo_again {g : Generator} {report : WriteReport} (hwf : t.WellFormed)
    (hfind : t.find output = .ok (folder, .folder))
    (hstays : (t.cleared folder).find output = .ok (folder, .folder))
    (hfiles : ∀ f ∈ g.files, f.path.Downward)
    (hpackage : g.config.packageFolders = true → g.config.packagePath.Downward)
    (hrun : (g.writeTo output : StateM FileTree _) t = (.ok report, t'))
    (hc : report.status = .completed) :
    ∃ last, (g.writeTo output : StateM FileTree _) t' = (.ok report, last) ∧
      last.here = t'.here ∧ ∀ loc, last.node? loc = t'.node? loc := by
  have hagain := rerunnable_of_writeTo hwf hfind hstays hfiles hpackage hrun hc
  have hr := hagain.reclearable
  obtain ⟨last, hlast⟩ := hagain.exists_writeTo hfiles hpackage
  obtain ⟨mid, -, hmid, hw⟩ :=
    writeTo_written hwf hfind (fun _ => hstays) hfiles hpackage hrun hc
  obtain ⟨mid', hhere, hmid', hw'⟩ := writeTo_written hr.wellFormed hr.find
    (fun _ => hr.find_cleared) hfiles hpackage hlast rfl
  have hbare : mid.Bare folder := by
    intro loc node hbelow hnode
    exact folder_of_node?_cleared hbelow ((hmid loc).symm.trans hnode)
  refine ⟨last, ?_, hw'.kept.here.symm.trans hhere, hw.node?_again hbare hw' hmid'⟩
  rw [(writeTo_completed hrun hc).2.1]
  exact hlast

theorem writeTo_again_linked :
    ∃ report tree last, linkedTree.WellFormed ∧
      linkedTree.find ⟨"out"⟩ = .ok (["out"], .folder) ∧
      (linkedTree.cleared ["out"]).find ⟨"out"⟩ = .ok (["out"], .folder) ∧
      (∀ f ∈ nestedSample.files, f.path.Downward) ∧ nestedSample.config.packagePath.Downward ∧
      (nestedSample.writeTo ⟨"out"⟩ : StateM FileTree _) linkedTree = (.ok report, tree) ∧
      report.status = .completed ∧
      report.written = [⟨"out/net/game/src/ItemTable.cs"⟩, ⟨"out/net/game/Readme.txt"⟩] ∧
      (nestedSample.writeTo ⟨"out"⟩ : StateM FileTree _) tree = (.ok report, last) ∧
      last.here = tree.here ∧ ∀ loc, last.node? loc = tree.node? loc := by
  have hwf : linkedTree.WellFormed := by decide
  have hresult : ((nestedSample.writeTo ⟨"out"⟩ : StateM FileTree _) linkedTree).1 =
      .ok (nestedSample.completed ⟨"out/net/game"⟩) := by decide +kernel
  obtain ⟨tree, hrun⟩ := exists_state hresult
  have hfiles : ∀ f ∈ nestedSample.files, f.path.Downward := by decide +kernel
  have hpackage : nestedSample.config.packagePath.Downward := by decide +kernel
  have hfind : linkedTree.find ⟨"out"⟩ = .ok (["out"], .folder) := rfl
  have hstays : (linkedTree.cleared ["out"]).find ⟨"out"⟩ = .ok (["out"], .folder) := rfl
  obtain ⟨last, hagain, hhere, hsame⟩ :=
    writeTo_again hwf hfind hstays hfiles (fun _ => hpackage) hrun rfl
  exact ⟨_, tree, last, hwf, hfind, hstays, hfiles, hpackage, hrun, rfl, by decide +kernel, hagain,
    hhere, hsame⟩

/-- An output folder with a link that the path `out/l/../../d` leads through on its way there, and a
folder where the path leads once a folder has taken the place of the link. -/
def returningTree : FileTree where
  entries := [(["out"], .folder), (["out", "l"], .link "../a/b/c"), (["a"], .folder),
    (["a", "b"], .folder), (["a", "b", "c"], .folder), (["a", "d"], .link "../out"),
    (["d"], .folder), (["d", "Old.txt"], .file "old".toUTF8)]
  here := []

/-- A run clears the link that its own output path leads through; the run after it finds another
folder there, and clears that. -/
theorem writeTo_again_returning :
    ∃ report report' tree last, returningTree.WellFormed ∧
      returningTree.find ⟨"out/l/../../d"⟩ = .ok (["out"], .folder) ∧
      (∀ f ∈ singleSample.files, f.path.isPlain = true) ∧
      singleSample.config.packagePath.Downward ∧
      (singleSample.writeTo ⟨"out/l/../../d"⟩ : StateM FileTree _) returningTree =
        (.ok report, tree) ∧
      report.status = .completed ∧
      (singleSample.writeTo ⟨"out/l/../../d"⟩ : StateM FileTree _) tree = (.ok report', last) ∧
      (tree.node? ["d", "Old.txt"]).isSome = true ∧ (last.node? ["d", "Old.txt"]).isSome = false := by
  have hresult : ((singleSample.writeTo ⟨"out/l/../../d"⟩ : StateM FileTree _) returningTree).1 =
      .ok (singleSample.completed ⟨"out/l/../../d"⟩) := by decide +kernel
  have hkept : (((singleSample.writeTo ⟨"out/l/../../d"⟩ : StateM FileTree _)
      returningTree).2.node? ["d", "Old.txt"]).isSome = true := by decide +kernel
  have hagain : ((singleSample.writeTo ⟨"out/l/../../d"⟩ : StateM FileTree _)
      ((singleSample.writeTo ⟨"out/l/../../d"⟩ : StateM FileTree _) returningTree).2).1 =
      .ok (singleSample.completed ⟨"out/l/../../d"⟩) := by decide +kernel
  have hgone : (((singleSample.writeTo ⟨"out/l/../../d"⟩ : StateM FileTree _)
      ((singleSample.writeTo ⟨"out/l/../../d"⟩ : StateM FileTree _) returningTree).2).2.node?
        ["d", "Old.txt"]).isSome = false := by decide +kernel
  have hresolve : returningTree.resolve .target ⟨"out/l/../../d"⟩ = .ok ["out"] := by
    decide +kernel
  have hfolder : returningTree.node? ["out"] = some .folder := rfl
  obtain ⟨tree, hrun⟩ := exists_state hresult
  rw [hrun] at hkept hagain hgone
  obtain ⟨last, hrun'⟩ := exists_state hagain
  rw [hrun'] at hgone
  exact ⟨_, _, tree, last, by decide, find_ok_iff.mpr ⟨hresolve, hfolder⟩, by decide +kernel,
    by decide, hrun, rfl, hrun', hkept, hgone⟩

end Generator

end TableForge
