import Mathlib.Data.Finset.Card
import TableForge.Proofs.FileTree.Reclearing

/-!
# Clearing counts what it removes

Every removal takes away one file or link, so the number that clearing adds up and the number of
files and links that are left make up the number there was, in whatever order names come up and
wherever paths lead. A clearing that succeeds leaves the cleared tree, so what it has counted are the
files and links below the folder.

The order of the names can still decide whether clearing succeeds: where the path leads through a
link inside the folder itself, it stops leading anywhere when this link is gone. With a path that
does not need what is to go, every order succeeds, and so does clearing once more.
-/
namespace TableForge.FileTree

/-- The locations of all files and links. -/
def files (t : FileTree) : Finset Location :=
  (t.entries.map Prod.fst).toFinset.filter fun loc => t.isFolderAt loc = false

/-- The locations of the files and links below a folder. -/
def filesBelow (t : FileTree) (folder : Location) : Finset Location :=
  t.files.filter fun loc => Below folder loc

variable {t t' mid mid' : FileTree} {folder loc : Location} {path : Path} {removed : Nat}
  {arrange : Location → List String → List String}

theorem mem_files_iff : loc ∈ t.files ↔ ∃ node, t.node? loc = some node ∧ node ≠ .folder := by
  unfold files
  rw [Finset.mem_filter, List.mem_toFinset, List.mem_map, Bool.eq_false_iff, Ne, isFolderAt_iff]
  constructor
  · rintro ⟨⟨e, he, rfl⟩, hno⟩
    obtain ⟨node, hnode⟩ := Option.isSome_iff_exists.mp (node?_isSome_of_mem he)
    exact ⟨node, hnode, fun hfolder => hno (hfolder ▸ hnode)⟩
  · rintro ⟨node, hnode, hne⟩
    have hmem := mem_entries_of_node? (ne_nil_of_node? hnode hne) hnode
    exact ⟨⟨_, hmem, rfl⟩, by simpa [hnode] using hne⟩

theorem mem_filesBelow_iff :
    loc ∈ t.filesBelow folder ↔
      Below folder loc ∧ ∃ node, t.node? loc = some node ∧ node ≠ .folder := by
  rw [filesBelow, Finset.mem_filter, mem_files_iff, and_comm]

theorem files_erase (hne : loc ≠ []) : (t.erase loc).files = t.files.erase loc := by
  ext other
  rw [Finset.mem_erase, mem_files_iff, mem_files_iff]
  simp only [node?_erase t _ hne]
  by_cases h : other = loc <;> simp [h]

/-! ## Counting removals -/

theorem card_removeFile {after : FileTree} (h : t.removeFile path = .ok after) :
    after.files.card + 1 = t.files.card := by
  obtain ⟨found, node, -, hnode, hne, rfl⟩ := removeFile_ok h
  rw [files_erase (ne_nil_of_node? hnode hne),
    Finset.card_erase_add_one (mem_files_iff.mpr ⟨node, hnode, hne⟩)]

theorem card_removeEach {removeAt : FileTree → String → FileTree × Except FileFault Nat}
    (hstep : ∀ {mid mid' name removed}, removeAt mid name = (mid', .ok removed) →
      mid'.files.card + removed = mid.files.card)
    {names : List String} (h : t.removeEach names removeAt = (t', .ok removed)) :
    t'.files.card + removed = t.files.card := by
  induction names generalizing t removed with
  | nil =>
    cases h
    rfl
  | cons name rest ih =>
    obtain ⟨next, first, more, hfirst, hrest, rfl⟩ := removeEach_ok_cons h
    rw [← hstep hfirst, ← ih hrest]
    omega

/-- What clearing counts is what it has removed, by induction on the depth. -/
theorem card_clearFolder {depth : Nat}
    (h : clearFolder arrange depth t path = (t', .ok removed)) :
    t'.files.card + removed = t.files.card := by
  induction depth generalizing t t' path removed with
  | zero =>
    cases h
    rfl
  | succ depth ih =>
    obtain ⟨loc, -, hrun⟩ := clearFolder_ok h
    refine card_removeEach (fun {mid mid' name first} hturn => ?_) hrun
    rcases removeInside_ok hturn with ⟨-, hinner⟩ | ⟨hremove, rfl⟩
    · exact ih hinner
    · exact card_removeFile hremove

/-! ## What is counted -/

theorem exists_tree {α : Type} {x : FileTree × α} {result : α} (h : x.2 = result) :
    ∃ last, x = (last, result) :=
  ⟨x.1, by rw [← h]⟩

theorem files_of_cleared (h : ∀ loc, t'.node? loc = (t.cleared folder).node? loc) :
    t'.files = t.files.filter fun loc => ¬ Below folder loc := by
  ext loc
  rw [Finset.mem_filter, mem_files_iff, mem_files_iff, h]
  constructor
  · rintro ⟨node, hnode, hne⟩
    exact ⟨⟨node, node?_of_node?_cleared hnode, hne⟩,
      fun hbelow => hne (folder_of_node?_cleared hbelow hnode)⟩
  · rintro ⟨⟨node, hnode, hne⟩, hbelow⟩
    refine ⟨node, ?_, hne⟩
    rw [node?_cleared, if_neg fun hboth => hbelow hboth.1, hnode]

theorem node?_cleared_eq_iff (hbelow : Below folder loc) (node : Node) :
    (t.cleared folder).node? loc = some node ↔ node = .folder ∧ t.node? loc = some .folder := by
  constructor
  · intro h
    obtain rfl := folder_of_node?_cleared hbelow h
    exact ⟨rfl, node?_of_node?_cleared h⟩
  · rintro ⟨rfl, h⟩
    exact isFolder_cleared h

section

variable (hwf : t.WellFormed) (harrange : Arranges arrange)
  (hfind : t.find path = .ok (folder, .folder))
  (hrun : t.clear arrange path = (t', .ok removed))
include hwf harrange hfind hrun

theorem removed_eq_card : removed = (t.filesBelow folder).card := by
  obtain ⟨-, hnode⟩ := clear_ok hwf harrange hfind hrun
  have hcount : t'.files.card + removed = t.files.card := card_clearFolder hrun
  have hsplit := Finset.card_filter_add_card_filter_not (s := t.files) fun loc => Below folder loc
  rw [files_of_cleared hnode] at hcount
  rw [filesBelow]
  omega

/-- Where the path still leads to a folder afterwards, it is the one that was cleared. -/
theorem find_cleared_of_find (h : t'.find path = .ok (loc, .folder)) :
    (t.cleared folder).find path = .ok (folder, .folder) := by
  obtain ⟨hhere, hnode⟩ := clear_ok hwf harrange hfind hrun
  have hfolder : (t.cleared folder).node? loc = some .folder := by
    rw [← hnode]
    exact (find_ok_iff.mp h).2
  have hsame : Extends t' (t.cleared folder) := .of_same hhere.symm fun loc => (hnode loc).symm
  have hleads : (t.cleared folder).LeadsTo path loc :=
    (leadsTo_of_find h).mono hsame (by rw [(find_ok_iff.mp h).2]; rfl)
  have hthere : t.LeadsTo path loc :=
    hleads.mono (Between.refl t folder).ofCleared (by rw [hfolder]; rfl)
  rw [hthere.unique (leadsTo_of_find hfind)] at hleads hfolder
  exact hleads.find (resolve_ok_iff.mp (find_ok_iff.mp hfind).1).1 hfolder

/-- Clearing once more finds nothing to remove, if it finds the folder. -/
theorem clear_again_iff {arrange' : Location → List String → List String}
    (harrange' : Arranges arrange') :
    (t'.clear arrange' path).2 = .ok 0 ↔
      (t.cleared folder).find path = .ok (folder, .folder) := by
  constructor
  · intro h
    obtain ⟨last, hlast⟩ := exists_tree h
    obtain ⟨loc, hagain, -⟩ := clearFolder_ok hlast
    exact find_cleared_of_find hwf harrange hfind hrun hagain
  · intro hstays
    have hr := reclearable_again hwf harrange hfind hrun hstays
    obtain ⟨last, more, hlast⟩ := hr.clear_ok harrange'
    have hempty : t'.filesBelow folder = ∅ := by
      refine Finset.eq_empty_of_forall_notMem fun loc hloc => ?_
      obtain ⟨hbelow, node, hnode, hne⟩ := mem_filesBelow_iff.mp hloc
      rw [(clear_ok hwf harrange hfind hrun).2] at hnode
      exact hne (folder_of_node?_cleared hbelow hnode)
    rw [hlast, removed_eq_card hr.wellFormed harrange' hr.find hlast, hempty, Finset.card_empty]

end

/-- **Clearing removes precisely the files and links.** In a well-formed tree, whatever the order of
the names and wherever links point, a clearing that succeeds leaves exactly the folders below the
folder that its path leads to, leaves everything else as it was, and gives the number of files and
links that were below the folder; every other order that succeeds gives the same. If the path still
leads to the folder without the files and links below it, then every order succeeds, and exactly then
clearing once more succeeds, in any order, and removes nothing. -/
theorem clear_removes_files (hwf : t.WellFormed) (harrange : Arranges arrange)
    (hrun : t.clear arrange path = (t', .ok removed)) :
    ∃ folder, t.find path = .ok (folder, .folder) ∧
      (∀ loc node, Below folder loc →
        (t'.node? loc = some node ↔ node = .folder ∧ t.node? loc = some .folder)) ∧
      (∀ loc, ¬ Below folder loc → t'.node? loc = t.node? loc) ∧ t'.here = t.here ∧
      removed = (t.filesBelow folder).card ∧
      ∀ arrange', Arranges arrange' →
        (∀ last more, t.clear arrange' path = (last, .ok more) →
          more = removed ∧ last.here = t'.here ∧ ∀ loc, last.node? loc = t'.node? loc) ∧
        ((t.cleared folder).find path = .ok (folder, .folder) →
          (t.clear arrange' path).2 = .ok removed) ∧
        ((t'.clear arrange' path).2 = .ok 0 ↔
          (t.cleared folder).find path = .ok (folder, .folder)) := by
  obtain ⟨folder, hfind, -⟩ := clearFolder_ok hrun
  obtain ⟨hhere, hnode⟩ := clear_ok hwf harrange hfind hrun
  have hcount := removed_eq_card hwf harrange hfind hrun
  refine ⟨folder, hfind, ?_, ?_, hhere, hcount, fun arrange' harrange' => ⟨?_, ?_, ?_⟩⟩
  · intro loc node hbelow
    rw [hnode, node?_cleared_eq_iff hbelow]
  · intro loc hbelow
    rw [hnode, node?_cleared, if_neg fun hboth => hbelow hboth.1]
  · intro last more hlast
    obtain ⟨hhere', hnode'⟩ := clear_ok hwf harrange' hfind hlast
    refine ⟨?_, hhere'.trans hhere.symm, fun loc => (hnode' loc).trans (hnode loc).symm⟩
    rw [removed_eq_card hwf harrange' hfind hlast, hcount]
  · intro hstays
    obtain ⟨last, more, hlast⟩ :=
      (reclearable_of_clear hwf harrange hfind hrun hstays).clear_ok harrange'
    rw [hlast, removed_eq_card hwf harrange' hfind hlast, hcount]
  · exact clear_again_iff hwf harrange hfind hrun harrange'

/-- A tree with folders in folders and with links to a file inside, to a folder outside and to
nothing. -/
def crowdedTree : FileTree where
  entries := [(["kept"], .folder), (["kept", "Far.txt"], .file "far".toUTF8), (["out"], .folder),
    (["out", "Old.txt"], .file "old".toUTF8), (["out", "away"], .link "../kept"),
    (["out", "sub"], .folder), (["out", "sub", "near"], .link "../Old.txt"),
    (["out", "sub", "deep"], .folder), (["out", "sub", "deep", "In.txt"], .file "in".toUTF8),
    (["out", "lost"], .link "nowhere")]
  here := []

theorem arranges_reversed : Arranges fun _ names => names.reverse :=
  fun _ names => List.reverse_perm names

theorem clear_removes_files_crowded :
    ∃ t', crowdedTree.WellFormed ∧
      crowdedTree.clear (fun _ names => names.reverse) ⟨"out"⟩ = (t', .ok 5) ∧
      t'.node? ["out", "sub", "deep"] = some .folder ∧ t'.node? ["out", "away"] = none ∧
      t'.node? ["kept", "Far.txt"] = some (.file "far".toUTF8) ∧
      ∀ arrange, Arranges arrange → (crowdedTree.clear arrange ⟨"out"⟩).2 = .ok 5 ∧
        (t'.clear arrange ⟨"out"⟩).2 = .ok 0 := by
  have hwf : crowdedTree.WellFormed := by decide
  have hresult : (crowdedTree.clear (fun _ names => names.reverse) ⟨"out"⟩).2 = .ok 5 := by
    decide +kernel
  obtain ⟨t', hrun⟩ := exists_tree hresult
  obtain ⟨folder, hfind, hbelow, helsewhere, -, -, hall⟩ :=
    clear_removes_files hwf arranges_reversed hrun
  have hthere : crowdedTree.find ⟨"out"⟩ = .ok (["out"], .folder) := rfl
  obtain rfl : folder = ["out"] := by
    rw [hthere] at hfind
    cases hfind
    rfl
  have hstays : (crowdedTree.cleared ["out"]).find ⟨"out"⟩ = .ok (["out"], .folder) := rfl
  refine ⟨t', hwf, hrun, (hbelow _ _ (by decide)).mpr ⟨rfl, rfl⟩, ?_, ?_, fun arrange harrange => ?_⟩
  · cases hnode : t'.node? ["out", "away"] with
    | none => rfl
    | some node =>
      obtain ⟨-, hfolder⟩ := (hbelow _ node (by decide)).mp hnode
      cases hfolder
  · exact helsewhere _ (by decide)
  · obtain ⟨-, hevery, hagain⟩ := hall arrange harrange
    exact ⟨hevery hstays, hagain.mpr hstays⟩

/-- A folder with a link in it that leads back to the folder. -/
def loopedTree : FileTree where
  entries := [(["out"], .folder), (["out", "l"], .link ".")]
  here := []

/-- Cleared by the path of a link in it, a folder is not found again; and with a file in it besides,
clearing fails if the turn of the link comes first and succeeds if it comes last. -/
theorem clear_through_own_link :
    loopedTree.WellFormed ∧ loopedTree.find ⟨"out/l"⟩ = .ok (["out"], .folder) ∧
      (∃ t', loopedTree.clear (fun _ names => names) ⟨"out/l"⟩ = (t', .ok 1) ∧
        (t'.clear (fun _ names => names) ⟨"out/l"⟩).2 = .error .notFound) ∧
      ∃ t, t = loopedTree.put ["out", "Old.txt"] (.file "old".toUTF8) ∧ t.WellFormed ∧
        ∃ order order', Arranges order ∧ Arranges order' ∧
          (t.clear order ⟨"out/l"⟩).2 = .error .notFound ∧
          (t.clear order' ⟨"out/l"⟩).2 = .ok 2 := by
  have hresolve : loopedTree.resolve .target ⟨"out/l"⟩ = .ok ["out"] := by decide +kernel
  have hresult : (loopedTree.clear (fun _ names => names) ⟨"out/l"⟩).2 = .ok 1 := by
    decide +kernel
  have hagain : ((loopedTree.clear (fun _ names => names) ⟨"out/l"⟩).1.clear
      (fun _ names => names) ⟨"out/l"⟩).2 = .error .notFound := by decide +kernel
  obtain ⟨t', hrun⟩ := exists_tree hresult
  rw [hrun] at hagain
  exact ⟨by decide, find_ok_iff.mpr ⟨hresolve, rfl⟩, ⟨t', hrun, hagain⟩, _, rfl, by decide, _, _,
    arranges_listed, arranges_reversed, by decide +kernel, by decide +kernel⟩

end TableForge.FileTree
