import TableForge.Proofs.FileTree.Turns

/-!
# Clearing that succeeds

Clearing a folder fails when the path of the folder leads through something that is to go, when an
address below the folder is too long, or when a file is listed twice, for it is gone when its turn
comes again. Nothing else can fail: each step touches only what stands at its name or below, so
whatever is listed is still there when its turn comes. None of this depends on the order in which
names come up, so what has succeeded in one order succeeds in every other.
-/
namespace TableForge.FileTree

/-- A well-formed tree where nothing but folders is listed more than once below a folder. -/
structure Tidy (t : FileTree) (folder : Location) : Prop where
  wellFormed : t.WellFormed
  distinct : ∀ loc, Below folder loc → t.node? loc ≠ some .folder → t.occurrences loc ≤ 1

/-- A folder that can be cleared by a path. -/
structure Reclearable (t : FileTree) (base : Path) (folder : Location) : Prop
    extends t.Tidy folder where
  check : checkPath base = .ok ()
  isFolder : t.node? folder = some .folder
  /-- The path leads to the folder without what is to go. -/
  leads : (t.cleared folder).LeadsTo base folder
  addressable : ∀ names, names ≠ [] → (t.node? (folder ++ names)).isSome = true →
    Addressable base names

/-- The path of a folder in a clearing: the path of the whole folder with the names put behind. -/
structure Visit (t : FileTree) (base : Path) (folder : Location) (depth : Nat) (path : Path)
    (loc : Location) : Prop where
  inside : Inside t folder depth path loc
  leads : (t.cleared folder).LeadsTo path loc
  check : checkPath path = .ok ()
  address : ∃ names, loc = folder ++ names ∧ path.stem = base.stem ++ names

variable {t mid mid' : FileTree} {base path : Path} {folder loc : Location} {name : String}
  {depth : Nat} {arrange : Location → List String → List String}

/-! ## Entries -/

theorem entries_sublist_of_removeFile {after : FileTree} (h : t.removeFile path = .ok after) :
    after.entries.Sublist t.entries := by
  obtain ⟨found, node, -, -, -, rfl⟩ := removeFile_ok h
  exact List.filter_sublist

theorem entries_sublist_of_clearFolder (arrange : Location → List String → List String)
    (depth : Nat) (t : FileTree) (path : Path) :
    (clearFolder arrange depth t path).1.entries.Sublist t.entries :=
  related_clearFolder (R := fun before after => after.entries.Sublist before.entries)
    (fun _ => List.Sublist.refl _) (fun hab hbc => hbc.trans hab) entries_sublist_of_removeFile
    arrange depth t path

/-! ## Paths that still lead to their folders -/

theorem LeadsTo.find (h : t.LeadsTo path loc) (hcheck : checkPath path = .ok ())
    (hfolder : t.node? loc = some .folder) : t.find path = .ok (loc, .folder) := by
  obtain ⟨-, left, hleads⟩ := h
  refine find_ok_iff.mpr ⟨resolve_ok_iff.mpr ⟨hcheck, ?_⟩, hfolder⟩
  rcases path.segments_eq_stem with hs | hs
  · rw [← hs] at hleads
    exact hleads.walk_target
  · rw [hs] at hleads ⊢
    rw [hleads.walk_append (Or.inl rfl), walk_skip hfolder (by decide), walk_nil]

theorem Between.ofCleared (h : Between t folder mid) : Extends (t.cleared folder) mid where
  here := h.here.symm
  node loc n hn := ⟨n, h.kept loc n hn, .refl n⟩

/-- What is left of a tree is also left of one that has more. -/
theorem Extends.cleared {t' : FileTree} (h : Extends (t.cleared folder) t') :
    Extends (t.cleared folder) (t'.cleared folder) where
  here := h.here
  node loc n hn := by
    obtain ⟨m, hm, halike⟩ := h.node loc n hn
    by_cases hbelow : Below folder loc
    · rw [folder_of_node?_cleared hbelow hn] at halike ⊢
      rw [halike.eq_folder] at hm
      exact ⟨.folder, isFolder_cleared hm, .refl _⟩
    · refine ⟨m, ?_, halike⟩
      rw [node?_cleared, if_neg fun hboth => hbelow hboth.1, hm]

theorem Visit.leads_mid (hv : Visit t base folder depth path loc) (h : Between t folder mid) :
    mid.LeadsTo path loc :=
  hv.leads.mono h.ofCleared (by rw [isFolder_cleared hv.inside.isFolder]; rfl)

theorem Visit.folder_mid (hv : Visit t base folder depth path loc) (h : Between t folder mid) :
    mid.node? loc = some .folder :=
  h.kept _ _ (isFolder_cleared hv.inside.isFolder)

/-- A name in a folder that is visited can be addressed. -/
theorem Visit.address_name (hr : Reclearable t base folder)
    (hv : Visit t base folder depth path loc) (hname : (t.node? (loc ++ [name])).isSome = true) :
    ProperName name ∧ name.utf8ByteSize ≤ maxNameBytes ∧ checkPath (path.join ⟨name⟩) = .ok () ∧
      ∃ names, loc ++ [name] = folder ++ names ∧ (path.join ⟨name⟩).stem = base.stem ++ names := by
  obtain ⟨node, hnode⟩ := Option.isSome_iff_exists.mp hname
  have hproper : ProperName name := hr.wellFormed.proper_of_node? hnode name (by simp)
  obtain ⟨names, hloc, hstem⟩ := hv.address
  rw [hloc, List.append_assoc] at hname
  have haddress := hr.addressable (names ++ [name]) (by simp) hname
  have hsegments : (path.join ⟨name⟩).segments = base.stem ++ (names ++ [name]) := by
    rw [segments_join_proper hv.leads.1 hproper, hstem, List.append_assoc]
  refine ⟨hproper, haddress.short name (by simp), ?_, names ++ [name], ?_, ?_⟩
  · exact haddress.checkPath hsegments (Path.text_join_ne_empty hv.leads.1 ⟨name⟩)
  · rw [hloc, List.append_assoc]
  · rw [stem_join_proper hv.leads.1 hproper, hstem, List.append_assoc]

theorem Visit.join_name (hr : Reclearable t base folder)
    (hv : Visit t base folder (depth + 1) path loc)
    (hinside : t.node? (loc ++ [name]) = some .folder) :
    Visit t base folder depth (path.join ⟨name⟩) (loc ++ [name]) := by
  obtain ⟨hproper, hshort, hcheck, haddress⟩ := hv.address_name hr (by rw [hinside]; rfl)
  exact ⟨hv.inside.join_name hproper hshort hinside,
    hv.leads.join_name hproper hshort (isFolder_cleared hv.inside.isFolder)
      (isFolder_cleared hinside), hcheck, haddress⟩

/-! ## Step by step -/

/-- What clearing to a depth does: it succeeds. -/
def Finishes (t : FileTree) (base : Path) (folder : Location)
    (arrange : Location → List String → List String) (depth : Nat) : Prop :=
  ∀ {mid : FileTree} {path : Path} {loc : Location}, Between t folder mid →
    mid.entries.Sublist t.entries → Visit t base folder depth path loc →
    ∃ mid' removed, clearFolder arrange depth mid path = (mid', .ok removed)

theorem Visit.removeFile_ok (hr : Reclearable t base folder)
    (hv : Visit t base folder depth path loc) (h : Between t folder mid) {node : Node}
    (hnode : mid.node? (loc ++ [name]) = some node) (hfile : node ≠ .folder) :
    mid.removeFile (path.join ⟨name⟩) = .ok (mid.erase (loc ++ [name])) := by
  obtain ⟨hproper, hshort, hcheck, -⟩ :=
    hv.address_name hr (by rw [h.grown _ _ hnode]; rfl)
  have hskip := (path_of_proper hproper).2.2
  have hresolve : mid.resolve .itself (path.join ⟨name⟩) = .ok (loc ++ [name]) := by
    refine resolve_ok_iff.mpr ⟨hcheck, ?_⟩
    obtain ⟨left, hwalk⟩ := (hv.leads_mid h).walk_behind
      (segments_join_proper hv.leads.1 hproper) ⟨name, by simp, hskip⟩ .itself
    rw [hwalk, walk_name (hv.folder_mid h) hskip hproper.2.2.1, if_neg (by simp),
      if_neg (Nat.not_lt.mpr hshort)]
    split
    · rw [if_pos ⟨rfl, rfl⟩]
    · rw [walk_nil]
  rw [removeFile, hresolve]
  cases node with
  | folder => exact absurd rfl hfile
  | file content => simp [bind, Except.bind, hnode]
  | link target => simp [bind, Except.bind, hnode]

/-- The turn of one name. -/
theorem Visit.removeInside_ok (hr : Reclearable t base folder)
    (hfinishes : Finishes t base folder arrange depth)
    (hv : Visit t base folder (depth + 1) path loc) (h : Between t folder mid)
    (hentries : mid.entries.Sublist t.entries) (hname : (mid.node? (loc ++ [name])).isSome = true) :
    ∃ mid' removed, removeInside arrange depth path loc mid name = (mid', .ok removed) ∧
      mid'.entries.Sublist mid.entries := by
  obtain ⟨node, hnode⟩ := Option.isSome_iff_exists.mp hname
  unfold removeInside
  by_cases hfolder : node = .folder
  · rw [hfolder] at hnode
    rw [if_pos (isFolderAt_iff.mpr hnode)]
    obtain ⟨mid', removed, hrun⟩ := hfinishes h hentries (hv.join_name hr (h.grown _ _ hnode))
    have hsub := entries_sublist_of_clearFolder arrange depth mid (path.join ⟨name⟩)
    rw [hrun] at hsub
    exact ⟨mid', removed, hrun, hsub⟩
  · have hno : ¬ mid.isFolderAt (loc ++ [name]) = true := by
      rw [isFolderAt_iff, hnode]
      exact fun he => hfolder (Option.some.inj he)
    have hremove := hv.removeFile_ok hr h hnode hfolder
    rw [if_neg hno, hremove]
    exact ⟨_, 1, rfl, entries_sublist_of_removeFile hremove⟩

/-- Name after name. What is listed twice is a folder, and a folder stays. -/
theorem Visit.removeEach_ok (hr : Reclearable t base folder) (harrange : Arranges arrange)
    (hfinishes : Finishes t base folder arrange depth)
    (hv : Visit t base folder (depth + 1) path loc) {names : List String}
    (h : Between t folder mid) (hentries : mid.entries.Sublist t.entries)
    (hthere : ∀ name ∈ names, (mid.node? (loc ++ [name])).isSome = true)
    (honce : ∀ name ∈ names, mid.node? (loc ++ [name]) ≠ some .folder → names.count name ≤ 1) :
    ∃ mid' removed,
      mid.removeEach names (removeInside arrange depth path loc) = (mid', .ok removed) := by
  induction names generalizing mid with
  | nil => exact ⟨mid, 0, rfl⟩
  | cons name rest ih =>
    have hname := hthere name List.mem_cons_self
    obtain ⟨next, first, hfirst, hsub⟩ := hv.removeInside_ok hr hfinishes h hentries hname
    obtain ⟨node, hnode⟩ := Option.isSome_iff_exists.mp hname
    obtain ⟨hnext, hsweep⟩ := h.removeInside hr.wellFormed (clears hr.wellFormed harrange depth)
      hv.inside (by rw [h.grown _ _ hnode]; rfl) hfirst
    have hother : ∀ n, n ≠ name → next.node? (loc ++ [n]) = mid.node? (loc ++ [n]) :=
      fun n hn => hsweep.node?_eq fun hunder => hn (List.mem_singleton.mp (under_name_iff.mp hunder))
    have hsame : name ∈ rest → next.node? (loc ++ [name]) = some .folder := by
      intro hmem
      have hfolder : mid.node? (loc ++ [name]) = some .folder := by
        by_contra hno
        have hcount := honce name List.mem_cons_self hno
        have hpos := List.count_pos_iff.mpr hmem
        rw [List.count_cons_self] at hcount
        omega
      exact hnext.kept _ _ (isFolder_cleared (h.grown _ _ hfolder))
    have hthere' : ∀ n ∈ rest, (next.node? (loc ++ [n])).isSome = true := by
      intro n hn
      by_cases hnn : n = name
      · rw [hnn, hsame (hnn ▸ hn)]
        rfl
      · rw [hother n hnn]
        exact hthere n (List.mem_cons_of_mem _ hn)
    have honce' : ∀ n ∈ rest, next.node? (loc ++ [n]) ≠ some .folder → rest.count n ≤ 1 := by
      intro n hn hno
      by_cases hnn : n = name
      · exact absurd (hsame (hnn ▸ hn)) (hnn ▸ hno)
      · rw [hother n hnn] at hno
        have hcount := honce n (List.mem_cons_of_mem _ hn) hno
        rwa [List.count_cons_of_ne (Ne.symm hnn)] at hcount
    obtain ⟨mid', more, hrest⟩ := ih hnext (hsub.trans hentries) hthere' honce'
    refine ⟨mid', first + more, ?_⟩
    rw [removeEach, hfirst]
    simp only [hrest]

theorem clearFolder_of_find (h : mid.find path = .ok (loc, .folder)) :
    clearFolder arrange (depth + 1) mid path =
      mid.removeEach (arrange loc (mid.names loc)) (removeInside arrange depth path loc) := by
  rw [clearFolder, h]
  rfl

/-- Clearing to any depth succeeds, by induction on the depth. -/
theorem finishes (hr : Reclearable t base folder) (harrange : Arranges arrange) (depth : Nat) :
    Finishes t base folder arrange depth := by
  induction depth with
  | zero =>
    intro mid path loc h hentries hv
    exact absurd hv.inside.pos (Nat.lt_irrefl 0)
  | succ depth ih =>
    intro mid path loc h hentries hv
    rw [clearFolder_of_find ((hv.leads_mid h).find hv.check (hv.folder_mid h))]
    refine hv.removeEach_ok hr harrange ih h hentries ?_ ?_
    · intro name hname
      exact mem_names_iff.mp ((harrange loc (mid.names loc)).mem_iff.mp hname)
    · intro name _ hno
      have hfile : t.node? (loc ++ [name]) ≠ some .folder := by
        intro hfolder
        exact hno (h.kept _ _ (isFolder_cleared hfolder))
      have hbelow : Below folder (loc ++ [name]) :=
        Below.of_isPrefix hv.inside.within (below_append (by simp))
      rw [(harrange loc (mid.names loc)).count_eq, count_names]
      exact hentries.countP_le.trans (hr.distinct _ hbelow hfile)

theorem Reclearable.find (hr : Reclearable t base folder) :
    t.find base = .ok (folder, .folder) :=
  (hr.leads.mono (Between.refl t folder).ofCleared (by rw [isFolder_cleared hr.isFolder]; rfl)).find
    hr.check hr.isFolder

theorem Reclearable.find_cleared (hr : Reclearable t base folder) :
    (t.cleared folder).find base = .ok (folder, .folder) :=
  hr.leads.find hr.check (isFolder_cleared hr.isFolder)

/-- **Clearing succeeds.** -/
theorem Reclearable.clear_ok (hr : Reclearable t base folder) (harrange : Arranges arrange) :
    ∃ mid' removed, t.clear arrange base = (mid', .ok removed) := by
  have hinside := inside_of_leadsTo (leadsTo_of_find hr.find) hr.isFolder
  have hvisit : Visit t base folder (t.height + 1) base folder :=
    ⟨hinside, hr.leads, hr.check, [], by simp, by simp⟩
  exact finishes hr harrange (t.height + 1) (Between.refl t folder) (List.Sublist.refl _) hvisit

/-! ## What has been cleared -/

section

variable {removed : Nat} (hwf : t.WellFormed) (harrange : Arranges arrange)
  (hfind : t.find path = .ok (folder, .folder))
  (hrun : t.clear arrange path = (mid, .ok removed))
include hwf harrange hfind hrun

/-- Clearing leaves nothing behind that could be listed twice, but for folders. -/
theorem tidy_of_clear : mid.Tidy folder := by
  obtain ⟨-, hnode⟩ := FileTree.clear_ok hwf harrange hfind hrun
  have hsub : mid.entries ⊆ t.entries := by
    have hsublist := entries_sublist_of_clearFolder arrange (t.height + 1) t path
    rw [← clear, hrun] at hsublist
    exact hsublist.subset
  refine ⟨⟨fun e he => ?_, fun e he => hwf.proper e (hsub he)⟩, fun loc hbelow hno => ?_⟩
  · obtain ⟨hne, hparent⟩ := hwf.parent e (hsub he)
    refine ⟨hne, isFolderAt_iff.mpr ?_⟩
    rw [hnode]
    exact isFolder_cleared (isFolderAt_iff.mp hparent)
  · have hnone : mid.node? loc = none := by
      cases hn : mid.node? loc with
      | none => rfl
      | some node =>
        have hfolder : node = .folder := folder_of_node?_cleared hbelow ((hnode loc).symm.trans hn)
        exact absurd (hfolder ▸ hn) hno
    rw [(occurrences_eq_zero_iff hbelow.ne_nil).mpr hnone]
    exact Nat.zero_le 1

/-- A folder that was cleared could have been cleared in any order, if its path leads to it without
what is gone. -/
theorem reclearable_of_clear (hstays : (t.cleared folder).find path = .ok (folder, .folder)) :
    Reclearable t path folder where
  wellFormed := hwf
  distinct _ hbelow hfile := occurrences_le_one_of_clear hwf harrange hfind hrun hbelow hfile
  check := (resolve_ok_iff.mp (find_ok_iff.mp hfind).1).1
  isFolder := (find_ok_iff.mp hfind).2
  leads := leadsTo_of_find hstays
  addressable _ hne hthere := addressable_of_clear hwf harrange hfind hrun hne hthere

/-- What is left of a folder that was cleared can be cleared again. -/
theorem reclearable_again (hstays : (t.cleared folder).find path = .ok (folder, .folder)) :
    Reclearable mid path folder := by
  have hr := reclearable_of_clear hwf harrange hfind hrun hstays
  obtain ⟨hhere, hnode⟩ := FileTree.clear_ok hwf harrange hfind hrun
  have hfolder : mid.node? folder = some .folder := by
    rw [hnode]
    exact isFolder_cleared hr.isFolder
  refine ⟨tidy_of_clear hwf harrange hfind hrun, hr.check, hfolder, ?_, fun names hne hthere => ?_⟩
  · have hsame : Extends (t.cleared folder) mid := .of_same hhere hnode
    exact hr.leads.mono hsame.cleared (by rw [isFolder_cleared hr.isFolder]; rfl)
  · obtain ⟨node, hn⟩ := Option.isSome_iff_exists.mp hthere
    rw [hnode] at hn
    exact hr.addressable names hne (by rw [node?_of_node?_cleared hn]; rfl)

end

end TableForge.FileTree
