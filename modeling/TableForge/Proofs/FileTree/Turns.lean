import TableForge.Proofs.FileTree.Addresses

/-!
# The turn of every name

A clearing that succeeds comes to every folder below the folder that it is about, by the path of that
folder with the names on the way put behind, and in each of them the turn of every name comes. A step
sweeps only what is at its name and below, so until then nothing there has been touched. Hence
whatever was below the folder could be addressed, and no file was listed twice, for it would have
been gone when its turn came again.
-/
namespace TableForge.FileTree

variable {t mid mid' : FileTree} {path : Path} {folder loc : Location} {name : String}
  {names : List String} {arrange : Location → List String → List String}

/-- A clearing that succeeds, of a folder that is to be cleared or stands in it. -/
structure Succeeds (t : FileTree) (folder : Location) (arrange : Location → List String → List String)
    (depth : Nat) (mid : FileTree) (path : Path) (loc : Location) : Prop where
  between : Between t folder mid
  inside : Inside t folder depth path loc
  run : ∃ mid' removed, clearFolder arrange depth mid path = (mid', .ok removed)

theorem succeeds_of_clear {removed : Nat} (hfind : t.find path = .ok (folder, .folder))
    (hrun : t.clear arrange path = (mid', .ok removed)) :
    Succeeds t folder arrange (t.height + 1) t path folder :=
  ⟨Between.refl t folder, inside_of_leadsTo (leadsTo_of_find hfind) (find_ok_iff.mp hfind).2, mid',
    removed, hrun⟩

/-- In removals that succeed one after another the turn of every name comes, for the first time
when the names before it are done. -/
theorem Between.exists_first_turn {depth removed : Nat} (hwf : t.WellFormed)
    (harrange : Arranges arrange) (h : Between t folder mid)
    (hinside : Inside t folder (depth + 1) path loc)
    (hnames : ∀ name ∈ names, (t.node? (loc ++ [name])).isSome = true)
    (hrun : mid.removeEach names (FileTree.removeInside arrange depth path loc) =
      (mid', .ok removed)) (hname : name ∈ names) :
    ∃ before behind now next first more, names = before ++ name :: behind ∧ name ∉ before ∧
      Between t folder now ∧ Sweep (Under loc before) mid now ∧
      FileTree.removeInside arrange depth path loc now name = (next, .ok first) ∧
      next.removeEach behind (FileTree.removeInside arrange depth path loc) = (mid', .ok more) := by
  obtain ⟨before, behind, rfl, hfresh⟩ := List.eq_append_cons_of_mem hname
  obtain ⟨now, count, others, hbefore, hothers, -⟩ := removeEach_ok_append hrun
  obtain ⟨next, first, more, hfirst, hmore, -⟩ := removeEach_ok_cons hothers
  obtain ⟨hnow, hsweep⟩ := h.removeEach hwf (clears hwf harrange depth) hinside
    (fun n hn => hnames n (List.mem_append_left _ hn)) hbefore
  exact ⟨before, behind, now, next, first, more, rfl, hfresh, hnow, hsweep, hfirst, hmore⟩

namespace Succeeds

variable {depth : Nat}

theorem exists_depth (h : Succeeds t folder arrange depth mid path loc) :
    ∃ fewer, depth = fewer + 1 :=
  ⟨depth - 1, by have hpos := h.inside.pos; omega⟩

theorem checkPath (h : Succeeds t folder arrange depth mid path loc) :
    FileTree.checkPath path = .ok () := by
  obtain ⟨fewer, rfl⟩ := h.exists_depth
  obtain ⟨mid', removed, hrun⟩ := h.run
  obtain ⟨found, hfind, -⟩ := clearFolder_ok hrun
  exact (resolve_ok_iff.mp (find_ok_iff.mp hfind).1).1

/-- When the turn of a name comes, nothing at the name or below has been touched. -/
theorem exists_turn (hwf : t.WellFormed) (harrange : Arranges arrange)
    (h : Succeeds t folder arrange (depth + 1) mid path loc)
    (hname : (mid.node? (loc ++ [name])).isSome = true) :
    ∃ now next first, Between t folder now ∧
      FileTree.removeInside arrange depth path loc now name = (next, .ok first) ∧
      ∀ rest, now.occurrences (loc ++ name :: rest) = mid.occurrences (loc ++ name :: rest) := by
  obtain ⟨mid', removed, hrun⟩ := h.run
  obtain ⟨names, hperm, hnames, heach⟩ := h.between.clearFolder_ok harrange h.inside hrun
  obtain ⟨before, behind, now, next, first, more, -, hfresh, hnow, hsweep, hfirst, -⟩ :=
    h.between.exists_first_turn hwf harrange h.inside hnames heach
      (hperm.mem_iff.mpr (mem_names_iff.mpr hname))
  exact ⟨now, next, first, hnow, hfirst, fun rest => hsweep.spared _ (mt under_name_iff.mp hfresh)⟩

/-- The path of a name in a folder of a clearing can be followed when its turn comes. -/
theorem addressable_name {base : Path} {now next : FileTree} {first : Nat}
    (h : Succeeds t folder arrange (depth + 1) mid path loc) (hproper : ProperName name)
    (hstem : path.stem = base.stem ++ names) (haddress : Addressable base names)
    (hnow : Between t folder now)
    (hturn : FileTree.removeInside arrange depth path loc now name = (next, .ok first)) :
    Addressable base (names ++ [name]) := by
  obtain ⟨hshort, hcheck⟩ := hnow.address_turn h.inside hproper hturn
  refine ⟨⟨path.join ⟨name⟩, hcheck, ?_⟩, ?_⟩
  · rw [segments_join_proper h.inside.leads.1 hproper, hstem, List.append_assoc]
  · exact List.forall_mem_append.mpr ⟨haddress.short, List.forall_mem_singleton.mpr hshort⟩

/-- A clearing that succeeds comes to every folder below, by its path with the names put behind, and
nothing below that folder has been touched until then. -/
theorem exists_visit (hwf : t.WellFormed) (harrange : Arranges arrange)
    (h : Succeeds t folder arrange depth mid path loc)
    (hnode : t.node? (loc ++ names) = some .folder) :
    ∃ fewer now inner, Succeeds t folder arrange fewer now inner (loc ++ names) ∧
      inner.stem = path.stem ++ names ∧ Addressable path names ∧
      ∀ other, Below (loc ++ names) other → now.occurrences other = mid.occurrences other := by
  -- from behind, for a folder has its turn when the folder that it stands in is visited
  induction names using List.reverseRecOn with
  | nil =>
    refine ⟨depth, mid, path, by rwa [List.append_nil], by simp, ?_, fun _ _ => rfl⟩
    refine ⟨⟨path, h.checkPath, ?_⟩, by simp⟩
    rw [List.append_nil]
    rcases path.segments_eq_stem with hs | hs
    · exact hs ▸ List.Sublist.refl path.stem
    · exact hs ▸ List.sublist_append_left path.stem [""]
  | append_singleton front last ih =>
    rw [← List.append_assoc] at hnode ⊢
    have hproper : ProperName last := hwf.proper_of_node? hnode last (by simp)
    obtain ⟨fewer, now, inner, hvisit, hstem, haddress, hsame⟩ :=
      ih (hwf.folder_above hnode (below_append (by simp)))
    obtain ⟨rest, rfl⟩ := hvisit.exists_depth
    have hthere := hvisit.between.kept _ _ (isFolder_cleared hnode)
    obtain ⟨turn, next, first, hturn, hfirst, hsame'⟩ :=
      hvisit.exists_turn hwf harrange (by rw [hthere]; rfl)
    have hinner := hvisit.addressable_name hproper hstem haddress hturn hfirst
    have hshort := hinner.short last (by simp)
    unfold FileTree.removeInside at hfirst
    rw [if_pos (isFolderAt_iff.mpr (hturn.kept _ _ (isFolder_cleared hnode)))] at hfirst
    refine ⟨rest, turn, inner.join ⟨last⟩,
      ⟨hturn, hvisit.inside.join_name hproper hshort hnode, next, first, hfirst⟩, ?_, hinner, ?_⟩
    · rw [stem_join_proper hvisit.inside.leads.1 hproper, hstem, List.append_assoc]
    · intro other hbelow
      rw [← hsame other (hbelow.of_isPrefix (List.prefix_append _ _))]
      obtain ⟨name, more, rfl⟩ := below_iff_exists.mp hbelow
      simpa using hsame' (name :: more)

/-- A turn that succeeds has found something at its name. -/
theorem isSome_of_turn {now next : FileTree} {first : Nat} (hnow : Between t folder now)
    (h : Succeeds t folder arrange (depth + 1) mid path loc) (hproper : ProperName name)
    (hturn : FileTree.removeInside arrange depth path loc now name = (next, .ok first)) :
    (now.node? (loc ++ [name])).isSome = true := by
  rcases removeInside_ok hturn with ⟨hfolder, -⟩ | ⟨hremove, -⟩
  · rw [hfolder]
    rfl
  · obtain ⟨node, hnode, -⟩ := hnow.removeFile_join h.inside.leads hproper hremove
    rw [hnode]
    rfl

/-- A file that was listed twice would be gone when its turn comes again. -/
theorem occurrences_le_one (hwf : t.WellFormed) (harrange : Arranges arrange)
    (h : Succeeds t folder arrange (depth + 1) mid path loc)
    (hfile : t.node? (loc ++ [name]) ≠ some .folder) : mid.occurrences (loc ++ [name]) ≤ 1 := by
  obtain ⟨mid', removed, hrun⟩ := h.run
  obtain ⟨names, hperm, hnames, heach⟩ := h.between.clearFolder_ok harrange h.inside hrun
  rw [← count_names, ← hperm.count_eq]
  by_cases hname : name ∈ names
  · have hproper : ProperName name := by
      obtain ⟨node, hnode⟩ := Option.isSome_iff_exists.mp (hnames name hname)
      exact hwf.proper_of_node? hnode name (by simp)
    obtain ⟨before, behind, now, next, first, more, rfl, hfresh, hnow, -, hfirst, hmore⟩ :=
      h.between.exists_first_turn hwf harrange h.inside hnames heach hname
    -- what is found at the name in a second turn was left by the first one, so it is a folder
    have hbehind : name ∉ behind := by
      intro hagain
      obtain ⟨hnext, hswept⟩ := hnow.removeInside hwf (clears hwf harrange depth) h.inside
        (hnames name hname) hfirst
      obtain ⟨_, _, later, last, count, -, -, -, hlater, hsweep, hturn, -⟩ :=
        hnext.exists_first_turn hwf harrange h.inside
          (fun n hn => hnames n (List.mem_append_right _ (List.mem_cons_of_mem _ hn))) hmore hagain
      obtain ⟨node, hnode⟩ := Option.isSome_iff_exists.mp (isSome_of_turn hlater h hproper hturn)
      have hleft := hsweep.shrinks _ _ hnode
      have hfolder := hswept.bare _ node (under_singleton.mpr (List.prefix_refl _)) hleft
      exact hfile (hfolder ▸ hnext.grown _ _ hleft)
    rw [List.count_append, List.count_cons_self, List.count_eq_zero.mpr hfresh,
      List.count_eq_zero.mpr hbehind]
  · rw [List.count_eq_zero.mpr hname]
    exact Nat.zero_le 1

end Succeeds

/-! ## Below a folder that was cleared -/

section

variable {removed : Nat} (hwf : t.WellFormed) (harrange : Arranges arrange)
  (hfind : t.find path = .ok (folder, .folder))
  (hrun : t.clear arrange path = (mid', .ok removed))
include hwf harrange hfind hrun

/-- A clearing that succeeds comes to the folder of everything below, and the turn of everything
comes there. -/
theorem exists_turn_of_clear (hthere : (t.node? (folder ++ (names ++ [name]))).isSome = true) :
    ∃ depth now inner, Succeeds t folder arrange (depth + 1) now inner (folder ++ names) ∧
      inner.stem = path.stem ++ names ∧ Addressable path names ∧
      (now.node? (folder ++ names ++ [name])).isSome = true ∧
      now.occurrences (folder ++ names ++ [name]) = t.occurrences (folder ++ names ++ [name]) := by
  rw [← List.append_assoc] at hthere
  obtain ⟨node, hnode⟩ := Option.isSome_iff_exists.mp hthere
  have habove : t.node? (folder ++ names) = some .folder :=
    hwf.folder_above hnode (below_append (by simp))
  obtain ⟨fewer, now, inner, hvisit, hstem, haddress, hsame⟩ :=
    (succeeds_of_clear hfind hrun).exists_visit hwf harrange habove
  obtain ⟨depth, rfl⟩ := hvisit.exists_depth
  have hcount := hsame (folder ++ names ++ [name]) (below_append (by simp))
  refine ⟨depth, now, inner, hvisit, hstem, haddress, ?_, hcount⟩
  have hne : folder ++ names ++ [name] ≠ [] := by simp
  by_contra hno
  rw [Option.not_isSome_iff_eq_none, ← occurrences_eq_zero_iff hne, hcount,
    occurrences_eq_zero_iff hne, hnode] at hno
  cases hno

/-- Whatever was below a folder that was cleared can be addressed. -/
theorem addressable_of_clear (hne : names ≠ [])
    (hthere : (t.node? (folder ++ names)).isSome = true) : Addressable path names := by
  obtain ⟨front, last, rfl⟩ := (List.eq_nil_or_concat' names).resolve_left hne
  obtain ⟨depth, now, inner, hvisit, hstem, haddress, hsome, -⟩ :=
    exists_turn_of_clear hwf harrange hfind hrun hthere
  obtain ⟨node, hnode⟩ := Option.isSome_iff_exists.mp hthere
  obtain ⟨turn, next, first, hturn, hfirst, -⟩ := hvisit.exists_turn hwf harrange hsome
  exact hvisit.addressable_name (hwf.proper_of_node? hnode last (by simp)) hstem haddress hturn
    hfirst

/-- Nothing but folders was listed more than once below a folder that was cleared. -/
theorem occurrences_le_one_of_clear (hbelow : Below folder loc)
    (hfile : t.node? loc ≠ some .folder) : t.occurrences loc ≤ 1 := by
  cases hnode : t.node? loc with
  | none =>
    rw [(occurrences_eq_zero_iff hbelow.ne_nil).mpr hnode]
    exact Nat.zero_le 1
  | some node =>
    obtain ⟨first, rest, rfl⟩ := below_iff_exists.mp hbelow
    obtain ⟨front, last, hnames⟩ :=
      (List.eq_nil_or_concat' (first :: rest)).resolve_left (List.cons_ne_nil _ _)
    rw [hnames] at hnode hfile ⊢
    have hthere : (t.node? (folder ++ (front ++ [last]))).isSome = true := by
      rw [hnode]
      rfl
    obtain ⟨depth, now, inner, hvisit, -, -, -, hcount⟩ :=
      exists_turn_of_clear hwf harrange hfind hrun hthere
    rw [← List.append_assoc] at hfile ⊢
    rw [← hcount]
    exact hvisit.occurrences_le_one hwf harrange hfile

end

end TableForge.FileTree
