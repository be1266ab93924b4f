import TableForge.Proofs.FileTree.Overlay
import TableForge.Proofs.FileTree.Reclearing

/-!
# Writing that succeeds

A file can be written below a folder without links if the folders on the way are there, no folder
stands in its place, and its path is one that can be written to. Nothing has to be made then: the
parent of the path leads to a folder, which making folders finds at once, and the only change is
that the file is put in its place. What has been written leaves such a place for the next time, and
a tree that can be cleared.
-/
namespace TableForge

theorem Path.Downward.proper {p : Path} (h : p.Downward) : ∀ name ∈ p.names, ProperName name := by
  intro name hname
  obtain ⟨hmem, hcounted⟩ := List.mem_filter.mp hname
  have hup : ".." ∉ p.segments := (Path.downward_iff.mp h).2.2
  have hskip : Path.skipped name = false := by simpa using hcounted
  simp only [Path.skipped, Bool.or_eq_false_iff, decide_eq_false_iff_not] at hskip
  exact ⟨hskip.1, hskip.2, fun he => hup (he ▸ hmem), Path.slash_not_mem_segment hmem⟩

namespace FileTree

/-- A place for a file: the folders on the way are there, and none stands in its place. -/
structure FilePlace (t : FileTree) (folder : Location) (names : List String) : Prop where
  onWay : ∀ front, front <+: names → front ≠ names → t.node? (folder ++ front) = some .folder
  free : t.node? (folder ++ names) ≠ some .folder

variable {t t' : FileTree} {base child path parent : Path} {folder loc dest : Location}
  {name : String} {body names segments : List String} {links left : Nat}
  {files : List (Location × ByteArray)} {content : ByteArray}

/-! ## What was written before -/

/-- Only the folders count. -/
theorem FilePlace.congr (h : t.FilePlace folder names)
    (hsame : ∀ loc, t'.node? loc = some .folder ↔ t.node? loc = some .folder) :
    t'.FilePlace folder names where
  onWay front hfront hne := (hsame _).mpr (h.onWay front hfront hne)
  free hfolder := h.free ((hsame _).mp hfolder)

/-- A file that was written has a place, now and without what clearing takes. -/
theorem Written.filePlace (hw : Written folder files t t')
    (hfolder : t'.node? folder = some .folder) (hmem : (folder ++ names, content) ∈ files) :
    t'.FilePlace folder names where
  onWay front hfront hne := by
    cases front with
    | nil => simpa using hfolder
    | cons first rest =>
      have hstart := (List.prefix_append_right_inj folder).mpr hfront
      exact hw.onWay _ (below_append (by simp))
        ⟨_, hmem, hstart, fun he => hne (List.append_cancel_left he)⟩
  free := by
    obtain ⟨last, hlast⟩ := exists_lastContent? hmem
    simp [hw.file _ _ hlast]

/-- Writing the same files again into what clearing leaves of them changes nothing. -/
theorem Written.node?_again {mid mid' last : FileTree} (hw : Written folder files mid t)
    (hbare : mid.Bare folder) (hw' : Written folder files mid' last)
    (hmid : ∀ loc, mid'.node? loc = (t.cleared folder).node? loc) (loc : Location) :
    last.node? loc = t.node? loc := by
  rcases hw.node_cases loc with
    ⟨content, hlast, hfile⟩ | ⟨hlast, ⟨hbelow, hway, hfolder⟩ | ⟨hway, hsame⟩⟩
  · rw [hfile]
    exact hw'.file loc content hlast
  · rw [hfolder]
    exact hw'.onWay loc hbelow hway
  · rw [hw'.frame loc hlast hway, hmid, node?_cleared]
    split
    · next hgone =>
      -- what is neither written nor a folder was not there before either
      cases hn : t.node? loc with
      | none => rfl
      | some node =>
        have hfolder : node = .folder := hbare loc node hgone.1 (hsame.symm.trans hn)
        rw [hfolder] at hn
        rw [isFolderAt_iff.mpr hn] at hgone
        exact absurd hgone.2 (by simp)
    · rfl

theorem node?_put_file_eq_folder_iff (hfree : t.node? dest ≠ some .folder) (other : Location) :
    (t.put dest (.file content)).node? other = some .folder ↔ t.node? other = some .folder := by
  have hne : dest ≠ [] := by
    rintro rfl
    exact hfree rfl
  rw [node?_put t other _ hne]
  split
  · next hother => simp [hother, hfree]
  · exact Iff.rfl

/-! ## Straight down -/

/-- Names lead straight down through folders that are there. -/
theorem leads_names (links : Nat) (hup : ".." ∉ segments)
    (hshort : ∀ name ∈ Path.counted segments, name.utf8ByteSize ≤ maxNameBytes)
    (hfolders : ∀ front, front <+: Path.counted segments → t.node? (loc ++ front) = some .folder) :
    t.Leads links loc segments links (loc ++ Path.counted segments) := by
  induction segments generalizing loc with
  | nil => simpa [Path.counted] using Leads.done links loc
  | cons segment rest ih =>
    rw [List.mem_cons, not_or] at hup
    have hfolder : t.node? loc = some .folder := by simpa using hfolders [] (List.nil_prefix)
    cases hskip : Path.skipped segment with
    | true =>
      have hcounted : Path.counted (segment :: rest) = Path.counted rest := by
        simp [Path.counted, hskip]
      rw [hcounted] at hshort hfolders ⊢
      exact .skip hfolder hskip (ih hup.2 hshort hfolders)
    | false =>
      have hcounted : Path.counted (segment :: rest) = segment :: Path.counted rest := by
        simp [Path.counted, hskip]
      rw [hcounted] at hshort hfolders ⊢
      have hinner : t.node? (loc ++ [segment]) = some .folder :=
        hfolders [segment] (List.prefix_append [segment] _)
      have hway : ∀ front, front <+: Path.counted rest →
          t.node? ((loc ++ [segment]) ++ front) = some .folder := by
        intro front hfront
        rw [List.append_assoc]
        exact hfolders (segment :: front) (List.cons_prefix_cons.mpr ⟨rfl, hfront⟩)
      have hrest := ih hup.2 (fun n hn => hshort n (List.mem_cons_of_mem _ hn)) hway
      rw [List.append_assoc] at hrest
      refine .name hfolder ⟨hskip, Ne.symm hup.1, hshort segment List.mem_cons_self⟩ ?_ hrest
      intro target hlink
      rw [hinner] at hlink
      cases hlink

/-! ## Folders that are there -/

theorem checkPath_parent {first : String} {rest more : List String}
    (hpath : path.segments = first :: (rest ++ name :: more)) (hname : Path.skipped name = false)
    (hmore : ∀ s ∈ more, Path.skipped s = true) (hparent : path.parent? = some parent)
    (hcheck : checkPath path = .ok ()) : checkPath parent = .ok () := by
  obtain ⟨q, hq, hsegments⟩ := Path.parent?_of_segments hpath hname hmore
  rw [hparent] at hq
  cases hq
  split at hsegments
  · next hroot =>
    rw [hroot.1] at hsegments
    have htext : parent.text = "/" := by
      apply String.toList_inj.mp
      rw [parent.text_eq_intercalate, hsegments]
      rfl
    rw [checkPath_ok_iff, htext]
    decide
  · next hroot =>
    refine checkPath_of_sublist ?_ hcheck ?_
    · rw [hsegments, hpath]
      refine List.Sublist.cons_cons first ?_
      exact (List.rdropWhile_prefix _ rest).sublist.trans (List.sublist_append_left _ _)
    · intro hempty
      have hone : parent = ⟨""⟩ := Path.ext hempty
      rw [hone, Path.segments_empty] at hsegments
      obtain ⟨hfirst, hrest⟩ := List.cons.inj hsegments
      exact hroot ⟨hfirst.symm, hrest.symm⟩

/-- Making folders finds the innermost one at once. -/
theorem makeMissing_of_folder (h : t.Leads maxLinks (t.origin path.segments) path.segments left dest)
    (hdest : t.node? dest = some .folder) (hslash : withoutSlashes? path = none)
    (hcheck : checkPath path = .ok ()) (outer : List Path) :
    t.makeMissing (path :: outer) = (t, .ok ()) := by
  obtain ⟨fault, hmake, hne⟩ :=
    makeFolder_of_exists h (by rw [hdest]; rfl) hslash (text_ne_empty_of_checkPath hcheck)
  have hisFolder : t.isFolder path = true := by
    have hfind : t.find path = .ok (dest, .folder) :=
      find_ok_iff.mpr ⟨resolve_ok_iff.mpr ⟨hcheck, h.walk_target⟩, hdest⟩
    simp [isFolder, hfind]
  rw [makeMissing, hmake, hisFolder]
  split
  · rfl
  · cases fault <;> first | rfl | exact absurd rfl hne

theorem Ready.makeFolders_parent (h : t.Ready base folder)
    (hpath : path.segments = base.stem ++ (body ++ [name])) (hname : Path.skipped name = false)
    (hup : ".." ∉ body) (hcheck : checkPath path = .ok ())
    (hshort : ∀ n ∈ Path.counted body, n.utf8ByteSize ≤ maxNameBytes)
    (hfolders : ∀ front, front <+: Path.counted body → t.node? (folder ++ front) = some .folder) :
    path.parent?.elim (t, .ok ()) t.makeFolders = (t, .ok ()) := by
  cases hparent : path.parent? with
  | none => rfl
  | some parent =>
    have hparentCheck : checkPath parent = .ok () := by
      cases hstem : base.stem with
      | nil => exact absurd hstem base.stem_ne_nil
      | cons first rest =>
        have hsegments : path.segments = first :: ((rest ++ body) ++ [name]) := by
          simp [hpath, hstem]
        exact checkPath_parent hsegments hname (by simp) hparent hcheck
    rw [Option.elim_some, makeFolders, outward]
    rcases Path.skipped_or_last body with hall | ⟨before, last, skips, rfl, hlast, hskips⟩
    · obtain ⟨left, dest, hleads, hdest, hslash⟩ :=
        h.exists_leads_parent hpath hname (by simp) hall hparent
      exact makeMissing_of_folder hleads hdest hslash hparentCheck _
    · have hparentPath := segments_parent_behind hpath hname (by simp) hlast hskips hparent
      have hcounted : Path.counted (before ++ last :: skips) = Path.counted (before ++ [last]) := by
        rw [Path.counted_last hlast hskips, Path.counted_last hlast (by simp)]
      rw [hcounted] at hshort hfolders
      obtain ⟨-, left, hleads⟩ := h.leads
      have hdown : t.Leads left folder (before ++ [last]) left
          (folder ++ Path.counted (before ++ [last])) := by
        refine leads_names left ?_ hshort hfolders
        intro hmem
        apply hup
        rcases List.mem_append.mp hmem with hb | hl
        · simp [hb]
        · simp [List.mem_singleton.mp hl]
      have hall := hleads.append hdown
      rw [← origin_of_segments hparentPath, ← hparentPath] at hall
      have hslash : withoutSlashes? parent = none := by
        rw [← List.append_assoc] at hparentPath
        refine withoutSlashes?_eq_none hparentPath ?_
        rintro rfl
        exact absurd hlast (by decide)
      exact makeMissing_of_folder hall (hfolders _ (List.prefix_refl _)) hslash hparentCheck _

/-! ## Files -/

theorem Ready.resolve_writable (h : t.Ready base folder)
    (hpath : path.segments = base.stem ++ (body ++ [name])) (hname : Path.skipped name = false)
    (hup : ".." ∉ body ++ [name]) (hcheck : checkPath path = .ok ())
    (hshort : ∀ n ∈ Path.counted body ++ [name], n.utf8ByteSize ≤ maxNameBytes)
    (hfolders : ∀ front, front <+: Path.counted body → t.node? (folder ++ front) = some .folder) :
    t.resolve .writable path = .ok (folder ++ (Path.counted body ++ [name])) := by
  simp only [List.mem_append, List.mem_singleton, not_or] at hup
  refine resolve_ok_iff.mpr ⟨hcheck, ?_⟩
  obtain ⟨left, hwalk⟩ := h.leads.walk_behind hpath ⟨name, by simp, hname⟩ .writable
  have hdown := leads_names left hup.1 (fun n hn => hshort n (by simp [hn])) hfolders
  rw [hwalk, hdown.walk_append (Or.inr ⟨name, by simp, hname⟩),
    walk_name (hfolders _ (List.prefix_refl _)) hname (Ne.symm hup.2), if_neg (by simp),
    if_neg (Nat.not_lt.mpr (hshort name (by simp)))]
  split
  · next target hlink =>
    rw [List.append_assoc] at hlink
    exact absurd hlink (h.noLinks _ (below_append (by simp)) target)
  · rw [walk_nil, List.append_assoc]

/-- **Writing succeeds.** -/
theorem Ready.write_ok (h : t.Ready base folder) (hwritable : Writable base child)
    (hdown : child.Downward) (hplace : t.FilePlace folder child.names) (text : String) :
    t.write (base.join child) text =
      (t.put (folder ++ child.names) (.file text.toUTF8), .ok ()) := by
  obtain ⟨body, name, hchild, hname⟩ := hwritable.last
  have hjoin := Path.segments_join h.leads.1 hdown.isAbsolute
  have hup : ".." ∉ child.segments := (Path.downward_iff.mp hdown).2.2
  have hnames : child.names = Path.counted body ++ [name] := by
    rw [Path.names, hchild, Path.counted_last hname (by simp)]
  have hshort := hwritable.short
  obtain ⟨hfolders, hfree⟩ := hplace
  rw [hnames] at hshort hfolders hfree ⊢
  rw [hchild] at hjoin hup
  have hway : ∀ front, front <+: Path.counted body → t.node? (folder ++ front) = some .folder := by
    intro front hfront
    refine hfolders front (hfront.trans (List.prefix_append _ _)) ?_
    rintro rfl
    have hlength := hfront.length_le
    simp at hlength
  have hmake := h.makeFolders_parent hjoin hname (fun hmem => hup (by simp [hmem]))
    hwritable.check (fun n hn => hshort n (by simp [hn])) hway
  have hresolve := h.resolve_writable hjoin hname hup hwritable.check hshort hway
  have hover : t.overwrite (base.join child) text.toUTF8 =
      .ok (t.put (folder ++ (Path.counted body ++ [name])) (.file text.toUTF8)) := by
    rw [FileTree.overwrite, hresolve]
    cases hn : t.node? (folder ++ (Path.counted body ++ [name])) with
    | none => simp [bind, Except.bind, hn]
    | some node =>
      cases node with
      | folder => exact absurd hn hfree
      | file content => simp [bind, Except.bind, hn]
      | link target => simp [bind, Except.bind, hn]
  rw [FileTree.write, writeBytes, hmake]
  simp only [hover]

/-! ## Tidy trees -/

section Puts

/-! A property that putting something anywhere but at the root keeps. -/

variable {Q : FileTree → Prop}
  (hput : ∀ {t : FileTree} {loc : Location} (node : Node), loc ≠ [] → Q t → Q (t.put loc node))
include hput

theorem keeps_makeFolder (ht : Q t) (h : t.makeFolder path = .ok t') : Q t' := by
  obtain ⟨loc, -, hnone, rfl⟩ := makeFolder_ok h
  refine hput .folder ?_ ht
  rintro rfl
  cases hnone

theorem keeps_makeMissing (ht : Q t) (paths : List Path) : Q (t.makeMissing paths).1 := by
  induction paths with
  | nil => exact ht
  | cons path outer ih =>
    rcases makeMissing_cons t path outer with hsame | ⟨-, hnew⟩ | ⟨-, -, -, hsame | hnew⟩
    · rw [hsame]
      exact ht
    · exact keeps_makeFolder hput ht hnew
    · rw [hsame]
      exact ih
    · exact keeps_makeFolder hput ih hnew

theorem keeps_write {text : String} (ht : Q t) (h : t.write path text = (t', .ok ())) : Q t' := by
  obtain ⟨loc, -, hfolder, rfl⟩ := overwrite_ok (writeBytes_ok h)
  refine hput _ ?_ ?_
  · rintro rfl
    exact hfolder rfl
  · cases path.parent? with
    | none => exact ht
    | some parent => exact keeps_makeMissing hput ht _

end Puts

theorem occurrences_put (t : FileTree) (loc other : Location) (node : Node) :
    (t.put loc node).occurrences other = if other = loc then 1 else t.occurrences other := by
  unfold occurrences put
  rw [List.countP_append, List.countP_filter]
  by_cases hother : other = loc
  · have hnone : (t.entries.countP fun e => decide (e.1 = other) && decide (e.1 ≠ loc)) = 0 := by
      simp [hother]
    rw [hnone, if_pos hother]
    simp [hother]
  · have hsame : (t.entries.countP fun e => decide (e.1 = other) && decide (e.1 ≠ loc)) =
        t.entries.countP fun e => decide (e.1 = other) := by
      refine List.countP_congr fun e _ => ?_
      simp only [Bool.and_eq_true, decide_eq_true_eq, and_iff_left_iff_imp]
      rintro rfl
      exact hother
    rw [hsame, if_neg hother]
    simp [Ne.symm hother]

theorem wellFormed_of_closed (hclosed : t.Closed) (hroot : ∀ e ∈ t.entries, e.1 ≠ [])
    (hproper : ∀ loc, (t.node? loc).isSome = true → ∀ name ∈ loc, ProperName name) :
    t.WellFormed where
  parent e he := by
    refine ⟨hroot e he, isFolderAt_iff.mpr ?_⟩
    have hsome := node?_isSome_of_mem he
    rcases List.eq_nil_or_concat' e.1 with hnil | ⟨front, name, hloc⟩
    · exact absurd hnil (hroot e he)
    · rw [hloc] at hsome ⊢
      rw [List.dropLast_concat]
      exact hclosed front name hsome
  proper e he := hproper e.1 (node?_isSome_of_mem he)

/-- Writing files at proper names brings no others. -/
theorem Written.proper (hw : Written folder files t t')
    (hfiles : ∀ f ∈ files, ∀ name ∈ f.1, ProperName name)
    (ht : ∀ loc, (t.node? loc).isSome = true → ∀ name ∈ loc, ProperName name) :
    ∀ loc, (t'.node? loc).isSome = true → ∀ name ∈ loc, ProperName name := by
  intro loc hsome
  rcases hw.node_cases loc with ⟨content, hlast, -⟩ | ⟨-, ⟨-, ⟨f, hf, hway⟩, -⟩ | ⟨-, hsame⟩⟩
  · exact hfiles _ (mem_of_lastContent? hlast)
  · exact fun name hname => hfiles f hf name (hway.1.subset hname)
  · exact ht loc (hsame ▸ hsome)

/-- A write below a folder without links keeps a tree tidy. -/
theorem Tidy.write (htidy : t.Tidy folder) (h : t.Ready base folder) (hdown : child.Downward)
    {text : String} (hrun : t.write (base.join child) text = (t', .ok ())) : t'.Tidy folder := by
  obtain ⟨hwf, hdistinct⟩ := htidy
  obtain ⟨-, -, -, hclosed⟩ := FileTree.write_ok hwf.closed hrun
  have hproper : ∀ loc, (t.node? loc).isSome = true → ∀ name ∈ loc, ProperName name := by
    intro loc hsome
    obtain ⟨node, hnode⟩ := Option.isSome_iff_exists.mp hsome
    exact hwf.proper_of_node? hnode
  refine ⟨wellFormed_of_closed hclosed ?_ ?_, ?_⟩
  · refine keeps_write (Q := fun t => ∀ e ∈ t.entries, e.1 ≠ []) ?_ (fun e he => (hwf.parent e he).1)
      hrun
    intro t loc node hne ht e he
    rcases List.mem_append.mp he with hold | hnew
    · exact ht e (List.mem_of_mem_filter hold)
    · rw [List.mem_singleton.mp hnew]
      exact hne
  · refine (h.write hdown hrun).proper ?_ hproper
    rintro f hf name hname
    rw [List.mem_singleton.mp hf] at hname
    rcases List.mem_append.mp hname with hold | hnew
    · exact hwf.proper_of_node? h.isFolder name hold
    · exact hdown.proper name hnew
  · refine keeps_write (Q := fun t => ∀ loc, Below folder loc → t.node? loc ≠ some .folder →
      t.occurrences loc ≤ 1) ?_ hdistinct hrun
    intro t loc node hne ht other hbelow hno
    rw [node?_put t other node hne] at hno
    rw [occurrences_put]
    split
    · exact Nat.le_refl 1
    · next hother =>
      rw [if_neg hother] at hno
      exact ht other hbelow hno

end FileTree

end TableForge
