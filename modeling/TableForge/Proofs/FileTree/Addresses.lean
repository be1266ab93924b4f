import Mathlib.Data.String.Basic
import TableForge.Proofs.FileTree.Clearing
import TableForge.Proofs.FileTree.Writing

/-!
# Addresses that are short enough

A path that asks for something has to pass a test of its text: it is not empty, has no null
character and is not too long; and no name in it is too long. Leaving segments out of a path that
passes gives one that passes. So what was addressed once below a folder, to be written or removed,
can be addressed again, also by the shortest path, which puts nothing but the names behind the path
of the folder.
-/
namespace TableForge

namespace Path

theorem text_eq_intercalate (p : Path) :
    p.text.toList = ['/'].intercalate (p.segments.map String.toList) := by
  have hsegments : p.segments.map String.toList = Text.splitOn ['/'] p.text.toList := by
    simp [segments, Function.comp_def]
  rw [hsegments, Text.intercalate_splitOn]

end Path

theorem sublist_intercalate {α : Type} {separator : List α} {a b : List (List α)}
    (h : a.Sublist b) (hne : a ≠ []) :
    (separator.intercalate a).Sublist (separator.intercalate b) := by
  induction h with
  | slnil => exact absurd rfl hne
  | @cons a b part h ih =>
    cases b with
    | nil => exact absurd (List.sublist_nil.mp h) hne
    | cons next rest =>
      rw [List.intercalate_cons_cons]
      exact (ih hne).trans (List.sublist_append_right _ _)
  | @cons_cons a b part h ih =>
    cases a with
    | nil =>
      cases b with
      | nil => exact List.Sublist.refl _
      | cons next rest =>
        rw [List.intercalate_singleton, List.intercalate_cons_cons, List.append_assoc]
        exact List.sublist_append_left _ _
    | cons first more =>
      cases b with
      | nil => cases h
      | cons next rest =>
        rw [List.intercalate_cons_cons, List.intercalate_cons_cons]
        exact (List.Sublist.refl _).append (ih (by simp))

namespace FileTree

theorem checkPath_ok_iff {path : Path} :
    checkPath path = .ok () ↔ '\x00' ∉ path.text.toList ∧ path.text ≠ "" ∧
      path.text.utf8ByteSize ≤ maxPathBytes := by
  unfold checkPath
  split
  · next h => simp_all
  · next h =>
    split
    · next he => simp [he]
    · next he =>
      split
      · next hl => simp; omega
      · next hl => simp_all

theorem checkPath_of_sublist {path other : Path} (h : path.segments.Sublist other.segments)
    (hother : checkPath other = .ok ()) (hpath : path.text ≠ "") : checkPath path = .ok () := by
  have htext : path.text.toList.Sublist other.text.toList := by
    rw [path.text_eq_intercalate, other.text_eq_intercalate]
    exact sublist_intercalate (h.map _) (by simp [path.segments_ne_nil])
  obtain ⟨hnull, -, hlength⟩ := checkPath_ok_iff.mp hother
  refine checkPath_ok_iff.mpr ⟨fun hmem => hnull (htext.subset hmem), hpath, ?_⟩
  have hsize := String.utf8Len_le_of_sublist htext
  rw [← String.utf8ByteSize_ofList, ← String.utf8ByteSize_ofList, String.ofList_toList,
    String.ofList_toList] at hsize
  exact hsize.trans hlength

/-- Names that can be addressed below a path: putting them behind it makes no path that is too long,
for a path with these segments and more has passed, and none of the names is too long. -/
structure Addressable (base : Path) (names : List String) : Prop where
  path : ∃ longer : Path, checkPath longer = .ok () ∧ (base.stem ++ names).Sublist longer.segments
  short : ∀ name ∈ names, name.utf8ByteSize ≤ maxNameBytes

/-- What a path must be like for a file to be written there below a folder. -/
structure Writable (base child : Path) : Prop where
  check : checkPath (base.join child) = .ok ()
  short : ∀ name ∈ child.names, name.utf8ByteSize ≤ maxNameBytes
  last : ∃ body name, child.segments = body ++ [name] ∧ Path.skipped name = false

variable {t t' mid mid' : FileTree} {base child path : Path} {folder loc dest : Location}
  {name : String} {names segments : List String} {links left : Nat}
  {arrange : Location → List String → List String}

theorem Addressable.of_isPrefix {fewer : List String} (h : Addressable base names)
    (hfewer : fewer <+: names) : Addressable base fewer := by
  obtain ⟨longer, hcheck, hsub⟩ := h.path
  refine ⟨⟨longer, hcheck, ?_⟩, fun name hname => h.short name (hfewer.subset hname)⟩
  exact ((List.Sublist.refl _).append hfewer.sublist).trans hsub

theorem Addressable.checkPath (h : Addressable base names)
    (hpath : path.segments = base.stem ++ names) (hne : path.text ≠ "") :
    FileTree.checkPath path = .ok () := by
  obtain ⟨longer, hcheck, hsub⟩ := h.path
  exact checkPath_of_sublist (hpath ▸ hsub) hcheck hne

/-! ## What was written -/

/-- Below a folder without links every name that was looked up is short enough. -/
theorem Leads.short (h : t.Leads links loc segments left dest) (hlinks : t.NoLinksBelow loc)
    (hup : ".." ∉ segments) : ∀ name ∈ Path.counted segments, name.utf8ByteSize ≤ maxNameBytes := by
  induction h with
  | done => simp [Path.counted]
  | @skip links left loc dest segment rest hfolder hskip hrest ih =>
    rw [List.mem_cons, not_or] at hup
    have hcounted : Path.counted (segment :: rest) = Path.counted rest := by
      simp [Path.counted, hskip]
    rw [hcounted]
    exact ih hlinks hup.2
  | up => exact absurd List.mem_cons_self hup
  | @name links left loc dest segment rest hfolder hname hnode hrest ih =>
    rw [List.mem_cons, not_or] at hup
    have hcounted : Path.counted (segment :: rest) = segment :: Path.counted rest := by
      simp [Path.counted, hname.1]
    rw [hcounted]
    exact List.forall_mem_cons.mpr ⟨hname.2.2, ih (hlinks.step segment) hup.2⟩
  | link hfolder hname hnode => exact absurd hnode (hlinks _ (below_append (by simp)) _)

theorem Ready.writable (h : t.Ready base folder) (hdown : child.Downward) {text : String}
    (hrun : t.write (base.join child) text = (t', .ok ())) : Writable base child := by
  obtain ⟨mid, body, name, more, hchild, hname, hmore, hadds, hover⟩ := h.exists_overwrite hdown hrun
  have hmid := h.addsFolders hadds
  have hjoin := Path.segments_join h.leads.1 hdown.isAbsolute
  obtain ⟨loc, hresolve, hnode, -⟩ := overwrite_ok hover
  obtain ⟨hcheck, hwalk⟩ := resolve_ok_iff.mp hresolve
  obtain ⟨left, hbehind⟩ := hmid.leads.walk_behind hjoin ⟨name, by simp [hchild], hname⟩ .writable
  rw [hbehind] at hwalk
  obtain ⟨rest, hleads⟩ := exists_leads_of_walk (by decide) hwalk
  refine ⟨hcheck, hleads.short hmid.noLinks (Path.downward_iff.mp hdown).2.2, body, name, ?_, hname⟩
  -- anything behind the last name would need a folder in the place of the file
  have hcut : mid.Leads left folder ((body ++ [name]) ++ more) rest loc := by
    rw [hchild] at hleads
    simpa using hleads
  obtain ⟨between, place, -, hrest⟩ := hcut.split
  obtain ⟨rfl, -⟩ := hrest.of_skipped hmore
  rcases hrest.folder_or_nil with ⟨rfl, -⟩ | hfolder
  · exact hchild
  · exact absurd hfolder hnode

theorem Writable.addressable (h : Writable base child) (hbase : base.text ≠ "")
    (hdown : child.Downward) : Addressable base child.names := by
  refine ⟨⟨base.join child, h.check, ?_⟩, h.short⟩
  rw [Path.segments_join hbase hdown.isAbsolute]
  exact (List.Sublist.refl _).append List.filter_sublist

end FileTree

end TableForge
