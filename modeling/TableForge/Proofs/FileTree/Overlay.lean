import TableForge.Proofs.FileTree.Writing

/-!
# Writing anywhere

A path may lead through links to any place of a tree. What a write does there is told for every
path: the file is put where the path leads, folders may be new, and everything else is as it was. A
write that fails has made folders at most. For a file to be found again at its path it must not take
the place of a link, which a walk over links never does; only going up could end at one, and not in
a tree in which everything stands in a folder.
-/
namespace TableForge.FileTree

/-- Everything stands in a folder. -/
def Closed (t : FileTree) : Prop :=
  ∀ loc name, (t.node? (loc ++ [name])).isSome = true → t.node? loc = some .folder

/-- What a walk can end at: a folder, or a place in a folder where a walk stops. -/
def Reached (t : FileTree) (last : LastName) (loc : Location) : Prop :=
  t.node? loc = some .folder ∨
    ∃ parent name, loc = parent ++ [name] ∧ t.node? parent = some .folder ∧
      (last = .itself ∨ ∀ target, t.node? loc ≠ some (.link target))

/-- A tree with files laid over it: every location has the file that was put there last, and where
there was nothing there may be a folder. -/
structure Overlaid (files : List (Location × ByteArray)) (before after : FileTree) : Prop where
  kept : Extends before after
  file : ∀ loc content, lastContent? files loc = some content →
    after.node? loc = some (.file content)
  frame : ∀ loc, lastContent? files loc = none → after.node? loc = before.node? loc ∨
    (before.node? loc = none ∧ after.node? loc = some .folder)

variable {t t' mid : FileTree} {last : LastName} {links : Nat} {loc found parent : Location}
  {name : String} {segments : List String} {path : Path}

/-! ## Trees in which everything stands in a folder -/

theorem WellFormed.closed (h : t.WellFormed) : t.Closed := by
  intro loc name hsome
  obtain ⟨node, hnode⟩ := Option.isSome_iff_exists.mp hsome
  exact h.folder_above hnode (below_append (by simp))

namespace Closed

theorem congr (h : t.Closed) (hsame : ∀ loc, t'.node? loc = t.node? loc) : t'.Closed := by
  intro loc name hsome
  rw [hsame] at hsome ⊢
  exact h loc name hsome

theorem cleared (h : t.Closed) (folder : Location) : (t.cleared folder).Closed := by
  intro loc name hsome
  obtain ⟨node, hnode⟩ := Option.isSome_iff_exists.mp hsome
  exact isFolder_cleared (h loc name (by rw [node?_of_node?_cleared hnode]; rfl))

theorem dropLast (h : t.Closed) (hloc : t.node? loc = some .folder) :
    t.node? loc.dropLast = some .folder := by
  rcases List.eq_nil_or_concat' loc with rfl | ⟨parent, name, rfl⟩
  · rfl
  · rw [List.dropLast_concat]
    exact h parent name (by rw [hloc]; rfl)

/-- Something may be put into a folder, though not in the place of a folder. -/
theorem put (h : t.Closed) {node : Node} (hparent : t.node? parent = some .folder)
    (hfree : t.node? (parent ++ [name]) ≠ some .folder) :
    (t.put (parent ++ [name]) node).Closed := by
  have hne : parent ++ [name] ≠ [] := by simp
  intro other inner hsome
  rw [node?_put t _ node hne] at hsome
  have hother : t.node? other = some .folder := by
    split at hsome
    · next hsame =>
      rw [(List.append_inj' hsame rfl).1]
      exact hparent
    · exact h other inner hsome
  rw [node?_put t other node hne, if_neg, hother]
  rintro rfl
  exact hfree hother

end Closed

/-! ## Where walks end -/

theorem reached_of_follow (hclosed : t.Closed)
    (hfollow : ∀ {loc found : Location} {segments : List String}, segments ≠ [] →
      t.followLink last links loc segments = .ok found → t.Reached last found)
    (hstart : t.Reached last loc) (h : t.walk last links loc segments = .ok found) :
    t.Reached last found := by
  induction segments generalizing loc with
  | nil =>
    rw [walk_nil] at h
    cases h
    exact hstart
  | cons segment rest ih =>
    have hfolder := folder_of_walk h
    cases hskip : Path.skipped segment with
    | true =>
      rw [walk_skip hfolder hskip] at h
      exact ih hstart h
    | false =>
      by_cases hup : segment = ".."
      · rw [hup, walk_up hfolder] at h
        exact ih (Or.inl (hclosed.dropLast hfolder)) h
      · rw [walk_name hfolder hskip hup] at h
        split at h
        · cases h
        · split at h
          · cases h
          · split at h
            · split at h
              · next hlast =>
                cases h
                exact Or.inr ⟨loc, segment, rfl, hfolder, Or.inl hlast.2⟩
              · exact hfollow (by simp [Path.segments_ne_nil]) h
            · next hnode => exact ih (Or.inr ⟨loc, segment, rfl, hfolder, Or.inr hnode⟩) h

/-- By induction on the links that may still be followed. -/
theorem reached_of_walk (hclosed : t.Closed) (hsegments : segments ≠ [])
    (h : t.walk last links loc segments = .ok found) : t.Reached last found := by
  induction links generalizing loc segments found with
  | zero =>
    obtain ⟨first, rest, rfl⟩ := List.exists_cons_of_ne_nil hsegments
    refine reached_of_follow hclosed ?_ (Or.inl (folder_of_walk h)) h
    intro loc found segments _ hf
    cases hf
  | succ links ih =>
    obtain ⟨first, rest, rfl⟩ := List.exists_cons_of_ne_nil hsegments
    refine reached_of_follow hclosed ?_ (Or.inl (folder_of_walk h)) h
    intro loc found segments hne hf
    exact ih hne hf

theorem reached_of_resolve (hclosed : t.Closed) (h : t.resolve last path = .ok found) :
    t.Reached last found :=
  reached_of_walk hclosed path.segments_ne_nil (resolve_ok_iff.mp h).2

/-! ## Files laid over a tree -/

namespace Overlaid

variable {files a b : List (Location × ByteArray)} {x y z : FileTree}

theorem refl (t : FileTree) : Overlaid [] t t where
  kept := Extends.refl t
  file loc content h := by cases h
  frame _ _ := Or.inl rfl

theorem append (h : Overlaid a x y) (h' : Overlaid b y z) : Overlaid (a ++ b) x z where
  kept := h.kept.trans h'.kept
  file loc content hlast := by
    rw [lastContent?_append] at hlast
    cases hb : lastContent? b loc with
    | some last =>
      rw [hb] at hlast
      cases hlast
      exact h'.file loc _ hb
    | none =>
      rw [hb] at hlast
      have hy := h.file loc content hlast
      rcases h'.frame loc hb with hsame | ⟨hnone, -⟩
      · exact hsame.trans hy
      · rw [hy] at hnone
        cases hnone
  frame loc hnone := by
    rw [lastContent?_append, Option.or_eq_none_iff] at hnone
    rcases h'.frame loc hnone.1 with hsame | ⟨hgap, hfolder⟩
    · rw [hsame]
      exact h.frame loc hnone.2
    · rcases h.frame loc hnone.2 with hsame' | ⟨-, hfolder'⟩
      · exact Or.inr ⟨hsame' ▸ hgap, hfolder⟩
      · rw [hfolder'] at hgap
        cases hgap

theorem trans (h : Overlaid [] x y) (h' : Overlaid files y z) : Overlaid files x z :=
  h.append h'

/-- Only the view of the tree below counts. -/
theorem congr (h : Overlaid files x z) (hhere : y.here = x.here)
    (hsame : ∀ loc, y.node? loc = x.node? loc) : Overlaid files y z where
  kept := ⟨hhere.trans h.kept.here, fun loc n hn => h.kept.node loc n (hsame loc ▸ hn)⟩
  file := h.file
  frame loc hnone := by
    rw [hsame]
    exact h.frame loc hnone

end Overlaid

theorem overlaid_put_folder (hnone : t.node? loc = none) : Overlaid [] t (t.put loc .folder) := by
  have hne : loc ≠ [] := by
    rintro rfl
    cases hnone
  refine ⟨⟨rfl, ?_⟩, by simp [lastContent?], ?_⟩
  · intro other n hn
    refine ⟨n, ?_, .refl n⟩
    rw [node?_put t other _ hne, if_neg, hn]
    rintro rfl
    rw [hnone] at hn
    cases hn
  · intro other _
    rw [node?_put t other _ hne]
    split
    · next hother => exact Or.inr ⟨hother ▸ hnone, rfl⟩
    · exact Or.inl rfl

theorem overlaid_put_file {content : ByteArray} (hfolder : t.node? loc ≠ some .folder)
    (hlink : ∀ target, t.node? loc ≠ some (.link target)) :
    Overlaid [(loc, content)] t (t.put loc (.file content)) := by
  have hne : loc ≠ [] := by
    rintro rfl
    exact hfolder rfl
  refine ⟨extends_put_file hne hfolder hlink, ?_, ?_⟩
  · intro other text hlast
    rw [lastContent?_singleton] at hlast
    split at hlast
    · next hother =>
      cases hlast
      rw [node?_put t other _ hne, if_pos hother]
    · cases hlast
  · intro other hlast
    rw [lastContent?_singleton] at hlast
    rw [node?_put t other _ hne, if_neg]
    · exact Or.inl rfl
    · intro hother
      rw [if_pos hother] at hlast
      cases hlast

/-! ## Folders on the way -/

/-- A tree and the same tree with new folders, which stand in folders if everything did. -/
structure Makes (before after : FileTree) : Prop where
  overlaid : Overlaid [] before after
  closed : before.Closed → after.Closed

theorem Makes.refl (t : FileTree) : Makes t t := ⟨Overlaid.refl t, id⟩

theorem Makes.trans {x y z : FileTree} (h : Makes x y) (h' : Makes y z) : Makes x z :=
  ⟨h.overlaid.trans h'.overlaid, fun hclosed => h'.closed (h.closed hclosed)⟩

theorem makes_makeFolder (h : t.makeFolder path = .ok t') : Makes t t' := by
  obtain ⟨loc, hresolve, hnone, rfl⟩ := makeFolder_ok h
  refine ⟨overlaid_put_folder hnone, ?_⟩
  intro hclosed
  rcases reached_of_resolve hclosed hresolve with hfolder | ⟨parent, name, rfl, hparent, -⟩
  · rw [hnone] at hfolder
    cases hfolder
  · exact hclosed.put hparent (by simp [hnone])

theorem makes_makeMissing (t : FileTree) (paths : List Path) : Makes t (t.makeMissing paths).1 := by
  induction paths with
  | nil => exact Makes.refl t
  | cons path outer ih =>
    rcases makeMissing_cons t path outer with hsame | ⟨-, hnew⟩ | ⟨-, -, -, hsame | hnew⟩
    · rw [hsame]
      exact Makes.refl t
    · exact makes_makeFolder hnew
    · rw [hsame]
      exact ih
    · exact ih.trans (makes_makeFolder hnew)

theorem makes_parent (t : FileTree) (path : Path) :
    Makes t (path.parent?.elim (t, .ok ()) t.makeFolders).1 := by
  cases path.parent? with
  | none => exact Makes.refl t
  | some parent => exact makes_makeMissing t _

/-! ## Writes -/

theorem writeBytes_error {content : ByteArray} {fault : FileFault}
    (h : t.writeBytes path content = (t', .error fault)) :
    t' = (path.parent?.elim (t, .ok ()) t.makeFolders).1 := by
  unfold writeBytes at h
  rcases hm : path.parent?.elim (t, .ok ()) t.makeFolders with ⟨mid, fault' | u⟩
  · rw [hm] at h
    cases h
    rw [hm]
  · rw [hm] at h
    cases ho : mid.overwrite path content with
    | error fault' =>
      simp only [ho] at h
      cases h
      rw [hm]
    | ok after =>
      simp only [ho] at h
      cases h

/-- A write that fails has made folders at most. -/
theorem write_error {text : String} {fault : FileFault}
    (h : t.write path text = (t', .error fault)) : Overlaid [] t t' := by
  rw [writeBytes_error h]
  exact (makes_parent t path).overlaid

/-- A path that leads somewhere leads there in a tree that has more, unless a link is new there. -/
theorem find_of_resolve {node : Node} (hresolve : t.resolve last path = .ok loc)
    (hlast : last ≠ .itself) (hext : Extends t t') (hnode : t'.node? loc = some node)
    (hlink : ∀ target, t'.node? loc = some (.link target) → (t.node? loc).isSome = true) :
    t'.find path = .ok (loc, node) := by
  obtain ⟨hcheck, hwalk⟩ := resolve_ok_iff.mp hresolve
  obtain ⟨left, hleads⟩ := exists_leads_of_walk hlast hwalk
  have horigin : t'.origin path.segments = t.origin path.segments := by
    rw [origin, origin, hext.here]
  refine find_ok_iff.mpr ⟨resolve_ok_iff.mpr ⟨hcheck, ?_⟩, hnode⟩
  rw [horigin]
  exact (hleads.grow hext hlink).walk_target

/-- A file is found again when more has been written. -/
theorem find_file_mono {content : ByteArray} (hext : Extends t t')
    (h : t.find path = .ok (loc, .file content)) :
    ∃ last, t'.find path = .ok (loc, .file last) := by
  obtain ⟨hresolve, hnode⟩ := find_ok_iff.mp h
  obtain ⟨node, hnode', halike⟩ := hext.node loc _ hnode
  cases node with
  | folder => cases halike
  | link target => cases halike
  | file last =>
    exact ⟨last, find_of_resolve hresolve (by decide) hext hnode' (by simp [hnode])⟩

/-- **A write puts a file where its path leads.** From there on the path leads to this file. -/
theorem write_ok {text : String} (hclosed : t.Closed) (h : t.write path text = (t', .ok ())) :
    ∃ loc, t'.find path = .ok (loc, .file text.toUTF8) ∧ Overlaid [(loc, text.toUTF8)] t t' ∧
      t'.Closed := by
  have hmakes := makes_parent t path
  obtain ⟨loc, hresolve, hfolder, rfl⟩ := overwrite_ok (writeBytes_ok h)
  generalize (path.parent?.elim (t, .ok ()) t.makeFolders).1 = mid at hmakes hresolve hfolder ⊢
  have hmid := hmakes.closed hclosed
  obtain ⟨parent, name, rfl, hparent, hlink⟩ :=
    (reached_of_resolve hmid hresolve).resolve_left hfolder
  have hput := @overlaid_put_file mid (parent ++ [name]) text.toUTF8 hfolder
    (hlink.resolve_left (by decide))
  have hfile : (mid.put (parent ++ [name]) (.file text.toUTF8)).node? (parent ++ [name]) =
      some (.file text.toUTF8) := by
    rw [node?_put mid _ _ (by simp), if_pos rfl]
  refine ⟨_, ?_, hmakes.overlaid.trans hput, hmid.put hparent hfolder⟩
  refine find_of_resolve hresolve (by decide) hput.kept hfile ?_
  intro target hlink
  rw [hfile] at hlink
  cases hlink

end TableForge.FileTree
