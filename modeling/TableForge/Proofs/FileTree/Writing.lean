import TableForge.Proofs.FileTree.Making

/-!
# What writing does

Files that are written below a folder without links stand where the names of their paths say, each
with the content of the last one that was written there. The folders on the way to them exist, and
everything else is as it was. This composes over lists of files, since no write leaves a link.
-/
namespace TableForge.FileTree

variable {t t' : FileTree} {base path : Path} {folder loc : Location} {name : String}
  {body : List String}

/-- The content of the last file of a list that is written at a location. -/
def lastContent? (files : List (Location × ByteArray)) (loc : Location) : Option ByteArray :=
  files.reverse.lookup loc

/-- What writing files below a folder does to a tree. -/
structure Written (folder : Location) (files : List (Location × ByteArray))
    (before after : FileTree) : Prop where
  kept : Extends before after
  below : ∀ f ∈ files, Below folder f.1
  file : ∀ loc content, lastContent? files loc = some content →
    after.node? loc = some (.file content)
  onWay : ∀ loc, Below folder loc → (∃ f ∈ files, Below loc f.1) → after.node? loc = some .folder
  frame : ∀ loc, lastContent? files loc = none →
    ¬ (Below folder loc ∧ ∃ f ∈ files, Below loc f.1) → after.node? loc = before.node? loc

theorem lastContent?_append (a b : List (Location × ByteArray)) (loc : Location) :
    lastContent? (a ++ b) loc = (lastContent? b loc).or (lastContent? a loc) := by
  rw [lastContent?, List.reverse_append, List.lookup_append]
  rfl

theorem lastContent?_singleton (loc other : Location) (content : ByteArray) :
    lastContent? [(loc, content)] other = if other = loc then some content else none := by
  rw [lastContent?, List.reverse_singleton, lookup_cons_eq_ite]
  rfl

theorem mem_of_lastContent? {files : List (Location × ByteArray)} {content : ByteArray}
    (h : lastContent? files loc = some content) : (loc, content) ∈ files := by
  obtain ⟨front, rest, hfiles, -⟩ := List.lookup_eq_some_iff.mp h
  rw [← List.mem_reverse, hfiles]
  simp

theorem exists_lastContent? {files : List (Location × ByteArray)} {content : ByteArray}
    (h : (loc, content) ∈ files) : ∃ last, lastContent? files loc = some last := by
  rw [← Option.isSome_iff_exists, lastContent?, List.lookup_isSome_iff]
  exact ⟨_, List.mem_reverse.mpr h, by simp⟩

namespace Written

variable {files a b : List (Location × ByteArray)} {x y z : FileTree}

theorem nil (folder : Location) (t : FileTree) : Written folder [] t t where
  kept := Extends.refl t
  below := by simp
  file loc content h := by cases h
  onWay loc _ h := by simp at h
  frame _ _ _ := rfl

/-- Each location is a destination, or on the way to one, or as it was. -/
theorem node_cases (h : Written folder files x y) (loc : Location) :
    (∃ content, lastContent? files loc = some content ∧ y.node? loc = some (.file content)) ∨
    (lastContent? files loc = none ∧
      ((Below folder loc ∧ (∃ f ∈ files, Below loc f.1) ∧ y.node? loc = some .folder) ∨
        (¬ (Below folder loc ∧ ∃ f ∈ files, Below loc f.1) ∧ y.node? loc = x.node? loc))) := by
  cases hlast : lastContent? files loc with
  | some content => exact Or.inl ⟨content, rfl, h.file loc content hlast⟩
  | none =>
    refine Or.inr ⟨rfl, ?_⟩
    by_cases hway : Below folder loc ∧ ∃ f ∈ files, Below loc f.1
    · exact Or.inl ⟨hway.1, hway.2, h.onWay loc hway.1 hway.2⟩
    · exact Or.inr ⟨hway, h.frame loc hlast hway⟩

theorem append (h : Written folder a x y) (h' : Written folder b y z) :
    Written folder (a ++ b) x z where
  kept := h.kept.trans h'.kept
  below := List.forall_mem_append.mpr ⟨h.below, h'.below⟩
  file loc content hlast := by
    rw [lastContent?_append] at hlast
    cases hb : lastContent? b loc with
    | some last =>
      rw [hb] at hlast
      cases hlast
      exact h'.file loc _ hb
    | none =>
      rw [hb] at hlast
      have hy := h.file loc content hlast
      rw [← hy]
      refine h'.frame loc hb ?_
      rintro ⟨hbelow, hway⟩
      -- a file of the first part is never on the way to one of the second
      obtain ⟨m, hm, halike⟩ := h'.kept.node loc _ hy
      rw [h'.onWay loc hbelow hway] at hm
      cases hm
      cases halike
  onWay loc hbelow hway := by
    obtain ⟨f, hf, hfbelow⟩ := hway
    rcases List.mem_append.mp hf with hf | hf
    · exact h'.kept.folder (h.onWay loc hbelow ⟨f, hf, hfbelow⟩)
    · exact h'.onWay loc hbelow ⟨f, hf, hfbelow⟩
  frame loc hnone hway := by
    rw [lastContent?_append, Option.or_eq_none_iff] at hnone
    rw [h'.frame loc hnone.1, h.frame loc hnone.2]
    · rintro ⟨hbelow, f, hf, hfbelow⟩
      exact hway ⟨hbelow, f, List.mem_append_left _ hf, hfbelow⟩
    · rintro ⟨hbelow, f, hf, hfbelow⟩
      exact hway ⟨hbelow, f, List.mem_append_right _ hf, hfbelow⟩

theorem ready (hw : Written folder files t t') (h : t.Ready base folder) : t'.Ready base folder := by
  refine h.grow hw.kept ?_
  intro loc hbelow target hlink
  rcases hw.node_cases loc with ⟨content, -, hnode⟩ | ⟨-, ⟨-, -, hnode⟩ | ⟨-, hsame⟩⟩
  · rw [hnode] at hlink
    cases hlink
  · rw [hnode] at hlink
    cases hlink
  · rw [hsame] at hlink
    exact h.noLinks loc hbelow target hlink

end Written

theorem overwrite_ok {content : ByteArray} (h : t.overwrite path content = .ok t') :
    ∃ loc, t.resolve .writable path = .ok loc ∧ t.node? loc ≠ some .folder ∧
      t' = t.put loc (.file content) := by
  obtain ⟨loc, hresolve, h⟩ := bind_ok_iff.mp h
  split at h
  · cases h
  · next hnode =>
    cases h
    exact ⟨loc, hresolve, hnode, rfl⟩

theorem writeBytes_ok {content : ByteArray} (h : t.writeBytes path content = (t', .ok ())) :
    (path.parent?.elim (t, .ok ()) t.makeFolders).1.overwrite path content = .ok t' := by
  unfold writeBytes at h
  rcases hm : path.parent?.elim (t, .ok ()) t.makeFolders with ⟨mid, fault | u⟩
  · rw [hm] at h
    cases h
  · simp only [hm] at h
    cases ho : mid.overwrite path content with
    | error fault =>
      rw [ho] at h
      cases h
    | ok after =>
      rw [ho] at h
      cases h
      rw [hm]
      exact ho

/-- Putting a file where neither a folder nor a link stands. -/
theorem extends_put_file {content : ByteArray} (hne : loc ≠ []) (hfolder : t.node? loc ≠ some .folder)
    (hlink : ∀ target, t.node? loc ≠ some (.link target)) :
    Extends t (t.put loc (.file content)) := by
  refine ⟨rfl, ?_⟩
  intro other n hn
  rw [node?_put t other _ hne]
  split
  · next hother =>
    refine ⟨_, rfl, ?_⟩
    rw [hother] at hn
    cases n with
    | folder => exact absurd hn hfolder
    | file old => trivial
    | link target => exact absurd hn (hlink target)
  · exact ⟨n, hn, .refl n⟩

/-- A path without names below a folder is the folder itself, which is no file to be written. -/
theorem overwrite_slash {content : ByteArray} {front : List String}
    (hpath : path.segments = front ++ [""]) : t.overwrite path content ≠ .ok t' := by
  intro h
  obtain ⟨loc, hresolve, hnode, -⟩ := overwrite_ok h
  obtain ⟨-, hwalk⟩ := resolve_ok_iff.mp hresolve
  rw [hpath] at hwalk
  exact hnode (folder_of_walk_slash hwalk)

/-- A file put under the last of the folders that were made on the way to it. -/
theorem written_put {mid : FileTree} {content : ByteArray} {names : List String}
    (hadds : AddsFolders folder names t mid)
    (hfolders : ∀ front, front <+: names ++ [name] → front ≠ names ++ [name] →
      mid.node? (folder ++ front) = some .folder)
    (hext : Extends mid (mid.put (folder ++ (names ++ [name])) (.file content))) :
    Written folder [(folder ++ (names ++ [name]), content)] t
      (mid.put (folder ++ (names ++ [name])) (.file content)) := by
  have hbelow : Below folder (folder ++ (names ++ [name])) := below_append (by simp)
  refine ⟨hadds.extends_.trans hext, by simpa using hbelow, ?_, ?_, ?_⟩
  · intro other last hlast
    rw [lastContent?_singleton] at hlast
    split at hlast
    · next hother =>
      cases hlast
      rw [node?_put mid other _ hbelow.ne_nil, if_pos hother]
    · cases hlast
  · intro other hother hway
    have hinside : Below other (folder ++ (names ++ [name])) := by simpa using hway
    obtain ⟨next, rest, rfl⟩ := below_iff_exists.mp hother
    rw [node?_put mid _ _ hbelow.ne_nil, if_neg hinside.2]
    refine hfolders _ ((List.prefix_append_right_inj folder).mp hinside.1) ?_
    intro he
    exact hinside.2 (by rw [he])
  · intro other hlast hway
    rw [lastContent?_singleton] at hlast
    have hother : other ≠ folder ++ (names ++ [name]) := by
      intro he
      rw [if_pos he] at hlast
      cases hlast
    rw [node?_put mid other _ hbelow.ne_nil, if_neg hother]
    rcases hadds.node other with hsame | ⟨-, -, front, hne, hfront, rfl⟩
    · exact hsame
    · have hstart := (List.prefix_append_right_inj folder).mpr
        (hfront.trans (List.prefix_append names [name]))
      have hinside : Below (folder ++ front) (folder ++ (names ++ [name])) := ⟨hstart, hother⟩
      exact absurd ⟨below_append hne, by simpa using hinside⟩ hway

theorem Ready.overwrite {mid : FileTree} {content : ByteArray} (h : t.Ready base folder)
    {more : List String} (hpath : path.segments = base.stem ++ (body ++ name :: more))
    (hname : Path.skipped name = false) (hmore : ∀ s ∈ more, Path.skipped s = true)
    (hup : ".." ∉ body ++ name :: more) (hadds : AddsFolders folder (Path.counted body) t mid)
    (hrun : mid.overwrite path content = .ok t') :
    Written folder [(folder ++ (Path.counted body ++ [name]), content)] t t' := by
  have hmid := h.addsFolders hadds
  obtain ⟨loc, hresolve, hnode, rfl⟩ := overwrite_ok hrun
  obtain ⟨-, hwalk⟩ := resolve_ok_iff.mp hresolve
  obtain ⟨left, hbehind⟩ := hmid.leads.walk_behind hpath ⟨name, by simp, hname⟩ .writable
  rw [hbehind] at hwalk
  obtain ⟨hloc, hfolders⟩ := hmid.noLinks.walk hup hwalk
  rw [Path.counted_last hname hmore] at hloc hfolders
  subst hloc
  have hbelow : Below folder (folder ++ (Path.counted body ++ [name])) := below_append (by simp)
  exact written_put hadds hfolders
    (extends_put_file hbelow.ne_nil hnode (hmid.noLinks _ hbelow))

/-- A write that succeeds has made the folders on the way and then put the file under the last name
of the path. -/
theorem Ready.exists_overwrite (h : t.Ready base folder) {child : Path} (hdown : child.Downward)
    {text : String} (hrun : t.write (base.join child) text = (t', .ok ())) :
    ∃ mid body name more, child.segments = body ++ name :: more ∧ Path.skipped name = false ∧
      (∀ s ∈ more, Path.skipped s = true) ∧ AddsFolders folder (Path.counted body) t mid ∧
      mid.overwrite (base.join child) text.toUTF8 = .ok t' := by
  have hjoin := Path.segments_join h.leads.1 hdown.isAbsolute
  have hover := writeBytes_ok hrun
  rcases Path.skipped_or_last child.segments with hall | ⟨body, name, more, hchild, hname, hmore⟩
  · rw [Path.segments_of_downward hdown hall] at hjoin
    exact absurd hover (overwrite_slash hjoin)
  · have hup : ".." ∉ child.segments := (Path.downward_iff.mp hdown).2.2
    rw [hchild] at hjoin hup
    obtain ⟨parent, hparent⟩ : ∃ parent, (base.join child).parent? = some parent := by
      cases hstem : base.stem with
      | nil => exact absurd hstem base.stem_ne_nil
      | cons first rest =>
        have hsegments : (base.join child).segments = first :: ((rest ++ body) ++ name :: more) := by
          simp [hjoin, hstem]
        obtain ⟨q, hq, -⟩ := Path.parent?_of_segments hsegments hname hmore
        exact ⟨q, hq⟩
    rw [hparent, Option.elim_some] at hover
    have hadds := h.makeMissing_parent (h.addsOutward (parent.segments.length + 2)) hjoin hname hmore
      (fun hmem => hup (by simp [hmem])) hparent
    exact ⟨_, body, name, more, hchild, hname, hmore, hadds, hover⟩

/-- **What one write does.** A write below a folder that succeeds puts the text at the names of the
path. -/
theorem Ready.write (h : t.Ready base folder) {child : Path} (hdown : child.Downward) {text : String}
    (hrun : t.write (base.join child) text = (t', .ok ())) :
    Written folder [(folder ++ child.names, text.toUTF8)] t t' := by
  obtain ⟨mid, body, name, more, hchild, hname, hmore, hadds, hover⟩ := h.exists_overwrite hdown hrun
  have hjoin := Path.segments_join h.leads.1 hdown.isAbsolute
  have hup : ".." ∉ child.segments := (Path.downward_iff.mp hdown).2.2
  have hnames : child.names = Path.counted body ++ [name] := by
    rw [Path.names, hchild, Path.counted_last hname hmore]
  rw [hchild] at hjoin hup
  rw [hnames]
  exact h.overwrite hjoin hname hmore hup hadds hover

end TableForge.FileTree
