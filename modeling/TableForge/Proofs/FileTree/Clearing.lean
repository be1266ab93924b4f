import TableForge.Proofs.FileTree.Following

/-!
# What clearing does

A folder is cleared one entry at a time, and every entry is addressed anew by the path that was
given for the folder. The trees in between only lose files and links, so the path leads to the
folder or nowhere any more, and a step that succeeds has removed exactly the file or link that it
was about: it sweeps an area of the tree and leaves every entry elsewhere. When all steps have
succeeded the tree is the cleared one, in whatever order the names came up.
-/
namespace TableForge.FileTree

/-- A tree on the way from `t` to `t` with a folder cleared. -/
structure Between (t : FileTree) (folder : Location) (mid : FileTree) : Prop where
  here : mid.here = t.here
  kept : ∀ loc node, (t.cleared folder).node? loc = some node → mid.node? loc = some node
  grown : ∀ loc node, mid.node? loc = some node → t.node? loc = some node

/-- Nothing but folders is left below a location. -/
def Bare (t : FileTree) (loc : Location) : Prop :=
  ∀ other node, Below loc other → t.node? other = some node → node = .folder

/-- One tree has nothing that another has not. -/
def Shrinks (before after : FileTree) : Prop :=
  ∀ loc node, after.node? loc = some node → before.node? loc = some node

/-- From one tree to the next an area has been swept: nothing but folders is left there, and every
entry elsewhere is left alone. -/
structure Sweep (area : Location → Prop) (before after : FileTree) : Prop where
  shrinks : Shrinks before after
  bare : ∀ loc node, area loc → after.node? loc = some node → node = .folder
  spared : ∀ loc, ¬ area loc → after.occurrences loc = before.occurrences loc

/-- Whether a location is at one of the names in a folder or further down. -/
def Under (folder : Location) (names : List String) (loc : Location) : Prop :=
  ∃ name ∈ names, folder ++ [name] <+: loc

/-- The names of every folder come up in some order. -/
def Arranges (arrange : Location → List String → List String) : Prop :=
  ∀ folder names, (arrange folder names).Perm names

theorem arranges_listed : Arranges fun _ names => names := fun _ names => List.Perm.refl names

theorem Shrinks.refl (t : FileTree) : Shrinks t t := fun _ _ h => h

theorem Shrinks.trans {a b c : FileTree} (hab : Shrinks a b) (hbc : Shrinks b c) : Shrinks a c :=
  fun loc node h => hab loc node (hbc loc node h)

variable {t mid mid' : FileTree} {folder loc : Location} {path : Path} {name : String}

theorem under_singleton {other : Location} : Under loc [name] other ↔ loc ++ [name] <+: other := by
  simp [Under]

theorem under_name_iff {names rest : List String} :
    Under loc names (loc ++ name :: rest) ↔ name ∈ names := by
  simp [Under, List.prefix_append_right_inj, List.cons_prefix_cons]

theorem Under.below {names : List String} {other : Location} (h : Under loc names other) :
    Below loc other := by
  obtain ⟨name, -, hstart⟩ := h
  obtain ⟨rest, rfl⟩ := hstart
  rw [List.append_assoc]
  exact below_append (by simp)

namespace Sweep

variable {area : Location → Prop} {a b c : FileTree}

theorem nil (t : FileTree) : Sweep (Under loc []) t t where
  shrinks := Shrinks.refl t
  bare other node h := by simp [Under] at h
  spared _ _ := rfl

/-- The areas of two steps are swept one after the other. -/
theorem append {first rest : List String} (hfirst : Sweep (Under loc first) a b)
    (hrest : Sweep (Under loc rest) b c) : Sweep (Under loc (first ++ rest)) a c where
  shrinks := hfirst.shrinks.trans hrest.shrinks
  bare other node h hnode := by
    obtain ⟨name, hmem, hstart⟩ := h
    rcases List.mem_append.mp hmem with hf | hr
    · exact hfirst.bare other node ⟨name, hf, hstart⟩ (hrest.shrinks other node hnode)
    · exact hrest.bare other node ⟨name, hr, hstart⟩ hnode
  spared other h := by
    rw [hrest.spared other fun ⟨name, hr, hstart⟩ =>
        h ⟨name, List.mem_append_right first hr, hstart⟩,
      hfirst.spared other fun ⟨name, hf, hstart⟩ => h ⟨name, List.mem_append_left rest hf, hstart⟩]

/-- What is not in the area still stands where it stood. -/
theorem node?_eq (h : Sweep area a b) {loc : Location} (hloc : ¬ area loc) :
    b.node? loc = a.node? loc := by
  by_cases hroot : loc = []
  · rw [hroot, node?_root, node?_root]
  · cases hb : b.node? loc with
    | some node => exact (h.shrinks loc node hb).symm
    | none =>
      rw [← occurrences_eq_zero_iff hroot, h.spared loc hloc, occurrences_eq_zero_iff hroot] at hb
      exact hb.symm

end Sweep

namespace Between

theorem refl (t : FileTree) (folder : Location) : Between t folder t where
  here := rfl
  kept _ _ h := node?_of_node?_cleared h
  grown _ _ h := h

theorem extends_ (h : Between t folder mid) : Extends mid t where
  here := h.here
  node loc node hnode := ⟨node, h.grown loc node hnode, .refl node⟩

/-- Taking a file or a link away that is to go anyway. -/
theorem erase (h : Between t folder mid) (hbelow : Below folder loc)
    (hgone : t.isFolderAt loc = false) : Between t folder (mid.erase loc) where
  here := h.here
  kept other node hnode := by
    have hne : other ≠ loc := by
      rintro rfl
      rw [node?_cleared, if_pos ⟨hbelow, hgone⟩] at hnode
      cases hnode
    rw [node?_erase mid other hbelow.ne_nil, if_neg hne]
    exact h.kept other node hnode
  grown other node hnode := by
    rw [node?_erase mid other hbelow.ne_nil] at hnode
    split at hnode
    · cases hnode
    · exact h.grown other node hnode

/-- With nothing but folders left below it, the folder is cleared. -/
theorem node?_eq (h : Between t folder mid) (hbare : mid.Bare folder) (loc : Location) :
    mid.node? loc = (t.cleared folder).node? loc := by
  cases hc : (t.cleared folder).node? loc with
  | some node => exact h.kept loc node hc
  | none =>
    cases hm : mid.node? loc with
    | none => rfl
    | some node =>
      have ht := h.grown loc node hm
      rw [node?_cleared] at hc
      split at hc
      · next hcond =>
        have hfolder := hbare loc node hcond.1 hm
        rw [hfolder] at ht
        rw [isFolderAt_iff.mpr ht] at hcond
        exact absurd hcond.2 (by simp)
      · rw [ht] at hc
        cases hc

end Between

/-! ## Names in a folder -/

theorem path_of_proper (h : ProperName name) :
    (Path.mk name).isAbsolute = false ∧ (Path.mk name).segments = [name] ∧
      Path.skipped name = false := by
  obtain ⟨hempty, hone, -, hslash⟩ := h
  exact ⟨Path.isAbsolute_of_no_slash hslash, Path.segments_of_no_slash hslash,
    by simp [Path.skipped, hempty, hone]⟩

theorem segments_join_proper (hpath : path.text ≠ "") (hname : ProperName name) :
    (path.join ⟨name⟩).segments = path.stem ++ [name] := by
  obtain ⟨habs, hsegments, -⟩ := path_of_proper hname
  rw [Path.segments_join hpath habs, hsegments]

theorem stem_join_proper (hpath : path.text ≠ "") (hname : ProperName name) :
    (path.join ⟨name⟩).stem = path.stem ++ [name] := by
  have hjoin := segments_join_proper hpath hname
  rcases (path.join ⟨name⟩).segments_eq_stem with hs | hs
  · rw [← hs, hjoin]
  · rw [hjoin] at hs
    have hlast := (List.append_inj' hs rfl).2
    exact absurd (List.cons.inj hlast).1 hname.1

/-- What the path of a name in a folder leads to on the way, it leads to from the folder. -/
theorem Between.walk_join (h : Between t folder mid) (hleads : t.LeadsTo path loc)
    (hname : ProperName name) {last : LastName} {found : Location}
    (hresolve : mid.resolve last (path.join ⟨name⟩) = .ok found) :
    ∃ left, mid.walk last left loc [name] = .ok found := by
  obtain ⟨-, hwalk⟩ := resolve_ok_iff.mp hresolve
  obtain ⟨left, other, hother, hrest⟩ := exists_leadsTo_of_walk hleads.1
    (segments_join_proper hleads.1 hname) ⟨name, by simp, (path_of_proper hname).2.2⟩ hwalk
  have hfolder := folder_of_walk hrest
  have hthere : t.LeadsTo path other := hother.mono h.extends_ (by rw [hfolder]; rfl)
  rw [hleads.unique hthere]
  exact ⟨left, hrest⟩

theorem length_of_walk_name {last : LastName} {left : Nat} {found : Location}
    (hname : ProperName name) (h : t.walk last left loc [name] = .ok found) :
    name.utf8ByteSize ≤ maxNameBytes := by
  have hfolder := folder_of_walk h
  have hskip := (path_of_proper hname).2.2
  rw [walk_name hfolder hskip hname.2.2.1, if_neg (by simp)] at h
  by_contra hlong
  rw [if_pos (Nat.not_le.mp hlong)] at h
  cases h

/-- A name that is not followed stands in the folder that it is looked up in. -/
theorem found_of_walk_itself {left : Nat} {found : Location} (hname : ProperName name)
    (h : t.walk .itself left loc [name] = .ok found) : found = loc ++ [name] := by
  have hfolder := folder_of_walk h
  have hlength := length_of_walk_name hname h
  rw [walk_name hfolder (path_of_proper hname).2.2 hname.2.2.1, if_neg (by simp),
    if_neg (Nat.not_lt.mpr hlength)] at h
  split at h
  · rw [if_pos ⟨rfl, rfl⟩] at h
    cases h
    rfl
  · rw [walk_nil] at h
    cases h
    rfl

/-- A name of a folder in a folder leads to that folder, if it can be looked up at all. -/
theorem LeadsTo.join_name (h : t.LeadsTo path loc) (hname : ProperName name)
    (hlength : name.utf8ByteSize ≤ maxNameBytes) (hloc : t.node? loc = some .folder)
    (hinside : t.node? (loc ++ [name]) = some .folder) :
    t.LeadsTo (path.join ⟨name⟩) (loc ++ [name]) := by
  obtain ⟨hb, left, hleads⟩ := h
  have hskip := (path_of_proper hname).2.2
  have hone : t.Leads left loc [name] left (loc ++ [name]) := by
    refine .name hloc ⟨hskip, hname.2.2.1, hlength⟩ ?_ (.done left _)
    intro target hlink
    rw [hinside] at hlink
    cases hlink
  refine ⟨Path.text_join_ne_empty hb ⟨name⟩, left, ?_⟩
  rw [origin_of_segments (segments_join_proper hb hname), stem_join_proper hb hname]
  exact hleads.append hone

/-! ## Removing one name after another -/

theorem removeFile_ok {after : FileTree} (h : t.removeFile path = .ok after) :
    ∃ found node, t.resolve .itself path = .ok found ∧ t.node? found = some node ∧
      node ≠ .folder ∧ after = t.erase found := by
  obtain ⟨found, hresolve, h⟩ := bind_ok_iff.mp h
  split at h
  · cases h
  · cases h
  · next node hne hnode =>
    cases h
    exact ⟨found, node, hresolve, hnode, hne, rfl⟩

theorem Between.removeFile_join {after : FileTree} (h : Between t folder mid)
    (hleads : t.LeadsTo path loc) (hname : ProperName name)
    (hrun : mid.removeFile (path.join ⟨name⟩) = .ok after) :
    ∃ node, mid.node? (loc ++ [name]) = some node ∧ node ≠ .folder ∧
      after = mid.erase (loc ++ [name]) := by
  obtain ⟨found, node, hresolve, hnode, hne, rfl⟩ := removeFile_ok hrun
  obtain ⟨left, hwalk⟩ := h.walk_join hleads hname hresolve
  rw [found_of_walk_itself hname hwalk] at hnode ⊢
  exact ⟨node, hnode, hne, rfl⟩

theorem removeEach_ok_cons {removeAt : FileTree → String → FileTree × Except FileFault Nat}
    {rest : List String} {removed : Nat}
    (h : mid.removeEach (name :: rest) removeAt = (mid', .ok removed)) :
    ∃ next first more, removeAt mid name = (next, .ok first) ∧
      next.removeEach rest removeAt = (mid', .ok more) ∧ removed = first + more := by
  rw [removeEach] at h
  rcases hf : removeAt mid name with ⟨next, _ | first⟩
  · rw [hf] at h
    cases h
  · simp only [hf] at h
    rcases hr : next.removeEach rest removeAt with ⟨last, _ | more⟩
    · rw [hr] at h
      cases h
    · rw [hr] at h
      cases h
      exact ⟨next, first, more, rfl, hr, rfl⟩

theorem removeEach_ok_append {removeAt : FileTree → String → FileTree × Except FileFault Nat}
    {before behind : List String} {removed : Nat}
    (h : mid.removeEach (before ++ behind) removeAt = (mid', .ok removed)) :
    ∃ next first more, mid.removeEach before removeAt = (next, .ok first) ∧
      next.removeEach behind removeAt = (mid', .ok more) ∧ removed = first + more := by
  induction before generalizing mid removed with
  | nil => exact ⟨mid, 0, removed, rfl, h, (Nat.zero_add removed).symm⟩
  | cons name rest ih =>
    obtain ⟨one, first, others, hfirst, hothers, rfl⟩ := removeEach_ok_cons h
    obtain ⟨next, before, more, hbefore, hmore, rfl⟩ := ih hothers
    refine ⟨next, first + before, more, ?_, hmore, (Nat.add_assoc first before more).symm⟩
    simp only [removeEach, hfirst, hbefore]

/-- What is done to one name of a folder. -/
def removeInside (arrange : Location → List String → List String) (depth : Nat) (path : Path)
    (loc : Location) (t : FileTree) (name : String) : FileTree × Except FileFault Nat :=
  if t.isFolderAt (loc ++ [name]) then clearFolder arrange depth t (path.join ⟨name⟩)
  else
    match t.removeFile (path.join ⟨name⟩) with
    | .error fault => (t, .error fault)
    | .ok t => (t, .ok 1)

/-- A turn that succeeds clears a folder or removes one file or link. -/
theorem removeInside_ok {arrange : Location → List String → List String} {depth removed : Nat}
    (h : removeInside arrange depth path loc mid name = (mid', .ok removed)) :
    (mid.node? (loc ++ [name]) = some .folder ∧
      clearFolder arrange depth mid (path.join ⟨name⟩) = (mid', .ok removed)) ∨
    (mid.removeFile (path.join ⟨name⟩) = .ok mid' ∧ removed = 1) := by
  unfold removeInside at h
  split at h
  · next hfolder => exact Or.inl ⟨isFolderAt_iff.mp hfolder, h⟩
  · cases hr : mid.removeFile (path.join ⟨name⟩) with
    | error fault =>
      rw [hr] at h
      cases h
    | ok after =>
      rw [hr] at h
      cases h
      exact Or.inr ⟨rfl, rfl⟩

theorem clearFolder_ok {arrange : Location → List String → List String} {depth removed : Nat}
    (h : clearFolder arrange (depth + 1) mid path = (mid', .ok removed)) :
    ∃ loc, mid.find path = .ok (loc, .folder) ∧
      mid.removeEach (arrange loc (mid.names loc)) (removeInside arrange depth path loc) =
        (mid', .ok removed) := by
  rw [clearFolder] at h
  split at h
  · cases h
  · next loc hf => exact ⟨loc, hf, h⟩
  · cases h

variable {arrange : Location → List String → List String}

/-- A path leads to a folder that is to be cleared or stands in it, and everything in it is less than
`depth` names further down. -/
structure Inside (t : FileTree) (folder : Location) (depth : Nat) (path : Path) (loc : Location) :
    Prop where
  leads : t.LeadsTo path loc
  isFolder : t.node? loc = some .folder
  within : folder <+: loc
  deep : ∀ other, loc <+: other → (t.node? other).isSome = true → other.length < loc.length + depth

theorem Inside.pos {depth : Nat} (h : Inside t folder depth path loc) : 0 < depth := by
  have hlt := h.deep loc (List.prefix_refl loc) (by rw [h.isFolder]; rfl)
  omega

theorem Inside.join_name {depth : Nat} (h : Inside t folder (depth + 1) path loc)
    (hname : ProperName name) (hlength : name.utf8ByteSize ≤ maxNameBytes)
    (hinside : t.node? (loc ++ [name]) = some .folder) :
    Inside t folder depth (path.join ⟨name⟩) (loc ++ [name]) where
  leads := h.leads.join_name hname hlength h.isFolder hinside
  isFolder := hinside
  within := h.within.trans (List.prefix_append _ _)
  deep other hstart hsome := by
    have hlt := h.deep other ((List.prefix_append _ _).trans hstart) hsome
    simp only [List.length_append, List.length_singleton]
    omega

/-- What clearing to a depth does, if it succeeds: the tree stays on the way to the cleared one and
what is below the folder is swept. -/
def Clears (t : FileTree) (folder : Location) (arrange : Location → List String → List String)
    (depth : Nat) : Prop :=
  ∀ {loc : Location} {path : Path} {mid mid' : FileTree} {removed : Nat},
    Between t folder mid → Inside t folder depth path loc →
    clearFolder arrange depth mid path = (mid', .ok removed) →
    Between t folder mid' ∧ Sweep (Below loc) mid mid'

/-- A turn that succeeds has followed the path of its name. -/
theorem Between.address_turn {depth removed : Nat} (h : Between t folder mid)
    (hinside : Inside t folder (depth + 1) path loc) (hproper : ProperName name)
    (hrun : removeInside arrange depth path loc mid name = (mid', .ok removed)) :
    name.utf8ByteSize ≤ maxNameBytes ∧ checkPath (path.join ⟨name⟩) = .ok () := by
  obtain ⟨last, found, hresolve⟩ :
      ∃ last found, mid.resolve last (path.join ⟨name⟩) = .ok found := by
    rcases removeInside_ok hrun with ⟨hfolder, hrun⟩ | ⟨hremove, -⟩
    · have hnode := h.grown _ _ hfolder
      have hlt := hinside.deep _ (List.prefix_append loc [name]) (by rw [hnode]; rfl)
      simp only [List.length_append, List.length_singleton] at hlt
      obtain ⟨fewer, rfl⟩ : ∃ fewer, depth = fewer + 1 := ⟨depth - 1, by omega⟩
      obtain ⟨found, hfind, -⟩ := clearFolder_ok hrun
      exact ⟨.target, found, (find_ok_iff.mp hfind).1⟩
    · obtain ⟨found, node, hresolve, -⟩ := removeFile_ok hremove
      exact ⟨.itself, found, hresolve⟩
  obtain ⟨left, hwalk⟩ := h.walk_join hinside.leads hproper hresolve
  exact ⟨length_of_walk_name hproper hwalk, (resolve_ok_iff.mp hresolve).1⟩

/-- A folder in the folder is cleared itself. -/
theorem Between.clearInside {depth removed : Nat} (hclears : Clears t folder arrange depth)
    (h : Between t folder mid) (hinside : Inside t folder (depth + 1) path loc)
    (hproper : ProperName name) (hlength : name.utf8ByteSize ≤ maxNameBytes)
    (hnode : t.node? (loc ++ [name]) = some .folder)
    (hrun : clearFolder arrange depth mid (path.join ⟨name⟩) = (mid', .ok removed)) :
    Between t folder mid' ∧ Sweep (Under loc [name]) mid mid' := by
  obtain ⟨hbetween, hsweep⟩ := hclears h (hinside.join_name hproper hlength hnode) hrun
  refine ⟨hbetween, hsweep.shrinks, fun other node hunder hn => ?_, fun other hunder => ?_⟩
  · by_cases hother : loc ++ [name] = other
    · have hkept := hbetween.kept _ _ (isFolder_cleared hnode)
      rw [hother, hn] at hkept
      exact Option.some.inj hkept
    · exact hsweep.bare other node ⟨under_singleton.mp hunder, hother⟩ hn
  · exact hsweep.spared other fun hbelow => hunder (under_singleton.mpr hbelow.1)

theorem shrinks_erase (hne : loc ≠ []) : Shrinks t (t.erase loc) := by
  intro other node hn
  rw [node?_erase t other hne] at hn
  split at hn
  · cases hn
  · exact hn

/-- Anything else in the folder is removed, and nothing stood below it. -/
theorem Between.removeFileInside {depth : Nat} (hwf : t.WellFormed) (h : Between t folder mid)
    (hinside : Inside t folder depth path loc) (hproper : ProperName name)
    (hrun : mid.removeFile (path.join ⟨name⟩) = .ok mid') :
    Between t folder mid' ∧ Sweep (Under loc [name]) mid mid' := by
  obtain ⟨found, hfound, hne, rfl⟩ := h.removeFile_join hinside.leads hproper hrun
  have hbelow : Below folder (loc ++ [name]) :=
    Below.of_isPrefix hinside.within (below_append (by simp))
  have hfile : t.node? (loc ++ [name]) = some found := h.grown _ _ hfound
  have hgone : t.isFolderAt (loc ++ [name]) = false := by
    rw [Bool.eq_false_iff, Ne, isFolderAt_iff, hfile]
    exact fun he => hne (Option.some.inj he)
  have hbetween := h.erase hbelow hgone
  refine ⟨hbetween, shrinks_erase hbelow.ne_nil, fun other node hunder hn => ?_,
    fun other hunder => occurrences_erase mid ?_⟩
  · by_cases hother : loc ++ [name] = other
    · rw [node?_erase mid other hbelow.ne_nil, if_pos hother.symm] at hn
      cases hn
    · have habove := hwf.folder_above (hbetween.grown _ _ hn) ⟨under_singleton.mp hunder, hother⟩
      rw [hfile] at habove
      exact absurd (Option.some.inj habove) hne
  · rintro rfl
    exact hunder (under_singleton.mpr (List.prefix_refl _))

theorem Between.removeInside {depth removed : Nat} (hwf : t.WellFormed)
    (hclears : Clears t folder arrange depth) (h : Between t folder mid)
    (hinside : Inside t folder (depth + 1) path loc)
    (hname : (t.node? (loc ++ [name])).isSome = true)
    (hrun : removeInside arrange depth path loc mid name = (mid', .ok removed)) :
    Between t folder mid' ∧ Sweep (Under loc [name]) mid mid' := by
  obtain ⟨node, hnode⟩ := Option.isSome_iff_exists.mp hname
  have hproper : ProperName name := hwf.proper_of_node? hnode name (by simp)
  obtain ⟨hlength, -⟩ := h.address_turn hinside hproper hrun
  rcases removeInside_ok hrun with ⟨hfolder, hrun⟩ | ⟨hremove, -⟩
  · exact h.clearInside hclears hinside hproper hlength (h.grown _ _ hfolder) hrun
  · exact h.removeFileInside hwf hinside hproper hremove

/-- Removing the names of a list one after another. -/
theorem Between.removeEach {depth : Nat} (hwf : t.WellFormed)
    (hclears : Clears t folder arrange depth) (hinside : Inside t folder (depth + 1) path loc)
    {names : List String} {removed : Nat}
    (hnames : ∀ name ∈ names, (t.node? (loc ++ [name])).isSome = true) (h : Between t folder mid)
    (hrun : mid.removeEach names (FileTree.removeInside arrange depth path loc) =
      (mid', .ok removed)) :
    Between t folder mid' ∧ Sweep (Under loc names) mid mid' := by
  induction names generalizing mid removed with
  | nil =>
    cases hrun
    exact ⟨h, Sweep.nil mid'⟩
  | cons name rest ih =>
    obtain ⟨next, first, more, hfirst, hrest, -⟩ := removeEach_ok_cons hrun
    have hname := hnames name List.mem_cons_self
    obtain ⟨hnext, hsweep⟩ := h.removeInside hwf hclears hinside hname hfirst
    obtain ⟨hlast, hall⟩ := ih (fun n hn => hnames n (List.mem_cons_of_mem _ hn)) hnext hrest
    exact ⟨hlast, hsweep.append hall⟩

/-- Everything below a folder of a well-formed tree is at one of its names or below. -/
theorem Between.name_isSome (hwf : t.WellFormed) (h : Between t folder mid) {rest : List String}
    {node : Node} (hnode : mid.node? (loc ++ name :: rest) = some node) :
    (mid.node? (loc ++ [name])).isSome = true := by
  cases rest with
  | nil =>
    rw [hnode]
    rfl
  | cons next more =>
    have hinner : Below (loc ++ [name]) (loc ++ name :: next :: more) :=
      below_iff_exists.mpr ⟨next, more, by simp⟩
    have habove := hwf.folder_above (h.grown _ _ hnode) hinner
    rw [h.kept _ _ (isFolder_cleared habove)]
    rfl

/-- What a clearing on the way goes through: the names of the folder, all of them names of things
that were there in the beginning. -/
theorem Between.clearFolder_ok (harrange : Arranges arrange) {depth removed : Nat}
    (h : Between t folder mid) (hinside : Inside t folder (depth + 1) path loc)
    (hrun : clearFolder arrange (depth + 1) mid path = (mid', .ok removed)) :
    ∃ names, names.Perm (mid.names loc) ∧ (∀ name ∈ names, (t.node? (loc ++ [name])).isSome = true) ∧
      mid.removeEach names (FileTree.removeInside arrange depth path loc) = (mid', .ok removed) := by
  obtain ⟨found, hfind, hrun⟩ := FileTree.clearFolder_ok hrun
  have hfound : t.LeadsTo path found :=
    (leadsTo_of_find hfind).mono h.extends_ (by rw [(find_ok_iff.mp hfind).2]; rfl)
  rw [hfound.unique hinside.leads] at hrun
  refine ⟨_, harrange loc (mid.names loc), fun name hname => ?_, hrun⟩
  rw [(harrange loc (mid.names loc)).mem_iff, mem_names_iff] at hname
  obtain ⟨node, hnode⟩ := Option.isSome_iff_exists.mp hname
  rw [h.grown _ _ hnode]
  rfl

/-- Clearing to any depth, by induction on the depth. -/
theorem clears (hwf : t.WellFormed) (harrange : Arranges arrange) (depth : Nat) :
    Clears t folder arrange depth := by
  induction depth with
  | zero =>
    intro loc path mid mid' removed h hinside hrun
    exact absurd hinside.pos (Nat.lt_irrefl 0)
  | succ depth ih =>
    intro loc path mid mid' removed h hinside hrun
    obtain ⟨names, hperm, hnames, hrun⟩ := h.clearFolder_ok harrange hinside hrun
    obtain ⟨hlast, hsweep⟩ := h.removeEach hwf ih hinside hnames hrun
    refine ⟨hlast, hsweep.shrinks, fun other node hbelow hnode => ?_, fun other hbelow =>
      hsweep.spared other fun hunder => hbelow hunder.below⟩
    obtain ⟨name, rest, rfl⟩ := below_iff_exists.mp hbelow
    have hthere := h.name_isSome hwf (hsweep.shrinks _ _ hnode)
    have hlisted : name ∈ names := hperm.mem_iff.mpr (mem_names_iff.mpr hthere)
    exact hsweep.bare _ node ⟨name, hlisted, rest, by simp⟩ hnode

/-- The height of a tree is depth enough for any folder in it. -/
theorem inside_of_leadsTo (h : t.LeadsTo path folder) (hfolder : t.node? folder = some .folder) :
    Inside t folder (t.height + 1) path folder := by
  refine ⟨h, hfolder, List.prefix_refl folder, ?_⟩
  intro other _ hsome
  obtain ⟨node, hnode⟩ := Option.isSome_iff_exists.mp hsome
  have hheight := length_le_height hnode
  omega

/-- **Clearing removes exactly the files and links below a folder.** A clearing that succeeds leaves
the cleared tree, whatever path it was asked for. -/
theorem clear_ok {removed : Nat} (hwf : t.WellFormed) (harrange : Arranges arrange)
    (hfind : t.find path = .ok (folder, .folder))
    (hrun : t.clear arrange path = (mid', .ok removed)) :
    mid'.here = t.here ∧ ∀ loc, mid'.node? loc = (t.cleared folder).node? loc := by
  have hinside := inside_of_leadsTo (leadsTo_of_find hfind) (find_ok_iff.mp hfind).2
  obtain ⟨hbetween, hsweep⟩ :=
    clears hwf harrange (t.height + 1) (Between.refl t folder) hinside hrun
  exact ⟨hbetween.here, hbetween.node?_eq hsweep.bare⟩

/-! ## Clearings that fail

A clearing that stops midway, at whatever path, has removed something at most. -/

theorem shrinks_removeFile {after : FileTree} (h : t.removeFile path = .ok after) :
    Shrinks t after := by
  obtain ⟨found, node, -, hnode, hne, rfl⟩ := removeFile_ok h
  exact shrinks_erase (ne_nil_of_node? hnode hne)

section Steps

/-! A relation between trees that every removal of a file is an instance of, and that removals one
after another keep. -/

variable {R : FileTree → FileTree → Prop} (hrefl : ∀ t, R t t)
  (htrans : ∀ {a b c}, R a b → R b c → R a c)
include hrefl htrans

theorem related_removeEach {removeAt : FileTree → String → FileTree × Except FileFault Nat}
    (hstep : ∀ t name, R t (removeAt t name).1) (t : FileTree) (names : List String) :
    R t (t.removeEach names removeAt).1 := by
  induction names generalizing t with
  | nil => exact hrefl t
  | cons name rest ih =>
    have hfirst := hstep t name
    rw [FileTree.removeEach]
    rcases hf : removeAt t name with ⟨next, fault | removed⟩
    · rw [hf] at hfirst
      exact hfirst
    · rw [hf] at hfirst
      have hrest := ih next
      simp only
      rcases hr : next.removeEach rest removeAt with ⟨last, fault | more⟩
      · rw [hr] at hrest
        exact htrans hfirst hrest
      · rw [hr] at hrest
        exact htrans hfirst hrest

theorem related_clearFolder
    (hremove : ∀ {t path after}, t.removeFile path = .ok after → R t after)
    (arrange : Location → List String → List String) (depth : Nat) (t : FileTree) (path : Path) :
    R t (clearFolder arrange depth t path).1 := by
  induction depth generalizing t path with
  | zero => exact hrefl t
  | succ depth ih =>
    rw [clearFolder]
    split
    · exact hrefl t
    · refine related_removeEach hrefl htrans ?_ t _
      intro mid name
      split
      · exact ih mid _
      · simp only
        cases hr : mid.removeFile (path.join ⟨name⟩) with
        | error fault => exact hrefl mid
        | ok after => exact hremove hr
    · exact hrefl t

end Steps

theorem shrinks_clear {result : Except FileFault Nat} (h : t.clear arrange path = (mid', result)) :
    Shrinks t mid' := by
  have hshrinks := related_clearFolder Shrinks.refl Shrinks.trans shrinks_removeFile arrange
    (t.height + 1) t path
  rw [← clear, h] at hshrinks
  exact hshrinks

end TableForge.FileTree
