import TableForge.Proofs.FileTree.Following

/-!
# What making folders does

Below a folder without links, making the folders of a path adds those on the way down as far as they
are missing, and nothing else changes. Folders are made from the inside out, so the folder that they
stand in is found to exist before anything outside of it is touched.
-/
namespace TableForge.FileTree

/-- A path leads to a folder below which there are no links. -/
structure Ready (t : FileTree) (base : Path) (folder : Location) : Prop where
  leads : t.LeadsTo base folder
  isFolder : t.node? folder = some .folder
  noLinks : t.NoLinksBelow folder

/-- A tree and the same tree with further folders on the way down along the names. -/
structure AddsFolders (folder : Location) (names : List String) (before after : FileTree) :
    Prop where
  here : after.here = before.here
  node : ∀ loc, after.node? loc = before.node? loc ∨
    (before.node? loc = none ∧ after.node? loc = some .folder ∧
      ∃ front, front ≠ [] ∧ front <+: names ∧ loc = folder ++ front)

variable {t t' : FileTree} {base path : Path} {folder loc : Location} {name : String}
  {body names : List String}

namespace AddsFolders

theorem refl (folder : Location) (names : List String) (t : FileTree) :
    AddsFolders folder names t t :=
  ⟨rfl, fun _ => Or.inl rfl⟩

theorem trans {a b c : FileTree} (hab : AddsFolders folder names a b)
    (hbc : AddsFolders folder names b c) : AddsFolders folder names a c := by
  refine ⟨hbc.here.trans hab.here, ?_⟩
  intro loc
  rcases hbc.node loc with hsame | ⟨hnone, hnew, hfront⟩
  · rw [hsame]
    exact hab.node loc
  · rcases hab.node loc with hsame' | ⟨-, hnew', -⟩
    · exact Or.inr ⟨hsame' ▸ hnone, hnew, hfront⟩
    · rw [hnew'] at hnone
      cases hnone

theorem of_isPrefix {fewer : List String} (h : AddsFolders folder fewer t t')
    (hinto : fewer <+: names) : AddsFolders folder names t t' := by
  refine ⟨h.here, ?_⟩
  intro loc
  rcases h.node loc with hsame | ⟨hnone, hnew, front, hne, hfront, hloc⟩
  · exact Or.inl hsame
  · exact Or.inr ⟨hnone, hnew, front, hne, hfront.trans hinto, hloc⟩

theorem extends_ (h : AddsFolders folder names t t') : Extends t t' := by
  refine ⟨h.here.symm, ?_⟩
  intro loc n hn
  rcases h.node loc with hsame | ⟨hnone, -⟩
  · exact ⟨n, hsame.trans hn, .refl n⟩
  · rw [hn] at hnone
    cases hnone

end AddsFolders

theorem Ready.grow (h : t.Ready base folder) (hext : Extends t t')
    (hlinks : t'.NoLinksBelow folder) : t'.Ready base folder := by
  exact ⟨h.leads.mono hext (by rw [h.isFolder]; rfl), hext.folder h.isFolder, hlinks⟩

theorem Ready.addsFolders (h : t.Ready base folder) (hadds : AddsFolders folder names t t') :
    t'.Ready base folder := by
  refine h.grow hadds.extends_ ?_
  intro other hbelow target hlink
  rcases hadds.node other with hsame | ⟨-, hnew, -⟩
  · exact h.noLinks other hbelow target (hsame ▸ hlink)
  · rw [hnew] at hlink
    cases hlink

/-! ## Making folders -/

theorem withoutSlashes?_eq_none {front : List String} {segment : String}
    (h : path.segments = front ++ [segment]) (hne : segment ≠ "") : withoutSlashes? path = none := by
  unfold withoutSlashes?
  rw [h, List.reverse_append, List.reverse_singleton, List.singleton_append]
  split
  · next heq => exact absurd (List.cons.inj heq).1 hne
  · rfl

theorem makeFolder_ok {after : FileTree} (h : t.makeFolder path = .ok after) :
    ∃ loc, t.resolve .itself ((withoutSlashes? path).getD path) = .ok loc ∧
      t.node? loc = none ∧ after = t.put loc .folder := by
  rw [FileTree.makeFolder] at h
  obtain ⟨loc, hresolve, h⟩ := bind_ok_iff.mp h
  split at h
  · cases h
  · next hnone =>
    cases h
    exact ⟨loc, hresolve, hnone, rfl⟩

theorem counted_concat (hname : Path.skipped name = false) (body : List String) :
    Path.counted (body ++ [name]) = Path.counted body ++ [name] :=
  Path.counted_last hname (by simp)

/-- What one folder more does on the way down. -/
theorem Ready.makeFolder (h : t.Ready base folder) {after : FileTree}
    (hpath : path.segments = base.stem ++ (body ++ [name])) (hname : Path.skipped name = false)
    (hup : ".." ∉ body ++ [name]) (hmake : t.makeFolder path = .ok after) :
    AddsFolders folder (Path.counted body ++ [name]) t after := by
  have hslash : withoutSlashes? path = none := by
    rw [← List.append_assoc] at hpath
    refine withoutSlashes?_eq_none hpath ?_
    rintro rfl
    exact absurd hname (by decide)
  obtain ⟨loc, hresolve, hnone, rfl⟩ := makeFolder_ok hmake
  rw [hslash, Option.getD_none] at hresolve
  obtain ⟨-, hwalk⟩ := resolve_ok_iff.mp hresolve
  obtain ⟨left, hbehind⟩ := h.leads.walk_behind hpath ⟨name, by simp, hname⟩ .itself
  rw [hbehind] at hwalk
  obtain ⟨hloc, -⟩ := h.noLinks.walk hup hwalk
  rw [counted_concat hname] at hloc
  have hne : loc ≠ [] := by simp [hloc]
  refine ⟨rfl, ?_⟩
  intro other
  rw [node?_put t other .folder hne]
  split
  · next hother =>
    exact Or.inr ⟨hother ▸ hnone, rfl, _, by simp, List.prefix_refl _, hother.trans hloc⟩
  · exact Or.inl rfl

/-- What becomes of the tree when missing folders are made, the innermost first. -/
theorem makeMissing_cons (t : FileTree) (path : Path) (outer : List Path) :
    (t.makeMissing (path :: outer)).1 = t ∨
    (path.text ≠ "" ∧ t.makeFolder path = .ok (t.makeMissing (path :: outer)).1) ∨
    (path.text ≠ "" ∧ path.parent?.isSome = true ∧ t.makeFolder path = .error .notFound ∧
      ((t.makeMissing (path :: outer)).1 = (t.makeMissing outer).1 ∨
        (t.makeMissing outer).1.makeFolder path = .ok (t.makeMissing (path :: outer)).1)) := by
  rw [makeMissing]
  split
  · exact Or.inl rfl
  · next hstart =>
    obtain ⟨htext, hparent⟩ := not_or.mp hstart
    have hsome : path.parent?.isSome = true := by simpa [Option.isSome_iff_ne_none] using hparent
    cases hm : t.makeFolder path with
    | ok after => exact Or.inr (Or.inl ⟨htext, rfl⟩)
    | error fault =>
      by_cases hfault : fault = .notFound
      · subst hfault
        refine Or.inr (Or.inr ⟨htext, hsome, rfl, ?_⟩)
        rcases ho : t.makeMissing outer with ⟨t₂, fault | u⟩
        · exact Or.inl rfl
        · cases hm₂ : t₂.makeFolder path with
          | ok after =>
            right
            simp only [hm₂]
          | error fault =>
            left
            simp only [hm₂]
      · left
        cases fault <;> first | rfl | exact absurd rfl hfault

theorem ne_notFound_of_checkPath {fault : FileFault} (htext : path.text ≠ "")
    (h : checkPath path = .error fault) : fault ≠ .notFound := by
  rintro rfl
  unfold checkPath at h
  split at h
  · cases h
  · split at h <;> cases h

/-- Making a folder where something stands already fails, and not for want of a folder. -/
theorem makeFolder_of_exists {left : Nat} {dest : Location}
    (h : t.Leads maxLinks (t.origin path.segments) path.segments left dest)
    (hdest : (t.node? dest).isSome = true) (hslash : withoutSlashes? path = none)
    (htext : path.text ≠ "") : ∃ fault, t.makeFolder path = .error fault ∧ fault ≠ .notFound := by
  rw [FileTree.makeFolder, hslash, Option.getD_none]
  obtain ⟨found, hwalk, hfound⟩ := h.walk_itself hdest
  cases hc : checkPath path with
  | error fault =>
    refine ⟨fault, ?_, ne_notFound_of_checkPath htext hc⟩
    rw [resolve, hc]
    rfl
  | ok u =>
    have hresolve : t.resolve .itself path = .ok found := resolve_ok_iff.mpr ⟨hc, hwalk⟩
    obtain ⟨node, hnode⟩ := Option.isSome_iff_exists.mp hfound
    rw [hresolve]
    simp only [bind, Except.bind, hnode]
    exact ⟨.alreadyExists, rfl, by decide⟩

/-- A folder that exists is not made, and nothing outside of it is looked at. -/
theorem makeMissing_of_exists {left : Nat} {dest : Location}
    (h : t.Leads maxLinks (t.origin path.segments) path.segments left dest)
    (hdest : (t.node? dest).isSome = true) (hslash : withoutSlashes? path = none) (fuel : Nat) :
    (t.makeMissing (outward fuel path)).1 = t := by
  cases fuel with
  | zero => rfl
  | succ fuel =>
    rcases makeMissing_cons t path (path.parent?.elim [] (outward fuel)) with
      hsame | ⟨htext, hnew⟩ | ⟨htext, -, hnot, -⟩
    · exact hsame
    · obtain ⟨fault, hfault, -⟩ := makeFolder_of_exists h hdest hslash htext
      rw [hnew] at hfault
      cases hfault
    · obtain ⟨fault, hfault, hne⟩ := makeFolder_of_exists h hdest hslash htext
      rw [hnot] at hfault
      cases hfault
      exact absurd rfl hne

theorem withoutSlashes?_root (h : path.segments = ["", ""]) : withoutSlashes? path = none := by
  unfold withoutSlashes?
  rw [h]
  rfl

theorem withoutSlashes?_trimmed {first : String} {rest : List String}
    (h : path.segments = first :: Path.trimSegments rest)
    (hroot : ¬ (first = "" ∧ Path.trimSegments rest = [])) : withoutSlashes? path = none := by
  rcases Path.skipped_or_last rest with hall | ⟨body, last, more, rfl, hlast, hmore⟩
  · have hnil : Path.trimSegments rest = [] := List.rdropWhile_eq_nil_iff.mpr hall
    have hone : path.segments = [] ++ [first] := by rw [h, hnil, List.nil_append]
    exact withoutSlashes?_eq_none hone fun he => hroot ⟨he, hnil⟩
  · rw [Path.trimSegments_last hlast hmore, ← List.cons_append] at h
    refine withoutSlashes?_eq_none h ?_
    rintro rfl
    exact absurd hlast (by decide)

/-- Beyond the last name below the folder the parent of a path leads to a folder that exists. -/
theorem Ready.exists_leads_parent (h : t.Ready base folder) {skips more : List String}
    (hpath : path.segments = base.stem ++ (skips ++ name :: more))
    (hname : Path.skipped name = false) (hmore : ∀ s ∈ more, Path.skipped s = true)
    (hskips : ∀ s ∈ skips, Path.skipped s = true) {parent : Path}
    (hparent : path.parent? = some parent) :
    ∃ left dest, t.Leads maxLinks (t.origin parent.segments) parent.segments left dest ∧
      t.node? dest = some .folder ∧ withoutSlashes? parent = none := by
  obtain ⟨-, left, hleads⟩ := h.leads
  cases hstem : base.stem with
  | nil => exact absurd hstem base.stem_ne_nil
  | cons first rest =>
    have hsegments : path.segments = first :: ((rest ++ skips) ++ name :: more) := by
      simp [hpath, hstem]
    obtain ⟨q, hq, hqs⟩ := Path.parent?_of_segments hsegments hname hmore
    rw [hparent] at hq
    cases hq
    rw [Path.trimSegments_append_skipped hskips] at hqs
    split at hqs
    · next hroot =>
      -- the base is the root with slashes and dots behind it
      rw [hroot.1] at hqs
      have hstart : t.origin parent.segments = [] := by
        rw [hqs]
        rfl
      refine ⟨maxLinks, [], ?_, rfl, withoutSlashes?_root hqs⟩
      rw [hstart, hqs]
      exact .skip rfl rfl (.skip rfl rfl (.done maxLinks []))
    · next hroot =>
      obtain ⟨dropped, hrest, hdropped⟩ := Path.exists_skipped_trimSegments rest
      have hcut : base.stem = parent.segments ++ dropped := by
        rw [hstem, hqs, List.cons_append, ← hrest]
      have hstart : t.origin parent.segments = t.origin base.segments := by
        rw [origin, origin, ← base.head?_stem, hstem, hqs]
        rfl
      rw [hcut] at hleads
      obtain ⟨between, mid, hfront, hbehind⟩ := hleads.split
      obtain ⟨rfl, -⟩ := hbehind.of_skipped hdropped
      rw [← hstart] at hfront
      exact ⟨between, _, hfront, h.isFolder, withoutSlashes?_trimmed hqs hroot⟩

/-- The parent of a path that goes on behind a base does so too, by one name less. -/
theorem segments_parent_behind {before skips more : List String} {last : String} {parent : Path}
    (hpath : path.segments = base.stem ++ ((before ++ last :: skips) ++ name :: more))
    (hname : Path.skipped name = false) (hmore : ∀ s ∈ more, Path.skipped s = true)
    (hlast : Path.skipped last = false) (hskips : ∀ s ∈ skips, Path.skipped s = true)
    (hparent : path.parent? = some parent) :
    parent.segments = base.stem ++ (before ++ [last]) := by
  cases hstem : base.stem with
  | nil => exact absurd hstem base.stem_ne_nil
  | cons first rest =>
    have hsegments :
        path.segments = first :: ((rest ++ (before ++ last :: skips)) ++ name :: more) := by
      simp [hpath, hstem]
    obtain ⟨q, hq, hqs⟩ := Path.parent?_of_segments hsegments hname hmore
    rw [hparent] at hq
    cases hq
    have htrim :
        Path.trimSegments (rest ++ (before ++ last :: skips)) = rest ++ before ++ [last] := by
      rw [← List.append_assoc, Path.trimSegments_last hlast hskips]
    rw [htrim, if_neg (by simp)] at hqs
    simp [hqs]

/-- Making folders from a path below a folder outward adds those on the way down. -/
def AddsOutward (t : FileTree) (base : Path) (folder : Location) (fuel : Nat) : Prop :=
  ∀ {path : Path} {body : List String} {name : String},
    path.segments = base.stem ++ (body ++ [name]) → Path.skipped name = false →
    ".." ∉ body ++ [name] →
    AddsFolders folder (Path.counted body ++ [name]) t (t.makeMissing (outward fuel path)).1

theorem Ready.makeMissing_parent {fuel : Nat} (h : t.Ready base folder)
    (hadds : AddsOutward t base folder fuel) {more : List String}
    (hpath : path.segments = base.stem ++ (body ++ name :: more))
    (hname : Path.skipped name = false) (hmore : ∀ s ∈ more, Path.skipped s = true)
    (hup : ".." ∉ body) {parent : Path} (hparent : path.parent? = some parent) :
    AddsFolders folder (Path.counted body) t (t.makeMissing (outward fuel parent)).1 := by
  rcases Path.skipped_or_last body with hall | ⟨before, last, skips, rfl, hlast, hskips⟩
  · obtain ⟨left, dest, hleads, hdest, hslash⟩ :=
      h.exists_leads_parent hpath hname hmore hall hparent
    rw [makeMissing_of_exists hleads (by rw [hdest]; rfl) hslash fuel]
    exact AddsFolders.refl folder _ t
  · have hparentPath := segments_parent_behind hpath hname hmore hlast hskips hparent
    have hparentUp : ".." ∉ before ++ [last] := by
      intro hmem
      apply hup
      rcases List.mem_append.mp hmem with hb | hl
      · simp [hb]
      · simp [List.mem_singleton.mp hl]
    rw [Path.counted_last hlast hskips]
    exact hadds hparentPath hlast hparentUp

/-- Each path needs the folders of its parent, so this goes by induction on how far it may go. -/
theorem Ready.addsOutward (h : t.Ready base folder) (fuel : Nat) :
    AddsOutward t base folder fuel := by
  induction fuel with
  | zero =>
    intro path body name hpath hname hup
    exact AddsFolders.refl folder _ t
  | succ fuel ih =>
    intro path body name hpath hname hup
    rw [outward]
    rcases makeMissing_cons t path (path.parent?.elim [] (outward fuel)) with
      hsame | ⟨-, hnew⟩ | ⟨-, hsome, -, hrest⟩
    · rw [hsame]
      exact AddsFolders.refl folder _ t
    · exact h.makeFolder hpath hname hup hnew
    · obtain ⟨parent, hparent⟩ := Option.isSome_iff_exists.mp hsome
      rw [hparent, Option.elim_some] at hrest ⊢
      have hadds : AddsFolders folder (Path.counted body ++ [name]) t
          (t.makeMissing (outward fuel parent)).1 :=
        (h.makeMissing_parent ih hpath hname (by simp) (fun hmem => hup (by simp [hmem]))
          hparent).of_isPrefix (List.prefix_append _ _)
      rcases hrest with hsame | hnew
      · rw [hsame]
        exact hadds
      · exact hadds.trans ((h.addsFolders hadds).makeFolder hpath hname hup hnew)

end TableForge.FileTree
