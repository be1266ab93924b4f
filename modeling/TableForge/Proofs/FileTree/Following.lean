import TableForge.Proofs.FileTree.WellFormed
import TableForge.Proofs.Path.Parent

/-!
# Where segments lead

Following a path is told here as a relation that keeps account of the links that are still allowed,
so that a path can be cut in two and each part followed on its own. What a walk does behind the
first part depends on that part only through where it leads. Segments lead to the same place in
every tree that extends the one they were followed in, and below a folder without links plain names
lead straight down.
-/
namespace TableForge

/-- Whether two nodes are the same but for the content of files. -/
def Node.Alike : Node → Node → Prop
  | .folder, .folder => True
  | .file _, .file _ => True
  | .link a, .link b => a = b
  | _, _ => False

theorem Node.Alike.refl (n : Node) : n.Alike n := by
  cases n <;> simp [Alike]

theorem Node.Alike.trans {a b c : Node} (hab : a.Alike b) (hbc : b.Alike c) : a.Alike c := by
  cases a <;> cases b <;> cases c <;> simp_all [Alike]

theorem Node.Alike.eq_folder {n : Node} (h : Node.folder.Alike n) : n = .folder := by
  cases n with
  | folder => rfl
  | file content => cases h
  | link target => cases h

namespace FileTree

/-- A segment that is looked up as a name. -/
def Named (segment : String) : Prop :=
  Path.skipped segment = false ∧ segment ≠ ".." ∧ segment.utf8ByteSize ≤ maxNameBytes

/-- Segments lead from a location to a destination. The first number is how many links may be
followed, the second how many of them are left. -/
inductive Leads (t : FileTree) : Nat → Location → List String → Nat → Location → Prop
  | done (links : Nat) (loc : Location) : Leads t links loc [] links loc
  | skip {links left : Nat} {loc dest : Location} {segment : String} {rest : List String}
      (hfolder : t.node? loc = some .folder) (hskip : Path.skipped segment = true)
      (hrest : Leads t links loc rest left dest) : Leads t links loc (segment :: rest) left dest
  | up {links left : Nat} {loc dest : Location} {rest : List String}
      (hfolder : t.node? loc = some .folder) (hrest : Leads t links loc.dropLast rest left dest) :
      Leads t links loc (".." :: rest) left dest
  | name {links left : Nat} {loc dest : Location} {segment : String} {rest : List String}
      (hfolder : t.node? loc = some .folder) (hname : Named segment)
      (hnode : ∀ target, t.node? (loc ++ [segment]) ≠ some (.link target))
      (hrest : Leads t links (loc ++ [segment]) rest left dest) :
      Leads t links loc (segment :: rest) left dest
  | link {links left : Nat} {loc dest : Location} {segment target : String} {rest : List String}
      (hfolder : t.node? loc = some .folder) (hname : Named segment)
      (hnode : t.node? (loc ++ [segment]) = some (.link target))
      (hrest : Leads t links (if (Path.mk target).isAbsolute then [] else loc)
        ((Path.mk target).segments ++ rest) left dest) :
      Leads t (links + 1) loc (segment :: rest) left dest

/-- One tree has everything that another has, files with whatever content. -/
structure Extends (small big : FileTree) : Prop where
  here : small.here = big.here
  node : ∀ loc n, small.node? loc = some n → ∃ m, big.node? loc = some m ∧ n.Alike m

namespace Extends

theorem of_same {small big : FileTree} (hhere : big.here = small.here)
    (hsame : ∀ loc, big.node? loc = small.node? loc) : Extends small big :=
  ⟨hhere.symm, fun loc n hn => ⟨n, (hsame loc).trans hn, .refl n⟩⟩

theorem refl (t : FileTree) : Extends t t := of_same rfl fun _ => rfl

theorem trans {a b c : FileTree} (hab : Extends a b) (hbc : Extends b c) : Extends a c := by
  refine ⟨hab.here.trans hbc.here, ?_⟩
  intro loc n hn
  obtain ⟨m, hm, halike⟩ := hab.node loc n hn
  obtain ⟨k, hk, halike'⟩ := hbc.node loc m hm
  exact ⟨k, hk, halike.trans halike'⟩

theorem folder {small big : FileTree} {loc : Location} (h : Extends small big)
    (hs : small.node? loc = some .folder) : big.node? loc = some .folder := by
  obtain ⟨m, hm, halike⟩ := h.node loc _ hs
  rw [hm, halike.eq_folder]

end Extends

/-- No link stands below a location. -/
def NoLinksBelow (t : FileTree) (loc : Location) : Prop :=
  ∀ other, Below loc other → ∀ target, t.node? other ≠ some (.link target)

variable {t : FileTree} {last : LastName} {links left : Nat} {loc dest : Location}
  {segment : String} {rest segments : List String}

/-! ## Walks step by step -/

theorem bind_ok_iff {ε α β : Type} {x : Except ε α} {f : α → Except ε β} {b : β} :
    (x >>= f) = .ok b ↔ ∃ a, x = .ok a ∧ f a = .ok b := by
  cases x <;> simp [bind, Except.bind]

theorem walk_nil (t : FileTree) (last : LastName) (links : Nat) (loc : Location) :
    t.walk last links loc [] = .ok loc := by
  cases links <;> rfl

/-- What is left to do at a link. -/
def followLink (t : FileTree) (last : LastName) : Nat → Location → List String →
    Except FileFault Location
  | 0, _, _ => .error .endlessLinks
  | links + 1, loc, segments => t.walk last links loc segments

theorem walk_eq (t : FileTree) (last : LastName) (links : Nat) :
    t.walk last links = t.walkSegments last (t.followLink last links) := by
  cases links <;> rfl

theorem needFolder_eq_ok_iff : t.needFolder loc = .ok () ↔ t.node? loc = some .folder := by
  unfold needFolder
  split <;> simp_all

/-- Every segment needs a folder to stand in. -/
theorem folder_of_walk {found : Location} (h : t.walk last links loc (segment :: rest) = .ok found) :
    t.node? loc = some .folder := by
  rw [walk_eq, walkSegments] at h
  obtain ⟨u, hneed, -⟩ := bind_ok_iff.mp h
  exact needFolder_eq_ok_iff.mp hneed

theorem walk_skip (hfolder : t.node? loc = some .folder) (hskip : Path.skipped segment = true) :
    t.walk last links loc (segment :: rest) = t.walk last links loc rest := by
  have hcase : segment = "" ∨ segment = "." := by simpa [Path.skipped] using hskip
  rw [walk_eq, walkSegments, needFolder_eq_ok_iff.mpr hfolder, if_pos hcase]
  rfl

theorem walk_up (hfolder : t.node? loc = some .folder) :
    t.walk last links loc (".." :: rest) = t.walk last links loc.dropLast rest := by
  have hcase : ¬ (".." = "" ∨ ".." = ".") := by decide
  rw [walk_eq, walkSegments, needFolder_eq_ok_iff.mpr hfolder, if_neg hcase, if_pos rfl]
  rfl

/-- What a walk does at a name. -/
theorem walk_name (hfolder : t.node? loc = some .folder) (hskip : Path.skipped segment = false)
    (hup : segment ≠ "..") :
    t.walk last links loc (segment :: rest) =
      if last = .writable ∧ rest ≠ [] ∧ rest.all (· = "") then .error .isFolder
      else if maxNameBytes < segment.utf8ByteSize then .error .nameTooLong
      else
        match t.node? (loc ++ [segment]) with
        | some (.link target) =>
          if rest = [] ∧ last = .itself then .ok (loc ++ [segment])
          else
            t.followLink last links (if (Path.mk target).isAbsolute then [] else loc)
              ((Path.mk target).segments ++ rest)
        | _ => t.walk last links (loc ++ [segment]) rest := by
  have hcase : ¬ (segment = "" ∨ segment = ".") := by simpa [Path.skipped] using hskip
  rw [walk_eq, walkSegments, needFolder_eq_ok_iff.mpr hfolder, if_neg hcase, if_neg hup]
  rfl

/-! ## The relation and the walks -/

theorem Leads.folder_or_nil (h : t.Leads links loc segments left dest) :
    (segments = [] ∧ dest = loc) ∨ t.node? loc = some .folder := by
  cases h with
  | done => exact Or.inl ⟨rfl, rfl⟩
  | skip hfolder => exact Or.inr hfolder
  | up hfolder => exact Or.inr hfolder
  | name hfolder => exact Or.inr hfolder
  | link hfolder => exact Or.inr hfolder

/-- With a name still to come a walk does not stop at a link. -/
theorem not_last_of_behind {behind : List String}
    (hbehind : last ≠ .itself ∨ ∃ s ∈ behind, Path.skipped s = false) (rest : List String) :
    ¬ (rest ++ behind = [] ∧ last = .itself) := by
  rintro ⟨hnil, hl⟩
  rcases hbehind with hne | ⟨s, hs, -⟩
  · exact hne hl
  · rw [(List.append_eq_nil_iff.mp hnil).2] at hs
    cases hs

/-- Behind segments that lead somewhere a walk goes on from there, if a name is still to come. -/
theorem Leads.walk_append (h : t.Leads links loc segments left dest) {behind : List String}
    (hbehind : last = .target ∨ ∃ s ∈ behind, Path.skipped s = false) :
    t.walk last links loc (segments ++ behind) = t.walk last left dest behind := by
  have hwritable (rest : List String) :
      ¬ (last = .writable ∧ rest ++ behind ≠ [] ∧ (rest ++ behind).all (· = "") = true) := by
    rintro ⟨hl, -, hall⟩
    rcases hbehind with ht | ⟨s, hs, hskip⟩
    · rw [ht] at hl
      cases hl
    · have hempty := List.all_eq_true.mp hall s (List.mem_append_right _ hs)
      simp [Path.skipped] at hskip hempty
      exact hskip.1 hempty
  induction h with
  | done => rfl
  | skip hfolder hskip hrest ih =>
    rw [List.cons_append, walk_skip hfolder hskip, ih]
  | up hfolder hrest ih =>
    rw [List.cons_append, walk_up hfolder, ih]
  | @name links left loc dest segment rest hfolder hname hnode hrest ih =>
    rw [List.cons_append, walk_name hfolder hname.1 hname.2.1, if_neg (hwritable rest),
      if_neg (Nat.not_lt.mpr hname.2.2)]
    split
    · next target hlink => exact absurd hlink (hnode target)
    · exact ih
  | @link links left loc dest segment target rest hfolder hname hnode hrest ih =>
    rw [List.cons_append, walk_name hfolder hname.1 hname.2.1, if_neg (hwritable rest),
      if_neg (Nat.not_lt.mpr hname.2.2), hnode]
    have hne : last ≠ .itself ∨ ∃ s ∈ behind, Path.skipped s = false :=
      hbehind.imp_left fun ht => by simp [ht]
    simp only [if_neg (not_last_of_behind hne rest), followLink]
    rw [← List.append_assoc, ih]

theorem Leads.walk_target (h : t.Leads links loc segments left dest) :
    t.walk .target links loc segments = .ok dest := by
  have happend : t.walk .target links loc (segments ++ []) = t.walk .target left dest [] :=
    h.walk_append (Or.inl rfl)
  rw [List.append_nil, walk_nil] at happend
  exact happend

theorem exists_leads_of_follow {front behind : List String}
    (hbehind : last ≠ .itself ∨ ∃ s ∈ behind, Path.skipped s = false)
    (hfollow : ∀ {loc : Location} {front : List String},
      t.followLink last links loc (front ++ behind) = .ok dest →
      ∃ fewer left mid, links = fewer + 1 ∧ t.Leads fewer loc front left mid ∧
        t.walk last left mid behind = .ok dest)
    (h : t.walk last links loc (front ++ behind) = .ok dest) :
    ∃ left mid, t.Leads links loc front left mid ∧ t.walk last left mid behind = .ok dest := by
  induction front generalizing loc with
  | nil => exact ⟨links, loc, .done links loc, h⟩
  | cons segment rest ih =>
    rw [List.cons_append] at h
    have hfolder := folder_of_walk h
    cases hskip : Path.skipped segment with
    | true =>
      rw [walk_skip hfolder hskip] at h
      obtain ⟨left, mid, hrest, hmid⟩ := ih h
      exact ⟨left, mid, .skip hfolder hskip hrest, hmid⟩
    | false =>
      by_cases hup : segment = ".."
      · rw [hup, walk_up hfolder] at h
        obtain ⟨left, mid, hrest, hmid⟩ := ih h
        exact ⟨left, mid, hup ▸ .up hfolder hrest, hmid⟩
      · rw [walk_name hfolder hskip hup] at h
        split at h
        · cases h
        · split at h
          · cases h
          · next hlong =>
            have hname : Named segment := ⟨hskip, hup, Nat.not_lt.mp hlong⟩
            split at h
            · next target hlink =>
              rw [if_neg (not_last_of_behind hbehind rest), ← List.append_assoc] at h
              obtain ⟨fewer, left, mid, rfl, hrest, hmid⟩ := hfollow h
              exact ⟨left, mid, .link hfolder hname hlink hrest, hmid⟩
            · next hnode =>
              obtain ⟨left, mid, hrest, hmid⟩ := ih h
              exact ⟨left, mid, .name hfolder hname hnode hrest, hmid⟩

/-- A walk that succeeds has followed the segments of its first part, if links at the end of it are
followed or a name is still to come. -/
theorem exists_leads_of_walk_append {front behind : List String}
    (hbehind : last ≠ .itself ∨ ∃ s ∈ behind, Path.skipped s = false)
    (h : t.walk last links loc (front ++ behind) = .ok dest) :
    ∃ left mid, t.Leads links loc front left mid ∧ t.walk last left mid behind = .ok dest := by
  induction links generalizing loc front with
  | zero =>
    refine exists_leads_of_follow hbehind ?_ h
    intro loc front hf
    cases hf
  | succ links ih =>
    refine exists_leads_of_follow hbehind ?_ h
    intro loc front hf
    obtain ⟨left, mid, hleads, hmid⟩ := ih hf
    exact ⟨links, left, mid, rfl, hleads, hmid⟩

theorem exists_leads_of_walk (hlast : last ≠ .itself)
    (h : t.walk last links loc segments = .ok dest) :
    ∃ left, t.Leads links loc segments left dest := by
  rw [← List.append_nil segments] at h
  obtain ⟨left, mid, hleads, hmid⟩ := exists_leads_of_walk_append (Or.inl hlast) h
  rw [walk_nil] at hmid
  cases hmid
  exact ⟨left, hleads⟩

theorem Leads.split {front behind : List String}
    (h : t.Leads links loc (front ++ behind) left dest) :
    ∃ between mid, t.Leads links loc front between mid ∧ t.Leads between mid behind left dest := by
  generalize hs : front ++ behind = segments at h
  induction h generalizing front with
  | done links loc =>
    obtain ⟨rfl, rfl⟩ := List.append_eq_nil_iff.mp hs
    exact ⟨links, loc, .done links loc, .done links loc⟩
  | @skip links left loc dest segment rest hfolder hskip hrest ih =>
    cases front with
    | nil =>
      rw [List.nil_append] at hs
      exact ⟨links, loc, .done links loc, hs ▸ .skip hfolder hskip hrest⟩
    | cons s front =>
      obtain ⟨rfl, htail⟩ := List.cons.inj hs
      obtain ⟨between, mid, hfront, hbehind⟩ := ih htail
      exact ⟨between, mid, .skip hfolder hskip hfront, hbehind⟩
  | @up links left loc dest rest hfolder hrest ih =>
    cases front with
    | nil =>
      rw [List.nil_append] at hs
      exact ⟨links, loc, .done links loc, hs ▸ .up hfolder hrest⟩
    | cons s front =>
      obtain ⟨rfl, htail⟩ := List.cons.inj hs
      obtain ⟨between, mid, hfront, hbehind⟩ := ih htail
      exact ⟨between, mid, .up hfolder hfront, hbehind⟩
  | @name links left loc dest segment rest hfolder hname hnode hrest ih =>
    cases front with
    | nil =>
      rw [List.nil_append] at hs
      exact ⟨links, loc, .done links loc, hs ▸ .name hfolder hname hnode hrest⟩
    | cons s front =>
      obtain ⟨rfl, htail⟩ := List.cons.inj hs
      obtain ⟨between, mid, hfront, hbehind⟩ := ih htail
      exact ⟨between, mid, .name hfolder hname hnode hfront, hbehind⟩
  | @link links left loc dest segment target rest hfolder hname hnode hrest ih =>
    cases front with
    | nil =>
      rw [List.nil_append] at hs
      exact ⟨links + 1, loc, .done _ loc, hs ▸ .link hfolder hname hnode hrest⟩
    | cons s front =>
      obtain ⟨rfl, htail⟩ := List.cons.inj hs
      obtain ⟨between, mid, hfront, hbehind⟩ := ih (by rw [List.append_assoc]; exact congrArg _ htail)
      exact ⟨between, mid, .link hfolder hname hnode hfront, hbehind⟩

theorem Leads.append {behind : List String} {rest : Nat} {mid : Location}
    (h : t.Leads links loc segments left mid) (hbehind : t.Leads left mid behind rest dest) :
    t.Leads links loc (segments ++ behind) rest dest := by
  induction h with
  | done => exact hbehind
  | skip hfolder hskip _ ih => exact .skip hfolder hskip (ih hbehind)
  | up hfolder _ ih => exact .up hfolder (ih hbehind)
  | name hfolder hname hnode _ ih => exact .name hfolder hname hnode (ih hbehind)
  | link hfolder hname hnode _ ih =>
    have hrest := ih hbehind
    rw [List.append_assoc] at hrest
    exact .link hfolder hname hnode hrest

/-- Segments that count for nothing lead nowhere else. -/
theorem Leads.of_skipped (h : t.Leads links loc segments left dest)
    (hskip : ∀ s ∈ segments, Path.skipped s = true) : dest = loc ∧ left = links := by
  induction h with
  | done => exact ⟨rfl, rfl⟩
  | skip hfolder _ hrest ih => exact ih fun s hs => hskip s (List.mem_cons_of_mem _ hs)
  | up =>
    have hup := hskip ".." List.mem_cons_self
    exact absurd hup (by decide)
  | name _ hname =>
    have hname' := hskip _ List.mem_cons_self
    rw [hname.1] at hname'
    cases hname'
  | link _ hname =>
    have hname' := hskip _ List.mem_cons_self
    rw [hname.1] at hname'
    cases hname'

/-- A walk that leaves a last link alone ends at something too. -/
theorem Leads.walk_itself (h : t.Leads links loc segments left dest)
    (hdest : (t.node? dest).isSome = true) :
    ∃ found, t.walk .itself links loc segments = .ok found ∧ (t.node? found).isSome = true := by
  induction h with
  | done links loc => exact ⟨loc, walk_nil t .itself links loc, hdest⟩
  | skip hfolder hskip hrest ih =>
    rw [walk_skip hfolder hskip]
    exact ih hdest
  | up hfolder hrest ih =>
    rw [walk_up hfolder]
    exact ih hdest
  | @name links left loc dest segment rest hfolder hname hnode hrest ih =>
    rw [walk_name hfolder hname.1 hname.2.1, if_neg (by simp), if_neg (Nat.not_lt.mpr hname.2.2)]
    split
    · next target hlink => exact absurd hlink (hnode target)
    · exact ih hdest
  | @link links left loc dest segment target rest hfolder hname hnode hrest ih =>
    rw [walk_name hfolder hname.1 hname.2.1, if_neg (by simp), if_neg (Nat.not_lt.mpr hname.2.2),
      hnode]
    simp only
    split
    · exact ⟨_, rfl, by rw [hnode]; rfl⟩
    · exact ih hdest

/-- Segments lead to the same place in a tree that has more, unless a link is new there. -/
theorem Leads.grow {small big : FileTree} (hext : Extends small big)
    (h : small.Leads links loc segments left dest)
    (hdest : ∀ target, big.node? dest = some (.link target) → (small.node? dest).isSome = true) :
    big.Leads links loc segments left dest := by
  induction h with
  | done links loc => exact .done links loc
  | skip hf hskip _ ih => exact .skip (hext.folder hf) hskip (ih hdest)
  | up hf _ ih => exact .up (hext.folder hf) (ih hdest)
  | @name links left loc dest segment rest hf hname hnode hrest ih =>
    refine .name (hext.folder hf) hname ?_ (ih hdest)
    intro target hlink
    have hsome : (small.node? (loc ++ [segment])).isSome = true := by
      rcases hrest.folder_or_nil with ⟨-, rfl⟩ | hfolder
      · exact hdest target hlink
      · rw [hfolder]
        rfl
    obtain ⟨n, hn⟩ := Option.isSome_iff_exists.mp hsome
    obtain ⟨m, hm, halike⟩ := hext.node _ n hn
    rw [hlink] at hm
    cases hm
    cases n with
    | folder => cases halike
    | file content => cases halike
    | link other => exact hnode other hn
  | @link links left loc dest segment target rest hf hname hnode hrest ih =>
    obtain ⟨m, hm, halike⟩ := hext.node _ _ hnode
    cases m with
    | folder => cases halike
    | file content => cases halike
    | link other =>
      cases halike
      exact .link (hext.folder hf) hname hm (ih hdest)

/-! ## Below a folder without links -/

theorem NoLinksBelow.step (h : t.NoLinksBelow loc) (name : String) :
    t.NoLinksBelow (loc ++ [name]) :=
  fun other hbelow => h other (hbelow.of_isPrefix (List.prefix_append _ _))

/-- Below a folder without links names lead straight down, through folders only. -/
theorem NoLinksBelow.walk (hlinks : t.NoLinksBelow loc) (hup : ".." ∉ segments) {found : Location}
    (h : t.walk last links loc segments = .ok found) :
    found = loc ++ Path.counted segments ∧
      ∀ front, front <+: Path.counted segments → front ≠ Path.counted segments →
        t.node? (loc ++ front) = some .folder := by
  induction segments generalizing loc with
  | nil =>
    rw [walk_nil] at h
    cases h
    refine ⟨by simp [Path.counted], ?_⟩
    intro front hstart hne
    exact absurd (List.prefix_nil.mp hstart) hne
  | cons segment rest ih =>
    have hfolder := folder_of_walk h
    rw [List.mem_cons, not_or] at hup
    cases hskip : Path.skipped segment with
    | true =>
      have hcounted : Path.counted (segment :: rest) = Path.counted rest := by
        rw [Path.counted, List.filter_cons_of_neg (by simp [hskip])]
        rfl
      rw [walk_skip hfolder hskip] at h
      rw [hcounted]
      exact ih hlinks hup.2 h
    | false =>
      have hcounted : Path.counted (segment :: rest) = segment :: Path.counted rest := by
        rw [Path.counted, List.filter_cons_of_pos (by simp [hskip])]
        rfl
      have hrest : t.walk last links (loc ++ [segment]) rest = .ok found := by
        rw [walk_name hfolder hskip (Ne.symm hup.1)] at h
        split at h
        · cases h
        · split at h
          · cases h
          · split at h
            · next target hlink =>
              exact absurd hlink (hlinks _ (below_append (by simp)) target)
            · exact h
      obtain ⟨hfound, hfolders⟩ := ih (hlinks.step segment) hup.2 hrest
      rw [hcounted]
      refine ⟨by simp [hfound], ?_⟩
      intro front hstart hne
      cases front with
      | nil => simpa using hfolder
      | cons s front =>
        obtain ⟨rfl, hfront⟩ := List.cons_prefix_cons.mp hstart
        have hnode := hfolders front hfront (by simpa using hne)
        simpa using hnode

/-! ## Paths -/

/-- Where a path with the given segments starts. -/
def origin (t : FileTree) (segments : List String) : Location :=
  if segments.head? = some "" then [] else t.here

theorem text_ne_empty_of_checkPath {path : Path} (h : checkPath path = .ok ()) :
    path.text ≠ "" := by
  intro he
  simp [checkPath, he] at h

theorem origin_segments {path : Path} (h : path.text ≠ "") (t : FileTree) :
    t.origin path.segments = if path.isAbsolute then [] else t.here := by
  have hiff : path.segments.head? = some "" ↔ path.isAbsolute = true := by
    refine ⟨?_, Path.head?_segments_of_isAbsolute⟩
    intro hhead
    rw [Path.isAbsolute_iff]
    cases hs : path.segments with
    | nil => exact absurd hs path.segments_ne_nil
    | cons first rest =>
      rw [hs] at hhead
      cases hhead
      cases rest with
      | nil => exact absurd (Path.text_of_segments hs) h
      | cons next more => exact ⟨next, more, rfl⟩
  simp [origin, hiff]

theorem resolve_ok_iff {path : Path} :
    t.resolve last path = .ok dest ↔ checkPath path = .ok () ∧
      t.walk last maxLinks (t.origin path.segments) path.segments = .ok dest := by
  rw [resolve, bind_ok_iff]
  constructor
  · rintro ⟨u, hcheck, hwalk⟩
    rw [origin_segments (text_ne_empty_of_checkPath hcheck)]
    exact ⟨hcheck, hwalk⟩
  · rintro ⟨hcheck, hwalk⟩
    rw [origin_segments (text_ne_empty_of_checkPath hcheck)] at hwalk
    exact ⟨(), hcheck, hwalk⟩

theorem find_ok_iff {path : Path} {node : Node} :
    t.find path = .ok (dest, node) ↔
      t.resolve .target path = .ok dest ∧ t.node? dest = some node := by
  rw [find, bind_ok_iff]
  constructor
  · rintro ⟨loc, hresolve, h⟩
    split at h
    · next n hnode =>
      cases h
      exact ⟨hresolve, hnode⟩
    · cases h
  · rintro ⟨hresolve, hnode⟩
    refine ⟨dest, hresolve, ?_⟩
    rw [hnode]

/-- A path leads to a location, whether or not it ends in a slash. -/
def LeadsTo (t : FileTree) (path : Path) (loc : Location) : Prop :=
  path.text ≠ "" ∧ ∃ left, t.Leads maxLinks (t.origin path.segments) path.stem left loc

theorem leadsTo_of_find {path : Path} {node : Node} (h : t.find path = .ok (loc, node)) :
    t.LeadsTo path loc := by
  obtain ⟨hresolve, -⟩ := find_ok_iff.mp h
  obtain ⟨hcheck, hwalk⟩ := resolve_ok_iff.mp hresolve
  obtain ⟨left, hleads⟩ := exists_leads_of_walk (by decide) hwalk
  refine ⟨text_ne_empty_of_checkPath hcheck, ?_⟩
  rcases path.segments_eq_stem with hs | hs
  · rw [hs] at hleads ⊢
    exact ⟨left, hleads⟩
  · have hcut : t.Leads maxLinks (t.origin path.segments) (path.stem ++ [""]) left loc := by
      rw [← hs]
      exact hleads
    obtain ⟨between, mid, hstem, hslash⟩ := hcut.split
    obtain ⟨rfl, -⟩ := hslash.of_skipped (by decide)
    exact ⟨between, hstem⟩

theorem LeadsTo.unique {path : Path} {other : Location} (h : t.LeadsTo path loc)
    (h' : t.LeadsTo path other) : loc = other := by
  obtain ⟨-, left, hleads⟩ := h
  obtain ⟨-, left', hleads'⟩ := h'
  have hwalk := hleads.walk_target
  rw [hleads'.walk_target] at hwalk
  exact (Except.ok.inj hwalk).symm

theorem LeadsTo.mono {small big : FileTree} {path : Path} (hext : Extends small big)
    (h : small.LeadsTo path loc) (hloc : (small.node? loc).isSome = true) :
    big.LeadsTo path loc := by
  obtain ⟨hne, left, hleads⟩ := h
  have horigin : big.origin path.segments = small.origin path.segments := by
    rw [origin, origin, hext.here]
  exact ⟨hne, left, horigin ▸ hleads.grow hext fun _ _ => hloc⟩

theorem origin_of_segments {base path : Path} {behind : List String}
    (h : path.segments = base.stem ++ behind) (t : FileTree) :
    t.origin path.segments = t.origin base.segments := by
  rw [origin, origin, h, List.head?_append_of_ne_nil _ base.stem_ne_nil, Path.head?_stem]

/-- A path that goes on behind another is followed from where the other leads. -/
theorem LeadsTo.walk_behind {base path : Path} {behind : List String} (h : t.LeadsTo base loc)
    (hpath : path.segments = base.stem ++ behind) (hname : ∃ s ∈ behind, Path.skipped s = false)
    (last : LastName) :
    ∃ left, t.walk last maxLinks (t.origin path.segments) path.segments =
      t.walk last left loc behind := by
  obtain ⟨-, left, hleads⟩ := h
  refine ⟨left, ?_⟩
  rw [origin_of_segments hpath, hpath]
  exact hleads.walk_append (Or.inr hname)

/-- A path that is followed with success has led through the one that it goes on behind. -/
theorem exists_leadsTo_of_walk {base path : Path} {behind : List String} {found : Location}
    (hbase : base.text ≠ "") (hpath : path.segments = base.stem ++ behind)
    (hname : ∃ s ∈ behind, Path.skipped s = false)
    (h : t.walk last maxLinks (t.origin path.segments) path.segments = .ok found) :
    ∃ left mid, t.LeadsTo base mid ∧ t.walk last left mid behind = .ok found := by
  rw [origin_of_segments hpath, hpath] at h
  obtain ⟨left, mid, hleads, hmid⟩ := exists_leads_of_walk_append (Or.inr hname) h
  exact ⟨left, mid, ⟨hbase, left, hleads⟩, hmid⟩

theorem folder_of_walk_slash_of_follow
    (hfollow : ∀ {loc found : Location} {front : List String},
      t.followLink last links loc (front ++ [""]) = .ok found → t.node? found = some .folder)
    {front : List String} {found : Location}
    (h : t.walk last links loc (front ++ [""]) = .ok found) : t.node? found = some .folder := by
  induction front generalizing loc with
  | nil =>
    have hfolder := folder_of_walk h
    rw [List.nil_append, walk_skip hfolder (by decide), walk_nil] at h
    cases h
    exact hfolder
  | cons segment front ih =>
    rw [List.cons_append] at h
    have hfolder := folder_of_walk h
    cases hskip : Path.skipped segment with
    | true =>
      rw [walk_skip hfolder hskip] at h
      exact ih h
    | false =>
      by_cases hup : segment = ".."
      · rw [hup, walk_up hfolder] at h
        exact ih h
      · rw [walk_name hfolder hskip hup] at h
        split at h
        · cases h
        · split at h
          · cases h
          · split at h
            · rw [if_neg (by simp), ← List.append_assoc] at h
              exact hfollow h
            · exact ih h

/-- A walk over a slash at the end of a path ends in a folder. -/
theorem folder_of_walk_slash {front : List String} {found : Location}
    (h : t.walk last links loc (front ++ [""]) = .ok found) : t.node? found = some .folder := by
  induction links generalizing loc front found with
  | zero =>
    refine folder_of_walk_slash_of_follow ?_ h
    intro loc found front hf
    cases hf
  | succ links ih =>
    refine folder_of_walk_slash_of_follow ?_ h
    intro loc found front hf
    exact ih hf

end FileTree

end TableForge
