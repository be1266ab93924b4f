import Mathlib.Data.List.Basic
import Mathlib.Data.List.Induction
import TableForge.FileTree.Operations

/-!
# Well-formed file trees

In a well-formed tree everything stands in a folder and has a name that a path can address. A
folder is cleared when everything below it but the folders is taken away; what this leaves is said
here by the view, and so are the names that a folder lists. One tree extends another when it has
everything the other has, files with whatever content.
-/
namespace TableForge

/-- Whether a location lies below a folder and is not the folder itself. -/
def Below (folder loc : Location) : Prop := folder <+: loc ∧ folder ≠ loc

instance (folder loc : Location) : Decidable (Below folder loc) :=
  inferInstanceAs (Decidable (_ ∧ _))

theorem below_iff_exists {folder loc : Location} :
    Below folder loc ↔ ∃ name rest, loc = folder ++ name :: rest := by
  constructor
  · rintro ⟨⟨rest, rfl⟩, hne⟩
    cases rest with
    | nil => simp at hne
    | cons name rest => exact ⟨name, rest, rfl⟩
  · rintro ⟨name, rest, rfl⟩
    exact ⟨List.prefix_append _ _, by simp⟩

theorem below_append {folder rest : Location} (h : rest ≠ []) : Below folder (folder ++ rest) :=
  ⟨List.prefix_append _ _, by simpa using h.symm⟩

theorem Below.ne_nil {folder loc : Location} (h : Below folder loc) : loc ≠ [] := by
  obtain ⟨name, rest, rfl⟩ := below_iff_exists.mp h
  simp

theorem Below.of_isPrefix {a b c : Location} (hab : a <+: b) (h : Below b c) : Below a c := by
  obtain ⟨more, rfl⟩ := hab
  obtain ⟨name, rest, rfl⟩ := below_iff_exists.mp h
  rw [List.append_assoc]
  exact below_append (by simp)

/-- Whether a path can address a name. -/
def ProperName (name : String) : Prop :=
  name ≠ "" ∧ name ≠ "." ∧ name ≠ ".." ∧ '/' ∉ name.toList

instance (name : String) : Decidable (ProperName name) :=
  inferInstanceAs (Decidable (_ ∧ _ ∧ _ ∧ _))

namespace FileTree

structure WellFormed (t : FileTree) : Prop where
  /-- Everything but the root stands in a folder. -/
  parent : ∀ e ∈ t.entries, e.1 ≠ [] ∧ t.isFolderAt e.1.dropLast = true
  proper : ∀ e ∈ t.entries, ∀ name ∈ e.1, ProperName name

theorem isFolderAt_iff {t : FileTree} {loc : Location} :
    t.isFolderAt loc = true ↔ t.node? loc = some .folder := by
  unfold isFolderAt
  split <;> simp_all

instance (t : FileTree) : Decidable t.WellFormed :=
  decidable_of_iff
    ((∀ e ∈ t.entries, e.1 ≠ [] ∧ t.isFolderAt e.1.dropLast = true) ∧
      ∀ e ∈ t.entries, ∀ name ∈ e.1, ProperName name)
    ⟨fun h => ⟨h.1, h.2⟩, fun h => ⟨h.parent, h.proper⟩⟩

theorem mem_entries_of_node? {t : FileTree} {loc : Location} {node : Node} (hne : loc ≠ [])
    (h : t.node? loc = some node) : (loc, node) ∈ t.entries := by
  rw [node?, if_neg hne] at h
  obtain ⟨before, after, hentries, -⟩ := List.lookup_eq_some_iff.mp h
  simp [hentries]

theorem node?_isSome_of_mem {t : FileTree} {e : Location × Node} (h : e ∈ t.entries) :
    (t.node? e.1).isSome = true := by
  unfold node?
  split
  · rfl
  · rw [List.lookup_isSome_iff]
    exact ⟨e, h, by simp⟩

theorem ne_nil_of_node? {t : FileTree} {loc : Location} {node : Node} (h : t.node? loc = some node)
    (hne : node ≠ .folder) : loc ≠ [] := by
  rintro rfl
  exact hne (Option.some.inj h).symm

namespace WellFormed

variable {t : FileTree}

/-- Above what stands somewhere there are folders. -/
theorem folder_above (h : t.WellFormed) {loc above : Location} {node : Node}
    (hnode : t.node? loc = some node) (hbelow : Below above loc) :
    t.node? above = some .folder := by
  obtain ⟨name, rest, rfl⟩ := below_iff_exists.mp hbelow
  induction rest using List.reverseRecOn generalizing node with
  | nil =>
    have hmem := mem_entries_of_node? (by simp) hnode
    have hparent := (h.parent _ hmem).2
    simp only [List.dropLast_concat] at hparent
    exact isFolderAt_iff.mp hparent
  | append_singleton rest last ih =>
    have hmem := mem_entries_of_node? (by simp) hnode
    have hparent := (h.parent _ hmem).2
    have hdrop : (above ++ name :: (rest ++ [last])).dropLast = above ++ name :: rest := by
      rw [← List.cons_append, ← List.append_assoc, List.dropLast_concat]
    rw [hdrop] at hparent
    exact ih (isFolderAt_iff.mp hparent) (below_append (by simp))

theorem proper_of_node? (h : t.WellFormed) {loc : Location} {node : Node}
    (hnode : t.node? loc = some node) : ∀ name ∈ loc, ProperName name := by
  intro name hname
  have hne : loc ≠ [] := List.ne_nil_of_mem hname
  exact h.proper _ (mem_entries_of_node? hne hnode) name hname

end WellFormed

/-- A folder lists a name exactly if something of this name stands in it. -/
theorem mem_names_iff {t : FileTree} {folder : Location} {name : String} :
    name ∈ t.names folder ↔ (t.node? (folder ++ [name])).isSome = true := by
  unfold names
  rw [List.mem_filterMap]
  constructor
  · rintro ⟨⟨loc, node⟩, hmem, h⟩
    by_cases hcond : loc ≠ [] ∧ loc.dropLast = folder
    · simp only [if_pos hcond] at h
      obtain ⟨before, rfl⟩ := List.getLast?_eq_some_iff.mp h
      have hfolder : before = folder := by simpa using hcond.2
      rw [← hfolder]
      exact node?_isSome_of_mem hmem
    · simp only [if_neg hcond] at h
      cases h
  · intro h
    obtain ⟨node, hnode⟩ := Option.isSome_iff_exists.mp h
    exact ⟨_, mem_entries_of_node? (by simp) hnode, by simp⟩

/-- How many entries there are for a location. -/
def occurrences (t : FileTree) (loc : Location) : Nat :=
  t.entries.countP fun e => e.1 = loc

/-- A folder lists a name as often as there are entries for it. -/
theorem count_names (t : FileTree) (folder : Location) (name : String) :
    (t.names folder).count name = t.occurrences (folder ++ [name]) := by
  unfold names occurrences
  rw [List.count, List.countP_filterMap]
  refine List.countP_congr fun e _ => ?_
  obtain ⟨loc, node⟩ := e
  rcases List.eq_nil_or_concat' loc with rfl | ⟨parent, last, rfl⟩
  · simp
  · by_cases hparent : parent = folder
    · simp [hparent]
    · have hne : parent ++ [last] ≠ folder ++ [name] := fun he => hparent (List.append_inj' he rfl).1
      simp [hparent, hne]

theorem occurrences_eq_zero_iff {t : FileTree} {loc : Location} (hne : loc ≠ []) :
    t.occurrences loc = 0 ↔ t.node? loc = none := by
  rw [occurrences, List.countP_eq_zero, node?, if_neg hne, List.lookup_eq_none_iff]
  simp only [decide_eq_true_eq, bne_iff_ne, ne_eq]
  exact forall₂_congr fun e _ => not_congr eq_comm

theorem occurrences_erase (t : FileTree) {loc other : Location} (hne : other ≠ loc) :
    (t.erase loc).occurrences other = t.occurrences other := by
  unfold occurrences erase
  rw [List.countP_filter]
  refine List.countP_congr fun e _ => ?_
  by_cases he : e.1 = other
  · simp [he, hne]
  · simp [he]

theorem le_foldl_max (lengths : List Nat) (start : Nat) :
    start ≤ lengths.foldl max start ∧ ∀ n ∈ lengths, n ≤ lengths.foldl max start := by
  induction lengths generalizing start with
  | nil => simp
  | cons n rest ih =>
    obtain ⟨hstart, hrest⟩ := ih (max start n)
    rw [List.foldl_cons]
    refine ⟨by omega, ?_⟩
    intro x hx
    rcases List.mem_cons.mp hx with rfl | hx
    · omega
    · exact hrest x hx

theorem length_le_height {t : FileTree} {loc : Location} {node : Node}
    (h : t.node? loc = some node) : loc.length ≤ t.height := by
  by_cases hne : loc = []
  · simp [hne]
  · have hmem := mem_entries_of_node? hne h
    exact (le_foldl_max _ 0).2 _ (List.mem_map.mpr ⟨_, hmem, rfl⟩)

/-! ## Cleared trees -/

/-- The tree without the files and links below a folder. -/
def cleared (t : FileTree) (folder : Location) : FileTree :=
  { t with entries := t.entries.filter fun e => !decide (Below folder e.1) || t.isFolderAt e.1 }

theorem lookup_filter_key {κ α : Type} [BEq κ] [LawfulBEq κ] [DecidableEq κ] (keep : κ → Bool) (k : κ)
    (entries : List (κ × α)) :
    (entries.filter fun e => keep e.1).lookup k = if keep k then entries.lookup k else none := by
  induction entries with
  | nil => simp
  | cons e rest ih =>
    obtain ⟨k', a⟩ := e
    cases hkeep : keep k' with
    | true =>
      rw [List.filter_cons_of_pos (by simp [hkeep]), lookup_cons_eq_ite, lookup_cons_eq_ite, ih]
      by_cases hk : k = k'
      · simp [hk, hkeep]
      · simp [hk]
    | false =>
      rw [List.filter_cons_of_neg (by simp [hkeep]), lookup_cons_eq_ite, ih]
      by_cases hk : k = k'
      · simp [hk, hkeep]
      · simp [hk]

theorem node?_cleared (t : FileTree) (folder loc : Location) :
    (t.cleared folder).node? loc =
      if Below folder loc ∧ t.isFolderAt loc = false then none else t.node? loc := by
  by_cases hroot : loc = []
  · have hno : ¬ (Below folder loc ∧ t.isFolderAt loc = false) := fun h => h.1.ne_nil hroot
    rw [if_neg hno, hroot]
    rfl
  · rw [node?, if_neg hroot, node?, if_neg hroot]
    show (t.entries.filter _).lookup loc = _
    rw [lookup_filter_key (fun l => !decide (Below folder l) || t.isFolderAt l)]
    by_cases hbelow : Below folder loc <;> cases hfolder : t.isFolderAt loc <;> simp [hbelow]

theorem node?_of_node?_cleared {t : FileTree} {folder loc : Location} {node : Node}
    (h : (t.cleared folder).node? loc = some node) : t.node? loc = some node := by
  rw [node?_cleared] at h
  split at h
  · cases h
  · exact h

/-- Nothing but folders is left below a cleared folder. -/
theorem folder_of_node?_cleared {t : FileTree} {folder loc : Location} {node : Node}
    (hbelow : Below folder loc) (h : (t.cleared folder).node? loc = some node) : node = .folder := by
  rw [node?_cleared] at h
  split at h
  · cases h
  · next hkept =>
    have hfolder : t.isFolderAt loc = true := by
      by_contra hno
      exact hkept ⟨hbelow, by simpa using hno⟩
    rw [isFolderAt_iff.mp hfolder] at h
    exact (Option.some.inj h).symm

theorem isFolder_cleared {t : FileTree} {folder loc : Location}
    (h : t.node? loc = some .folder) : (t.cleared folder).node? loc = some .folder := by
  rw [node?_cleared, if_neg, h]
  rintro ⟨-, hno⟩
  rw [isFolderAt_iff.mpr h] at hno
  cases hno

end FileTree

end TableForge
