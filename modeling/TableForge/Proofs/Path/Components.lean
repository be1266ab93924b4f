import TableForge.Proofs.Path.Join

/-!
# Paths that lead downwards

A path leads downwards when its components are names: it is relative and goes neither up nor to the
current folder. On segments this is decided by the first segment and by the absence of `..`. Such a
path joined to any base appends its components to those of the base, so everything that is put
together from downward paths stays inside the base.
-/
namespace TableForge.Path

/-- Every component is a name; there may be none. -/
def Downward (p : Path) : Prop := ∀ c ∈ p.components, ∃ name, c = .normal name

instance (p : Path) : Decidable p.Downward :=
  decidable_of_iff (p.components.all (fun c => c matches .normal _) = true) (by
    simp only [Downward, List.all_eq_true]
    refine forall₂_congr fun c _ => ?_
    cases c <;> simp)

/-- Whether a segment counts for nothing beyond the start of a path. -/
def skipped (segment : String) : Bool := segment = "" || segment = "."

/-- The segments that count. -/
def counted (segments : List String) : List String := segments.filter fun s => !skipped s

def names (p : Path) : List String := counted p.segments

theorem isPlain_iff {p : Path} : p.isPlain = true ↔ p.components ≠ [] ∧ p.Downward := by
  simp only [isPlain, Downward, Bool.and_eq_true, decide_eq_true_eq, List.all_eq_true]
  refine and_congr_right fun _ => forall₂_congr fun c _ => ?_
  cases c <;> simp

/-! ## Components as segments -/

theorem filterMap_tail_of_head {segments : List String}
    (h : segments.head? = some "" ∨ segments.head? = some ".") :
    segments.tail.filterMap Component.ofSegment? = segments.filterMap Component.ofSegment? := by
  cases segments with
  | nil => rfl
  | cons segment rest =>
    have hnone : Component.ofSegment? segment = none := by
      simp only [List.head?_cons, Option.some.injEq] at h
      simp [Component.ofSegment?, h]
    simp [hnone]

theorem head?_segments_of_isAbsolute {p : Path} (h : p.isAbsolute = true) :
    p.segments.head? = some "" := by
  obtain ⟨next, rest, hs⟩ := (isAbsolute_iff p).mp h
  rw [hs, List.head?_cons]

theorem components_eq (p : Path) :
    p.components = p.anchored.1.toList ++ p.segments.filterMap Component.ofSegment? := by
  unfold components anchored
  split
  · next h =>
    rw [filterMap_tail_of_head (Or.inl (head?_segments_of_isAbsolute h))]
  · split
    · next h => rw [filterMap_tail_of_head (Or.inr h)]
    · rfl

theorem components_empty : (Path.mk "").components = [] := by decide

/-- What counts of a list of segments without `..` are names. -/
theorem filterMap_ofSegment? {segments : List String} (h : ".." ∉ segments) :
    segments.filterMap Component.ofSegment? = (counted segments).map .normal := by
  induction segments with
  | nil => rfl
  | cons segment rest ih =>
    rw [List.mem_cons, not_or] at h
    have hrest := ih h.2
    cases hskip : skipped segment with
    | true =>
      have hcase : segment = "" ∨ segment = "." := by simpa [skipped] using hskip
      rw [counted, List.filter_cons_of_neg (by simp [hskip]), ← counted, ← hrest]
      simp [Component.ofSegment?, hcase]
    | false =>
      have hcase : ¬ (segment = "" ∨ segment = ".") := by simpa [skipped] using hskip
      rw [counted, List.filter_cons_of_pos (by simp [hskip]), ← counted, List.map_cons, ← hrest]
      simp [Component.ofSegment?, hcase, Ne.symm h.1]

theorem parent_mem_filterMap_iff {segments : List String} :
    .parent ∈ segments.filterMap Component.ofSegment? ↔ ".." ∈ segments := by
  rw [List.mem_filterMap]
  constructor
  · rintro ⟨segment, hmem, hs⟩
    unfold Component.ofSegment? at hs
    split at hs
    · cases hs
    · split at hs
      · next h => exact h ▸ hmem
      · cases hs
  · intro h
    exact ⟨"..", h, by decide⟩

theorem anchored_eq_none_iff {p : Path} :
    p.anchored.1 = none ↔ p.isAbsolute = false ∧ p.segments.head? ≠ some "." := by
  unfold anchored
  split
  · next h => simp [h]
  · next h =>
    split
    · next hcur => simp [hcur]
    · next hcur => simp [h, hcur]

theorem anchored_cases (p : Path) :
    p.anchored.1 = none ∨ p.anchored.1 = some .root ∨ p.anchored.1 = some .current := by
  unfold anchored
  split
  · exact Or.inr (Or.inl rfl)
  · split
    · exact Or.inr (Or.inr rfl)
    · exact Or.inl rfl

/-- What leads downwards is relative, does not begin at the current folder and never goes up. -/
theorem downward_iff {p : Path} :
    p.Downward ↔ p.isAbsolute = false ∧ p.segments.head? ≠ some "." ∧ ".." ∉ p.segments := by
  rw [← and_assoc, ← anchored_eq_none_iff]
  unfold Downward
  rw [components_eq]
  constructor
  · intro h
    constructor
    · rcases p.anchored_cases with hs | hs | hs
      · exact hs
      · obtain ⟨name, hname⟩ := h .root (by simp [hs])
        cases hname
      · obtain ⟨name, hname⟩ := h .current (by simp [hs])
        cases hname
    · intro hmem
      obtain ⟨name, hname⟩ := h .parent
        (List.mem_append_right _ (parent_mem_filterMap_iff.mpr hmem))
      cases hname
  · rintro ⟨hstart, hup⟩ c hc
    rw [hstart, filterMap_ofSegment? hup] at hc
    simp only [Option.toList_none, List.nil_append, List.mem_map] at hc
    obtain ⟨name, -, rfl⟩ := hc
    exact ⟨name, rfl⟩

theorem Downward.isAbsolute {p : Path} (h : p.Downward) : p.isAbsolute = false :=
  (downward_iff.mp h).1

theorem Downward.anchored {p : Path} (h : p.Downward) : p.anchored.1 = none :=
  anchored_eq_none_iff.mpr ⟨h.isAbsolute, (downward_iff.mp h).2.1⟩

theorem components_of_downward {p : Path} (h : p.Downward) :
    p.components = p.names.map .normal := by
  obtain ⟨-, -, hup⟩ := downward_iff.mp h
  rw [components_eq, h.anchored, filterMap_ofSegment? hup]
  rfl

theorem components_eq_iff {p q : Path} (hp : p.Downward) (hq : q.Downward) :
    p.components = q.components ↔ p.names = q.names := by
  rw [components_of_downward hp, components_of_downward hq]
  exact (List.map_injective_iff.mpr fun _ _ h => Component.normal.inj h).eq_iff

/-! ## Components of joined paths -/

theorem head?_stem (p : Path) : p.stem.head? = p.segments.head? := by
  cases hs : p.stem with
  | nil => exact absurd hs p.stem_ne_nil
  | cons segment rest =>
    rcases p.segments_eq_stem with h | h
    · rw [h, hs]
    · rw [h, hs]
      rfl

theorem filterMap_stem (p : Path) :
    p.stem.filterMap Component.ofSegment? = p.segments.filterMap Component.ofSegment? := by
  rcases p.segments_eq_stem with h | h
  · rw [h]
  · rw [h, List.filterMap_append]
    simp [Component.ofSegment?]

/-- A relative path behind a path that is not empty keeps the start of the base. -/
theorem anchored_join {base child : Path} (hb : base.text ≠ "") (hc : child.isAbsolute = false) :
    (base.join child).anchored.1 = base.anchored.1 := by
  have hhead : (base.join child).segments.head? = base.segments.head? := by
    rw [segments_join hb hc, List.head?_append_of_ne_nil _ base.stem_ne_nil, head?_stem]
  unfold anchored
  rw [isAbsolute_join hb hc, hhead]
  split
  · rfl
  · split <;> rfl

theorem filterMap_segments_join {base child : Path} (hb : base.text ≠ "")
    (hc : child.isAbsolute = false) :
    (base.join child).segments.filterMap Component.ofSegment? =
      base.segments.filterMap Component.ofSegment? ++
        child.segments.filterMap Component.ofSegment? := by
  rw [segments_join hb hc, List.filterMap_append, filterMap_stem]

/-- A downward path appends its components, whatever it is joined to. -/
theorem components_join (base : Path) {child : Path} (h : child.Downward) :
    (base.join child).components = base.components ++ child.components := by
  by_cases hb : base.text = ""
  · have hbase : base = ⟨""⟩ := ext hb
    rw [hbase, empty_join, components_empty, List.nil_append]
  · rw [components_eq, anchored_join hb h.isAbsolute, filterMap_segments_join hb h.isAbsolute,
      components_eq base, components_eq child, h.anchored]
    simp

theorem Downward.join {base child : Path} (hb : base.Downward) (hc : child.Downward) :
    (base.join child).Downward := by
  intro c hmem
  rw [components_join base hc] at hmem
  rcases List.mem_append.mp hmem with h | h
  · exact hb c h
  · exact hc c h

/-- Behind a path that is not empty, only relative paths without `..` lead further down. -/
theorem downward_join_iff {base child : Path} (hb : base.text ≠ "") :
    (base.join child).Downward ↔
      base.Downward ∧ child.isAbsolute = false ∧ ".." ∉ child.segments := by
  by_cases hc : child.isAbsolute = true
  · have hno : ¬ child.Downward := fun h => by simp [h.isAbsolute] at hc
    rw [join_of_isAbsolute base hc]
    simp [hno, hc]
  · have hc' : child.isAbsolute = false := by simpa using hc
    have hhead : (base.join child).segments.head? = base.segments.head? := by
      rw [segments_join hb hc', List.head?_append_of_ne_nil _ base.stem_ne_nil, head?_stem]
    have hup : ".." ∈ (base.join child).segments ↔ ".." ∈ base.segments ∨ ".." ∈ child.segments := by
      rw [← parent_mem_filterMap_iff, filterMap_segments_join hb hc', List.mem_append,
        parent_mem_filterMap_iff, parent_mem_filterMap_iff]
    rw [downward_iff, downward_iff, isAbsolute_join hb hc', hhead, hup]
    simp only [hc', true_and, not_or, and_assoc]

theorem names_join {base child : Path} (hb : base.Downward) (hc : child.Downward) :
    (base.join child).names = base.names ++ child.names := by
  have h := components_join base hc
  rw [components_of_downward (hb.join hc), components_of_downward hb, components_of_downward hc,
    ← List.map_append] at h
  exact (List.map_injective_iff.mpr fun a b hab => Component.normal.inj hab) h

end TableForge.Path
