import Mathlib.Data.List.DropRight
import TableForge.Proofs.Path.Components

/-!
# Parents

Segments that count for nothing are dropped from the end of a path before its last name is taken
away, and from the end of what is left. So the parent of a path keeps its first segment and loses
exactly one name.
-/
namespace TableForge.Path

theorem trimSegments_eq (segments : List String) :
    trimSegments segments = segments.rdropWhile skipped := rfl

theorem exists_skipped_trimSegments (segments : List String) :
    ∃ skips, segments = trimSegments segments ++ skips ∧ ∀ s ∈ skips, skipped s = true := by
  refine ⟨segments.rtakeWhile skipped, ?_, ?_⟩
  · exact List.rdropWhile_append_rtakeWhile.symm
  · intro s hs
    exact List.mem_rtakeWhile_imp hs

theorem trimSegments_append_skipped {segments skips : List String}
    (h : ∀ s ∈ skips, skipped s = true) :
    trimSegments (segments ++ skips) = trimSegments segments := by
  induction skips using List.reverseRecOn with
  | nil => rw [List.append_nil]
  | append_singleton rest s ih =>
    rw [← List.append_assoc, trimSegments_eq, List.rdropWhile_concat_pos _ _ _ (h s (by simp)),
      ← trimSegments_eq, ih fun x hx => h x (by simp [hx])]

theorem trimSegments_concat {segments : List String} {name : String} (h : skipped name = false) :
    trimSegments (segments ++ [name]) = segments ++ [name] := by
  rw [trimSegments_eq, List.rdropWhile_concat_neg _ _ _ (by simp [h])]

/-- Segments are skipped altogether, or there is a last one that counts. -/
theorem skipped_or_last (segments : List String) :
    (∀ s ∈ segments, skipped s = true) ∨
      ∃ body name skips, segments = body ++ name :: skips ∧ skipped name = false ∧
        ∀ s ∈ skips, skipped s = true := by
  induction segments using List.reverseRecOn with
  | nil => exact Or.inl (by simp)
  | append_singleton rest s ih =>
    cases hs : skipped s with
    | false => exact Or.inr ⟨rest, s, [], by simp, hs, by simp⟩
    | true =>
      rcases ih with hall | ⟨body, name, skips, hrest, hname, hskips⟩
      · left
        intro x hx
        rcases List.mem_append.mp hx with h | h
        · exact hall x h
        · rw [List.mem_singleton.mp h, hs]
      · right
        refine ⟨body, name, skips ++ [s], by simp [hrest], hname, ?_⟩
        intro x hx
        rcases List.mem_append.mp hx with h | h
        · exact hskips x h
        · rw [List.mem_singleton.mp h, hs]

theorem trimSegments_last {body skips : List String} {name : String} (hname : skipped name = false)
    (hskips : ∀ s ∈ skips, skipped s = true) :
    trimSegments (body ++ name :: skips) = body ++ [name] := by
  have hl : body ++ name :: skips = (body ++ [name]) ++ skips := by simp
  rw [hl, trimSegments_append_skipped hskips, trimSegments_concat hname]

theorem trimSegments_cons {first : String} (h : skipped first = false) (body : List String) :
    trimSegments (first :: body) = first :: trimSegments body := by
  rcases skipped_or_last body with hall | ⟨before, name, skips, rfl, hname, hskips⟩
  · have hone : trimSegments ([] ++ [first]) = [] ++ [first] := trimSegments_concat h
    have hfirst : trimSegments ([first] ++ body) = [first] := by
      rw [trimSegments_append_skipped hall]
      exact hone
    have hbody : trimSegments ([] ++ body) = [] := by
      rw [trimSegments_append_skipped hall]
      rfl
    rw [List.nil_append] at hbody
    rw [hbody, ← hfirst]
    rfl
  · have hlast : trimSegments ((first :: before) ++ name :: skips) = (first :: before) ++ [name] :=
      trimSegments_last hname hskips
    rw [trimSegments_last hname hskips]
    exact hlast

theorem segments_root (segments : List String) (h : ∀ s ∈ segments, '/' ∉ s.toList) :
    (Path.mk ("/" ++ (ofSegments segments).text)).segments =
      "" :: if segments = [] then [""] else segments := by
  have hslash : Path.mk ("/" ++ (ofSegments segments).text) =
      ⟨"" ++ "/" ++ (ofSegments segments).text⟩ := by simp
  have hrest : (ofSegments segments).segments = if segments = [] then [""] else segments := by
    split
    · next he =>
      rw [he]
      exact segments_empty
    · next hne => exact segments_ofSegments hne h
  rw [hslash, segments_slash, segments_empty]
  exact congrArg ("" :: ·) hrest

theorem parent?_of_anchored {p : Path} {start : Option Component} {body skips : List String}
    {name : String} (h : p.anchored = (start, body ++ name :: skips)) (hname : skipped name = false)
    (hskips : ∀ s ∈ skips, skipped s = true) :
    p.parent? = some (ofAnchored start (trimSegments body)) := by
  simp only [parent?, h, trimSegments_last hname hskips]
  cases hb : body ++ [name] with
  | nil => simp at hb
  | cons s rest => simp [← hb]

/-- The parent keeps the first segment and what stands before the last name, trimmed. -/
theorem parent?_of_segments {p : Path} {first name : String} {body skips : List String}
    (h : p.segments = first :: (body ++ name :: skips)) (hname : skipped name = false)
    (hskips : ∀ s ∈ skips, skipped s = true) :
    ∃ q, p.parent? = some q ∧
      q.segments = first :: if first = "" ∧ trimSegments body = [] then [""]
        else trimSegments body := by
  have hslash : ∀ s ∈ trimSegments body, '/' ∉ s.toList := by
    intro s hs
    have hbody : s ∈ body := (List.rdropWhile_prefix skipped body).subset hs
    exact slash_not_mem_segment (p := p) (by simp [h, hbody])
  by_cases habs : p.isAbsolute = true
  · obtain ⟨next, rest, hs⟩ := (isAbsolute_iff p).mp habs
    rw [h] at hs
    have hfirst : first = "" := (List.cons.inj hs).1
    have hstart : p.anchored = (some .root, body ++ name :: skips) := by simp [anchored, habs, h]
    refine ⟨_, parent?_of_anchored hstart hname hskips, ?_⟩
    simp only [ofAnchored, hfirst, true_and]
    exact segments_root _ hslash
  · have hfirst : first ≠ "" := by
      rintro rfl
      apply habs
      rw [isAbsolute_iff]
      cases hb : body with
      | nil => exact ⟨name, skips, by simp [h, hb]⟩
      | cons s rest => exact ⟨s, rest ++ name :: skips, by simp [h, hb]⟩
    simp only [hfirst, false_and, if_false]
    have hfirstSlash : '/' ∉ first.toList := slash_not_mem_segment (p := p) (by simp [h])
    have hall : ∀ s ∈ first :: trimSegments body, '/' ∉ s.toList := by
      intro s hs
      rcases List.mem_cons.mp hs with rfl | hs
      · exact hfirstSlash
      · exact hslash s hs
    by_cases hcur : first = "."
    · have hstart : p.anchored = (some .current, body ++ name :: skips) := by
        simp [anchored, habs, h, hcur]
      refine ⟨_, parent?_of_anchored hstart hname hskips, ?_⟩
      simp only [ofAnchored, ← hcur]
      exact segments_ofSegments (by simp) hall
    · -- the first segment is a name of its own and stays when the rest is trimmed
      have hstart : p.anchored = (none, (first :: body) ++ name :: skips) := by
        simp [anchored, habs, h, hcur]
      have hname' : skipped first = false := by simp [skipped, hfirst, hcur]
      refine ⟨_, parent?_of_anchored hstart hname hskips, ?_⟩
      rw [trimSegments_cons hname']
      exact segments_ofSegments (by simp) hall

/-! ## Parents of paths that lead downwards -/

theorem counted_eq_nil_iff {segments : List String} :
    counted segments = [] ↔ ∀ s ∈ segments, skipped s = true := by
  simp [counted, List.filter_eq_nil_iff]

theorem counted_append (a b : List String) : counted (a ++ b) = counted a ++ counted b :=
  List.filter_append a b

theorem counted_trimSegments (segments : List String) :
    counted (trimSegments segments) = counted segments := by
  obtain ⟨skips, hsegments, hskips⟩ := exists_skipped_trimSegments segments
  have h := congrArg counted hsegments
  rw [counted_append, counted_eq_nil_iff.mpr hskips, List.append_nil] at h
  exact h.symm

theorem counted_last {body skips : List String} {name : String} (hname : skipped name = false)
    (hskips : ∀ s ∈ skips, skipped s = true) :
    counted (body ++ name :: skips) = counted body ++ [name] := by
  rw [counted_append, counted, counted, List.filter_cons_of_pos (by simp [hname]), ← counted,
    ← counted, counted_eq_nil_iff.mpr hskips]

/-- Without a name a path that leads downwards is empty. -/
theorem segments_of_downward {p : Path} (h : p.Downward)
    (hskips : ∀ s ∈ p.segments, skipped s = true) : p.segments = [""] := by
  obtain ⟨habs, hcur, -⟩ := downward_iff.mp h
  cases hs : p.segments with
  | nil => exact absurd hs p.segments_ne_nil
  | cons first rest =>
    have hfirst : first = "" ∨ first = "." := by
      simpa [skipped] using hskips first (by rw [hs]; exact List.mem_cons_self)
    rcases hfirst with rfl | rfl
    · cases rest with
      | nil => rfl
      | cons next more =>
        rw [(isAbsolute_iff p).mpr ⟨next, more, hs⟩] at habs
        cases habs
    · rw [hs] at hcur
      exact absurd rfl hcur

/-- The parent of a path that leads downwards does so too, by one name less. -/
theorem parent?_of_downward {p : Path} (h : p.Downward) (hne : p.names ≠ []) :
    ∃ q, p.parent? = some q ∧ q.Downward ∧ q.names = p.names.dropLast := by
  obtain ⟨habs, hcur, hup⟩ := downward_iff.mp h
  rcases skipped_or_last p.segments with hall | ⟨body, name, skips, hs, hname, hskips⟩
  · exact absurd (counted_eq_nil_iff.mpr hall) hne
  have hnames : p.names = counted body ++ [name] := by rw [names, hs, counted_last hname hskips]
  rw [hnames, List.dropLast_concat]
  cases body with
  | nil =>
    have hstart : p.anchored = (none, [] ++ name :: skips) := by
      rw [← hs, anchored, if_neg (by simp [habs]), if_neg hcur]
    exact ⟨⟨""⟩, parent?_of_anchored hstart hname hskips, by decide, by decide⟩
  | cons first rest =>
    obtain ⟨q, hq, hsegments⟩ := parent?_of_segments (hs.trans rfl) hname hskips
    have hfirst : first ≠ "" := by
      rintro rfl
      have htrue : p.isAbsolute = true := by
        rw [isAbsolute_iff]
        cases rest with
        | nil => exact ⟨name, skips, hs⟩
        | cons s more => exact ⟨s, more ++ name :: skips, hs⟩
      rw [habs] at htrue
      cases htrue
    simp only [hfirst, false_and, if_false] at hsegments
    refine ⟨q, hq, downward_iff.mpr ⟨?_, ?_, ?_⟩, ?_⟩
    · by_contra hqabs
      have hqhead := head?_segments_of_isAbsolute (by simpa using hqabs)
      rw [hsegments] at hqhead
      exact hfirst (Option.some.inj hqhead)
    · rw [hsegments]
      rw [hs] at hcur
      exact hcur
    · intro hmem
      apply hup
      rw [hsegments] at hmem
      rw [hs]
      rcases List.mem_cons.mp hmem with he | hmem
      · simp [he]
      · have hrest := (List.rdropWhile_prefix skipped rest).subset hmem
        simp [hrest]
    · have hskip : skipped first = false := by
        rw [hs] at hcur
        have hdot : first ≠ "." := fun he => hcur (congrArg some he)
        simp [skipped, hfirst, hdot]
      rw [names, hsegments, ← trimSegments_cons hskip, counted_trimSegments]

end TableForge.Path
