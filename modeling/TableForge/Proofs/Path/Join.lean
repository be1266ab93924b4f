import Mathlib.Data.List.Basic
import TableForge.Path

/-!
# Joining paths

Joining is associative on the text itself, so a destination does not depend on whether a folder is
put before a path or a path is extended step by step. On segments, joining a relative path to a
path that is not empty appends its segments to the stem of the base, which is the base without one
slash at its end. This turns statements about joined texts into statements about appended lists.
-/
namespace TableForge.Text

theorem splitFrom_slash_cons_self (cs : List Char) :
    splitFrom ['/'] 0 ('/' :: cs) = [] :: splitFrom ['/'] 0 cs := by
  simp [splitFrom]

theorem splitFrom_slash_cons {c : Char} (hc : c ≠ '/') (cs : List Char) :
    splitFrom ['/'] 0 (c :: cs) = (splitFrom ['/'] 0 cs).modifyHead (c :: ·) := by
  simp [splitFrom, Ne.symm hc]

theorem splitFrom_slash_append (a b : List Char) :
    splitFrom ['/'] 0 (a ++ '/' :: b) = splitFrom ['/'] 0 a ++ splitFrom ['/'] 0 b := by
  induction a with
  | nil => rw [List.nil_append, splitFrom_slash_cons_self]; rfl
  | cons c cs ih =>
    by_cases hc : c = '/'
    · rw [hc, List.cons_append, splitFrom_slash_cons_self, ih, splitFrom_slash_cons_self]
      rfl
    · rw [List.cons_append, splitFrom_slash_cons hc, ih, splitFrom_slash_cons hc]
      cases hs : splitFrom ['/'] 0 cs with
      | nil => exact absurd hs (splitFrom_ne_nil ['/'] 0 cs)
      | cons part parts => rfl

theorem slash_not_mem_of_mem_splitFrom {text part : List Char}
    (h : part ∈ splitFrom ['/'] 0 text) : '/' ∉ part := by
  induction text generalizing part with
  | nil => simp_all [splitFrom]
  | cons c cs ih =>
    by_cases hc : c = '/'
    · rw [hc, splitFrom_slash_cons_self] at h
      rcases List.mem_cons.mp h with rfl | h
      · simp
      · exact ih h
    · rw [splitFrom_slash_cons hc] at h
      cases hs : splitFrom ['/'] 0 cs with
      | nil => exact absurd hs (splitFrom_ne_nil ['/'] 0 cs)
      | cons first parts =>
        rw [hs] at h ih
        rcases List.mem_cons.mp h with rfl | h
        · have hfirst := ih List.mem_cons_self
          simp [Ne.symm hc, hfirst]
        · exact ih (List.mem_cons_of_mem _ h)

theorem splitFrom_of_slash_not_mem {text : List Char} (h : '/' ∉ text) :
    splitFrom ['/'] 0 text = [text] := by
  induction text with
  | nil => rfl
  | cons c cs ih =>
    simp only [List.mem_cons, not_or] at h
    rw [splitFrom_slash_cons (Ne.symm h.1), ih h.2]
    rfl

end TableForge.Text

namespace TableForge.Path

open Text

theorem ext {p q : Path} (h : p.text = q.text) : p = q := by
  cases p; cases q; simp_all

/-! ## Segments -/

theorem segments_eq (p : Path) :
    p.segments = (splitFrom ['/'] 0 p.text.toList).map String.ofList := by
  simp [segments, splitOn]

theorem segments_ne_nil (p : Path) : p.segments ≠ [] := by
  simp [segments_eq, splitFrom_ne_nil]

/-- The segments of two texts with a slash between them. -/
theorem segments_slash (a b : String) :
    (Path.mk (a ++ "/" ++ b)).segments = (Path.mk a).segments ++ (Path.mk b).segments := by
  simp [segments_eq, splitFrom_slash_append]

theorem slash_not_mem_segment {p : Path} {segment : String} (h : segment ∈ p.segments) :
    '/' ∉ segment.toList := by
  rw [segments_eq] at h
  obtain ⟨part, hp, rfl⟩ := List.mem_map.mp h
  simpa using slash_not_mem_of_mem_splitFrom hp

theorem segments_of_no_slash {name : String} (h : '/' ∉ name.toList) :
    (Path.mk name).segments = [name] := by
  simp [segments_eq, splitFrom_of_slash_not_mem h]

theorem isAbsolute_of_no_slash {name : String} (h : '/' ∉ name.toList) :
    (Path.mk name).isAbsolute = false := by
  by_contra habs
  have hhead : name.toList.head? = some '/' := by simpa [isAbsolute] using habs
  exact h (List.mem_of_head? hhead)

theorem segments_empty : (Path.mk "").segments = [""] := by
  simp [segments_eq, splitFrom]

/-- Only the empty path has nothing but an empty segment. -/
theorem text_of_segments {p : Path} (h : p.segments = [""]) : p.text = "" := by
  rw [segments_eq] at h
  cases ht : p.text.toList with
  | nil => exact String.toList_eq_nil_iff.mp ht
  | cons c cs =>
    rw [ht] at h
    cases hs : splitFrom ['/'] 0 cs with
    | nil => exact absurd hs (splitFrom_ne_nil ['/'] 0 cs)
    | cons part parts =>
      by_cases hc : c = '/'
      · rw [hc, splitFrom_slash_cons_self, hs] at h
        simp at h
      · rw [splitFrom_slash_cons hc, hs] at h
        simp at h

theorem segments_ofSegments {segments : List String} (hne : segments ≠ [])
    (h : ∀ s ∈ segments, '/' ∉ s.toList) : (ofSegments segments).segments = segments := by
  induction segments with
  | nil => exact absurd rfl hne
  | cons s rest ih =>
    cases rest with
    | nil => simpa [ofSegments] using segments_of_no_slash (h s List.mem_cons_self)
    | cons next more =>
      have hrest := ih (by simp) fun x hx => h x (List.mem_cons_of_mem _ hx)
      have htext : ofSegments (s :: next :: more) =
          ⟨s ++ "/" ++ (ofSegments (next :: more)).text⟩ := by
        simp [ofSegments, String.intercalate_cons_cons]
      rw [htext, segments_slash, segments_of_no_slash (h s List.mem_cons_self)]
      simpa using hrest

/-- A path is absolute exactly if its first segment is empty and another one follows. -/
theorem isAbsolute_iff (p : Path) :
    p.isAbsolute = true ↔ ∃ next rest, p.segments = "" :: next :: rest := by
  obtain ⟨text⟩ := p
  simp only [isAbsolute, segments_eq]
  cases ht : text.toList with
  | nil => simp [splitFrom]
  | cons c cs =>
    cases hs : splitFrom ['/'] 0 cs with
    | nil => exact absurd hs (splitFrom_ne_nil ['/'] 0 cs)
    | cons part parts =>
      by_cases hc : c = '/'
      · rw [hc, splitFrom_slash_cons_self, hs]
        simp
      · rw [splitFrom_slash_cons hc, hs]
        simp [hc]

/-! ## Joining -/

theorem join_of_isAbsolute (base : Path) {child : Path} (h : child.isAbsolute = true) :
    base.join child = child := by
  simp [join, h]

/-- The text of a path with a slash at its end, which the empty path does without. -/
def opened (p : Path) : String :=
  if p.text = "" ∨ p.text.toList.getLast? = some '/' then p.text else p.text ++ "/"

/-- Joining a relative path appends its text to the opened base. -/
theorem join_text (base : Path) {child : Path} (h : child.isAbsolute = false) :
    (base.join child).text = base.opened ++ child.text := by
  simp only [join, h, opened, Bool.false_eq_true, if_false]
  split <;> rfl

theorem join_right_inj {base p q : Path} (hp : p.isAbsolute = false) (hq : q.isAbsolute = false) :
    base.join p = base.join q ↔ p = q := by
  refine ⟨fun h => ?_, congrArg _⟩
  have htext := congrArg text h
  rw [join_text base hp, join_text base hq] at htext
  exact ext (String.append_right_inj _ |>.mp htext)

theorem empty_join (child : Path) : (Path.mk "").join child = child := by
  by_cases h : child.isAbsolute = true
  · exact join_of_isAbsolute _ h
  · apply ext
    rw [join_text _ (by simpa using h)]
    simp [opened]

theorem opened_eq_empty {p : Path} (h : p.opened = "") : p.text = "" := by
  unfold opened at h
  split at h
  · exact h
  · exact absurd h (by simp)

theorem getLast?_opened {p : Path} (h : p.text ≠ "") : p.opened.toList.getLast? = some '/' := by
  unfold opened
  split
  · next hs => exact hs.resolve_left h
  · simp

/-- Opening a longer text opens its end, for what it begins with is opened already. -/
theorem opened_append (a b : Path) :
    (Path.mk (a.opened ++ b.text)).opened = a.opened ++ b.opened := by
  by_cases hb : b.text = ""
  · by_cases ha : a.text = ""
    · simp [opened, ha, hb]
    · have hlast := getLast?_opened ha
      have hbo : b.opened = "" := by simp [opened, hb]
      rw [hb, hbo, String.append_empty]
      simp [opened.eq_def ⟨a.opened⟩, hlast]
  · have hl : b.text.toList ≠ [] := fun h => hb (String.toList_eq_nil_iff.mp h)
    have hlast : (a.opened ++ b.text).toList.getLast? = b.text.toList.getLast? := by
      rw [String.toList_append, List.getLast?_append_of_ne_nil _ hl]
    have hne : a.opened ++ b.text ≠ "" := fun h => hb (String.append_eq_empty_iff.mp h).2
    simp only [opened.eq_def ⟨a.opened ++ b.text⟩, opened.eq_def b, hne, hb, hlast, false_or]
    split
    · rfl
    · rw [String.append_assoc]

theorem isAbsolute_of_toList {p : Path} {c : Char} {rest : List Char}
    (h : p.text.toList = c :: rest) : p.isAbsolute = (c == '/') := by
  simp [isAbsolute, h]

theorem text_ne_empty_of_isAbsolute {p : Path} (h : p.isAbsolute = true) : p.text ≠ "" := by
  intro he
  simp [isAbsolute, he] at h

theorem isAbsolute_join {base child : Path} (hb : base.text ≠ "") (hc : child.isAbsolute = false) :
    (base.join child).isAbsolute = base.isAbsolute := by
  cases hl : base.text.toList with
  | nil => exact absurd (String.toList_eq_nil_iff.mp hl) hb
  | cons c rest =>
    have hopened : ∃ more, base.opened.toList = c :: more := by
      unfold opened
      split <;> simp [hl]
    obtain ⟨more, hm⟩ := hopened
    have hjoin : (base.join child).text.toList = c :: (more ++ child.text.toList) := by
      rw [join_text base hc, String.toList_append, hm, List.cons_append]
    rw [isAbsolute_of_toList hl, isAbsolute_of_toList hjoin]

/-- Joining is associative, for empty and absolute paths and slashes at the end of paths too. -/
theorem join_assoc (a b c : Path) : (a.join b).join c = a.join (b.join c) := by
  by_cases hc : c.isAbsolute = true
  · simp only [join_of_isAbsolute _ hc]
  have hc' : c.isAbsolute = false := by simpa using hc
  by_cases hb : b.isAbsolute = true
  · have hbc : (b.join c).isAbsolute = true := by
      rw [isAbsolute_join (text_ne_empty_of_isAbsolute hb) hc', hb]
    rw [join_of_isAbsolute a hb, join_of_isAbsolute a hbc]
  have hb' : b.isAbsolute = false := by simpa using hb
  have hbc : (b.join c).isAbsolute = false := by
    by_cases he : b.text = ""
    · have hbe : b = ⟨""⟩ := ext he
      rw [hbe, empty_join, hc']
    · rw [isAbsolute_join he hc', hb']
  have hab : a.join b = ⟨a.opened ++ b.text⟩ := ext (join_text a hb')
  apply ext
  rw [join_text _ hc', hab, opened_append, join_text a hbc, join_text b hc', String.append_assoc]

theorem text_join_ne_empty {base : Path} (hb : base.text ≠ "") (child : Path) :
    (base.join child).text ≠ "" := by
  by_cases hc : child.isAbsolute = true
  · rw [join_of_isAbsolute base hc]
    exact text_ne_empty_of_isAbsolute hc
  · rw [join_text base (by simpa using hc)]
    intro he
    have hopened := (String.append_eq_empty_iff.mp he).1
    exact hb (opened_eq_empty hopened)

/-! ## Segments of joined paths -/

/-- The segments to which joining appends: without the empty one behind a slash at the end. -/
def stem (p : Path) : List String :=
  if p.text.toList.getLast? = some '/' then (Path.mk (String.ofList p.text.toList.dropLast)).segments
  else p.segments

theorem stem_ne_nil (p : Path) : p.stem ≠ [] := by
  unfold stem
  split <;> exact segments_ne_nil _

/-- An opened path is its stem and one more segment, which is empty. -/
theorem exists_stem {p : Path} (h : p.text ≠ "") :
    ∃ before, p.opened = before ++ "/" ∧ p.stem = (Path.mk before).segments := by
  by_cases hs : p.text.toList.getLast? = some '/'
  · obtain ⟨before, hb⟩ := List.getLast?_eq_some_iff.mp hs
    refine ⟨String.ofList before, ?_, by simp [stem, hb]⟩
    apply String.toList_inj.mp
    simp [opened, hb]
  · exact ⟨p.text, by simp [opened, h, hs], by simp [stem, hs]⟩

/-- A slash at the end of a path is an empty segment behind its stem. -/
theorem segments_eq_stem (p : Path) : p.segments = p.stem ∨ p.segments = p.stem ++ [""] := by
  by_cases hs : p.text.toList.getLast? = some '/'
  · obtain ⟨before, hb⟩ := List.getLast?_eq_some_iff.mp hs
    have hp : p = ⟨String.ofList before ++ "/" ++ ""⟩ := ext (String.toList_inj.mp (by simp [hb]))
    have hstem : p.stem = (Path.mk (String.ofList before)).segments := by simp [stem, hb]
    right
    rw [hstem, ← segments_empty, ← segments_slash, ← hp]
  · left
    simp [stem, hs]

theorem segments_join {base child : Path} (hb : base.text ≠ "") (hc : child.isAbsolute = false) :
    (base.join child).segments = base.stem ++ child.segments := by
  obtain ⟨before, ho, hs⟩ := exists_stem hb
  have hp : base.join child = ⟨before ++ "/" ++ child.text⟩ :=
    ext (by rw [join_text base hc, ho])
  rw [hp, hs, segments_slash]

end TableForge.Path
