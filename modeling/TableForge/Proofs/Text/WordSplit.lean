import Mathlib.Data.List.SplitBy
import TableForge.Proofs.Text.ScreamingSnakeCase

/-!
# Where words begin and end

The words of a name can be found in two ways. One takes the name apart at the characters that are
not alphanumeric and then cuts every run at its word boundaries. The other goes through the name
once and keeps the words that are done, the word it is in, and whether the last character was a
lowercase letter or a digit. Both find the same words, which hold every alphanumeric character.

For a name in ASCII the words can be read off its form in screaming snake case: the underscores in
it stand between words only.
-/
namespace TableForge.Text

/-! ## Runs and cuts -/

section

variable {α : Type} {r : α → α → Bool}

/-- A group ends between neighbours that do not belong together. -/
theorem splitBy_cons_cons_of_false {a b : α} (h : r a b = false) (rest : List α) :
    (a :: b :: rest).splitBy r = [a] :: (b :: rest).splitBy r := by
  have hcut : ∀ x ∈ [a].getLast?, r x b = false := by simpa using h
  have hsplit := List.splitBy_append_cons rest hcut
  rwa [List.singleton_append, List.splitBy_of_isChain (List.cons_ne_nil a []) (.singleton a)]
    at hsplit

/-- A group goes on between neighbours that belong together. -/
theorem splitBy_cons_cons_of_true {a b : α} (h : r a b = true) (rest : List α) :
    (a :: b :: rest).splitBy r = ((b :: rest).splitBy r).modifyHead (a :: ·) := by
  cases hsplit : (b :: rest).splitBy r with
  | nil => exact absurd hsplit (List.splitBy_ne_nil.mpr (List.cons_ne_nil b rest))
  | cons group groups =>
    obtain ⟨hflatten, hnil, hchain, hcuts⟩ := List.splitBy_eq_iff.mp hsplit
    cases group with
    | nil => exact absurd List.mem_cons_self hnil
    | cons first others =>
      obtain ⟨rfl, -⟩ := List.cons.inj hflatten
      rw [List.modifyHead_cons, List.splitBy_eq_iff]
      refine ⟨by rw [hflatten]; rfl, by simpa using hnil, ?_, ?_⟩
      · rw [List.forall_mem_cons] at hchain ⊢
        exact ⟨hchain.1.cons_cons h, hchain.2⟩
      · cases groups with
        | nil => exact .singleton _
        | cons next more =>
          obtain ⟨⟨_, hnext, hcut⟩, hmore⟩ := List.isChain_cons_cons.mp hcuts
          refine hmore.cons_cons ⟨List.cons_ne_nil _ _, hnext, ?_⟩
          rwa [List.getLast_cons]

end

theorem runs_eq_splitOnP (name : List Char) :
    runs name = name.splitOnP fun c => !isAlphanumeric c := by
  induction name with
  | nil => rfl
  | cons c rest ih =>
    rw [List.splitOnP_cons_eq_if_modifyHead, runs, ih]
    cases isAlphanumeric c <;> rfl

theorem cutAtBoundaries_eq_splitBy (run : List Char) :
    cutAtBoundaries run = run.splitBy fun a b => !isWordBoundary a b := by
  fun_induction cutAtBoundaries run with
  | case1 => rfl
  | case2 c => rfl
  | case3 a b rest hcut ih =>
    rw [ih, splitBy_cons_cons_of_false (by rw [hcut]; rfl)]
  | case4 a b rest hcut ih =>
    rw [ih, splitBy_cons_cons_of_true (by simpa using hcut)]

theorem words_eq_splitBy (name : List Char) :
    words name = ((name.splitOnP fun c => !isAlphanumeric c).filter (· ≠ [])).flatMap
      (List.splitBy fun a b => !isWordBoundary a b) := by
  rw [words, runs_eq_splitOnP]
  induction name.splitOnP fun c => !isAlphanumeric c with
  | nil => rfl
  | cons run rest ih =>
    rw [List.flatMap_cons, ih, cutAtBoundaries_eq_splitBy]
    by_cases hrun : run = []
    · simp [hrun]
    · simp [hrun]

/-- No word has a boundary inside. -/
theorem isChain_of_mem_words {name word : List Char} (h : word ∈ words name) :
    word.IsChain fun a b => isWordBoundary a b = false := by
  obtain ⟨run, -, hword⟩ := List.mem_flatMap.mp h
  rw [cutAtBoundaries_eq_splitBy] at hword
  exact (List.isChain_of_mem_splitBy hword).imp fun a b hab => by simpa using hab

/-! ## Words of a name in two parts -/

/-- A run goes on through alphanumeric characters. -/
theorem runs_append_of_alphanumeric {part : List Char} (h : ∀ c ∈ part, isAlphanumeric c = true)
    (rest : List Char) : runs (part ++ rest) = (runs rest).modifyHead (part ++ ·) := by
  induction part with
  | nil =>
    rw [List.nil_append]
    cases runs rest <;> rfl
  | cons c others ih =>
    rw [List.forall_mem_cons] at h
    rw [List.cons_append, runs, if_pos h.1, ih h.2]
    cases runs rest <;> rfl

/-- A character that is not alphanumeric is in no word and ends one. -/
theorem words_append_separator {c : Char} (hc : isAlphanumeric c = false) (part rest : List Char) :
    words (part ++ c :: rest) = words part ++ words rest := by
  simp only [words, runs_eq_splitOnP]
  rw [List.splitOnP_append_cons part rest (by rw [hc]; rfl), List.flatMap_append]

theorem words_of_alphanumeric {part : List Char} (h : ∀ c ∈ part, isAlphanumeric c = true) :
    words part = cutAtBoundaries part := by
  have hruns := runs_append_of_alphanumeric h []
  rw [List.append_nil] at hruns
  simp [words, hruns, runs]

/-- A word ends at a boundary. -/
theorem words_append_of_boundary {part : List Char} {c : Char}
    (h : ∀ c ∈ part, isAlphanumeric c = true) (hc : isAlphanumeric c = true)
    (hcut : ∀ a ∈ part.getLast?, isWordBoundary a c = true) (rest : List Char) :
    words (part ++ c :: rest) = words part ++ words (c :: rest) := by
  obtain ⟨run, more, hrest⟩ := List.exists_cons_of_ne_nil (runs_ne_nil rest)
  have hruns : runs (c :: rest) = (c :: run) :: more := by
    rw [runs, if_pos hc, hrest, List.modifyHead_cons]
  have hsplit : cutAtBoundaries (part ++ c :: run) =
      cutAtBoundaries part ++ cutAtBoundaries (c :: run) := by
    simp only [cutAtBoundaries_eq_splitBy]
    exact List.splitBy_append_cons run fun a ha => by rw [hcut a ha]; rfl
  rw [words_of_alphanumeric h, words, words, runs_append_of_alphanumeric h, hruns,
    List.modifyHead_cons, List.flatMap_cons, List.flatMap_cons, hsplit, List.append_assoc]

/-! ## Going through a name once -/

/-- How far the search for words has come: the words that are done, the word it is in, and whether
the last character was a lowercase letter or a digit. -/
structure Splitter where
  done : List (List Char)
  current : List Char
  afterLower : Bool
deriving DecidableEq, Repr

namespace Splitter

def start : Splitter := { done := [], current := [], afterLower := false }

/-- Ends the current word, unless it is empty. -/
def close (s : Splitter) : Splitter :=
  if s.current = [] then s else { s with done := s.done ++ [s.current], current := [] }

/-- Takes a character into the current word. -/
def push (s : Splitter) (c : Char) : Splitter :=
  { s with current := s.current ++ [c], afterLower := isLowercase c || c.isDigit }

def step (s : Splitter) (c : Char) : Splitter :=
  if isAlphanumeric c then
    if isUppercase c && s.afterLower then s.close.push c else s.push c
  else { s.close with afterLower := false }

def finish (s : Splitter) : List (List Char) := s.close.done

/-- The current word is part of a word, and the flag is about its last character. -/
structure Valid (s : Splitter) : Prop where
  alphanumeric : ∀ c ∈ s.current, isAlphanumeric c = true
  uncut : s.current.IsChain fun a b => isWordBoundary a b = false
  afterLower_eq : s.afterLower = s.current.getLast?.any fun a => isLowercase a || a.isDigit

variable {s : Splitter} {c : Char}

@[simp] theorem current_close (s : Splitter) : s.close.current = [] := by
  unfold close
  split
  · assumption
  · rfl

theorem Valid.done_close (h : s.Valid) : s.close.done = s.done ++ words s.current := by
  rw [words_of_alphanumeric h.alphanumeric, cutAtBoundaries_eq_splitBy, close]
  split
  · next hempty => rw [hempty, List.splitBy_nil, List.append_nil]
  · next hcurrent =>
    rw [List.splitBy_of_isChain hcurrent (h.uncut.imp fun a b hab => by rw [hab]; rfl)]

/-- Between the last character of the current word and the next character there is a boundary
exactly if the flag is set and the next character is uppercase. -/
theorem Valid.isWordBoundary_eq (h : s.Valid) {a : Char} (ha : a ∈ s.current.getLast?) :
    isWordBoundary a c = (isUppercase c && s.afterLower) := by
  rw [h.afterLower_eq, Option.mem_def.mp ha, Option.any_some, isWordBoundary, Bool.and_comm]

theorem valid_push (hcurrent : ∀ x ∈ s.current, isAlphanumeric x = true)
    (huncut : s.current.IsChain fun a b => isWordBoundary a b = false)
    (hc : isAlphanumeric c = true) (hlast : ∀ a ∈ s.current.getLast?, isWordBoundary a c = false) :
    (s.push c).Valid := by
  refine ⟨?_, ?_, ?_⟩
  · rw [push, List.forall_mem_append, List.forall_mem_singleton]
    exact ⟨hcurrent, hc⟩
  · refine huncut.append (.singleton c) fun a ha b hb => ?_
    obtain rfl : c = b := by simpa using hb
    exact hlast a ha
  · simp [push]

theorem valid_of_current_eq_nil (hcurrent : s.current = []) (hflag : s.afterLower = false) :
    s.Valid := by
  refine ⟨?_, ?_, ?_⟩
  · simp [hcurrent]
  · simp [hcurrent]
  · simp [hcurrent, hflag]

/-- A step leaves a splitter valid, and the words that are done together with those of what is still
to come stay the same. -/
theorem Valid.step (h : s.Valid) (c : Char) :
    (s.step c).Valid ∧ ∀ rest, (s.step c).done ++ words ((s.step c).current ++ rest) =
      s.done ++ words (s.current ++ c :: rest) := by
  unfold Splitter.step
  split
  · next hc =>
    split
    · next hcut =>
      -- the flag does not outlive the word it is about: the closed splitter takes a first character
      refine ⟨valid_push (by simp) (by simp) hc (by simp), fun rest => ?_⟩
      have hboundary : ∀ a ∈ s.current.getLast?, isWordBoundary a c = true := fun a ha =>
        h.isWordBoundary_eq ha ▸ hcut
      rw [words_append_of_boundary h.alphanumeric hc hboundary, ← List.append_assoc,
        ← h.done_close]
      simp [push]
    · next hcut =>
      refine ⟨valid_push h.alphanumeric h.uncut hc fun a ha => ?_, fun rest => ?_⟩
      · rw [h.isWordBoundary_eq ha]
        simpa using hcut
      · rw [push, List.append_assoc, List.singleton_append]
  · next hc =>
    refine ⟨valid_of_current_eq_nil (current_close s) rfl, fun rest => ?_⟩
    rw [words_append_separator (by simpa using hc), ← List.append_assoc, ← h.done_close]
    simp

/-- Going through what is still to come leads to the words of it and the current word together. -/
theorem Valid.finish_foldl_step (h : s.Valid) (name : List Char) :
    (name.foldl Splitter.step s).finish = s.done ++ words (s.current ++ name) := by
  induction name generalizing s with
  | nil => rw [List.foldl_nil, List.append_nil, finish, h.done_close]
  | cons c rest ih => rw [List.foldl_cons, ih (h.step c).1, (h.step c).2]

theorem finish_foldl_step_start (name : List Char) :
    (name.foldl step start).finish = words name := by
  have hstart : start.Valid := valid_of_current_eq_nil rfl rfl
  rw [hstart.finish_foldl_step]
  rfl

end Splitter

/-! ## Words between separators -/

section

variable {α : Type} {sep : α}

/-- A text without separators at its ends and without two in a row. -/
structure Separated (sep : α) (text : List α) : Prop where
  head_ne : text.head? ≠ some sep
  getLast_ne : text.getLast? ≠ some sep
  isChain : text.IsChain fun a b => ¬(a = sep ∧ b = sep)

theorem separated_of_not_mem {text : List α} (h : sep ∉ text) : Separated sep text := by
  refine ⟨fun hhead => h (List.mem_of_mem_head? hhead),
    fun hlast => h (List.mem_of_mem_getLast? hlast), ?_⟩
  refine (List.pairwise_of_forall_mem_list fun a ha b _ => ?_).isChain
  rintro ⟨rfl, -⟩
  exact h ha

/-- A separator between a part without separators and a text that is not empty stands alone. -/
theorem Separated.append_cons {part text : List α} (h : Separated sep text) (htext : text ≠ [])
    (hpart : part ≠ []) (hsep : sep ∉ part) : Separated sep (part ++ sep :: text) := by
  have hbefore := separated_of_not_mem hsep
  refine ⟨?_, ?_, ?_⟩
  · rw [List.head?_append_of_ne_nil _ hpart]
    exact hbefore.head_ne
  · rw [List.getLast?_append_of_ne_nil _ (List.cons_ne_nil _ _), List.getLast?_cons_of_ne_nil htext]
    exact h.getLast_ne
  · refine hbefore.isChain.append ?_ ?_
    · refine List.isChain_cons.mpr ⟨fun b hb he => h.head_ne ?_, h.isChain⟩
      rw [Option.mem_def.mp hb, he.2]
    · rintro a ha b - ⟨rfl, -⟩
      exact hsep (List.mem_of_mem_getLast? ha)

/-- Parts that are not empty and have no separators keep the separators between them apart. -/
theorem separated_intercalate {parts : List (List α)}
    (h : ∀ part ∈ parts, part ≠ [] ∧ sep ∉ part) : Separated sep ([sep].intercalate parts) := by
  induction parts with
  | nil => exact separated_of_not_mem List.not_mem_nil
  | cons part rest ih =>
    obtain ⟨⟨hpart, hsep⟩, hrest⟩ := List.forall_mem_cons.mp h
    cases rest with
    | nil =>
      rw [List.intercalate_singleton]
      exact separated_of_not_mem hsep
    | cons next more =>
      have hnext : [sep].intercalate (next :: more) ≠ [] := by
        have hne := (hrest next List.mem_cons_self).1
        cases more <;> simp [List.intercalate_cons_cons, hne]
      rw [List.intercalate_cons_of_ne_nil (List.cons_ne_nil _ _), List.append_assoc,
        List.singleton_append]
      exact (ih hrest).append_cons hnext hpart hsep

/-- Without the separators the parts are left. -/
theorem filter_intercalate [DecidableEq α] {parts : List (List α)}
    (h : ∀ part ∈ parts, sep ∉ part) :
    ([sep].intercalate parts).filter (· ≠ sep) = parts.flatten := by
  have hkept (part : List α) (hsep : sep ∉ part) : part.filter (· ≠ sep) = part :=
    List.filter_eq_self.mpr fun x hx => by simpa using ne_of_mem_of_not_mem hx hsep
  induction parts with
  | nil => rfl
  | cons part rest ih =>
    obtain ⟨hsep, hrest⟩ := List.forall_mem_cons.mp h
    cases rest with
    | nil => simpa using hkept part hsep
    | cons next more =>
      rw [List.intercalate_cons_of_ne_nil (List.cons_ne_nil _ _), List.filter_append,
        List.filter_append, ih hrest, hkept part hsep]
      simp

end

/-! ## Names in ASCII -/

theorem upperChar_of_ascii {c : Char} (hascii : c.toNat < 128) : upperChar c = [c.toUpper] :=
  if_pos hascii

theorem isUpper_or_isDigit_toUpper {c : Char} (hascii : c.toNat < 128)
    (hc : isAlphanumeric c = true) : c.toUpper.isUpper = true ∨ c.toUpper.isDigit = true := by
  have htable : ∀ n < 128, (Char.ofNat n).isAlphanum = true →
      (Char.ofNat n).toUpper.isUpper = true ∨ (Char.ofNat n).toUpper.isDigit = true := by
    decide
  have h := htable c.toNat hascii
  rw [isAlphanumeric, if_pos hascii] at hc
  rw [Char.ofNat_toNat] at h
  exact h hc

theorem upper_of_ascii {text : List Char} (hascii : ∀ c ∈ text, c.toNat < 128) :
    upper text = text.map Char.toUpper := by
  rw [upper, List.map_eq_flatMap]
  exact List.flatMap_congr fun c hc => upperChar_of_ascii (hascii c hc)

variable {name : List Char}

/-- The parts of a name in screaming snake case, put together. -/
theorem flatten_upper_words (hascii : ∀ c ∈ name, c.toNat < 128) :
    ((words name).map upper).flatten = (name.filter isAlphanumeric).map Char.toUpper := by
  have hword : ∀ word ∈ words name, upper word = word.map Char.toUpper := by
    intro word hword
    refine upper_of_ascii fun c hc => hascii c ?_
    have hmem : c ∈ (words name).flatten := List.mem_flatten.mpr ⟨word, hword, hc⟩
    rw [flatten_words] at hmem
    exact List.mem_of_mem_filter hmem
  rw [List.map_congr_left hword, ← flatten_words, List.map_flatten]

theorem isUpper_or_isDigit_of_mem (hascii : ∀ c ∈ name, c.toNat < 128) {c : Char}
    (hc : c ∈ ((words name).map upper).flatten) : c.isUpper = true ∨ c.isDigit = true := by
  rw [flatten_upper_words hascii] at hc
  obtain ⟨a, ha, rfl⟩ := List.mem_map.mp hc
  obtain ⟨hmem, halphanumeric⟩ := List.mem_filter.mp ha
  exact isUpper_or_isDigit_toUpper (hascii a hmem) halphanumeric

/-- **The words of a name are its runs of alphanumeric characters, cut at the word boundaries.**
Going through the name once finds the same words. No word is empty, the words put together are the
alphanumeric characters of the name, and no word has a boundary inside. Of a name in ASCII the form
in screaming snake case consists of uppercase letters, digits and underscores; an underscore is
neither at its ends nor beside another one, and without the underscores it is made of the uppercase
forms of the alphanumeric characters. -/
theorem words_cut_at_boundaries (name : List Char) :
    words name = ((name.splitOnP fun c => !isAlphanumeric c).filter (· ≠ [])).flatMap
      (List.splitBy fun a b => !isWordBoundary a b) ∧
    (name.foldl Splitter.step .start).finish = words name ∧
    [] ∉ words name ∧
    (words name).flatten = name.filter isAlphanumeric ∧
    (∀ word ∈ words name, word.IsChain fun a b => isWordBoundary a b = false) ∧
    ((∀ c ∈ name, c.toNat < 128) →
      (∀ c ∈ screamingSnakeCase name, c.isUpper = true ∨ c.isDigit = true ∨ c = '_') ∧
      (screamingSnakeCase name).head? ≠ some '_' ∧
      (screamingSnakeCase name).getLast? ≠ some '_' ∧
      (screamingSnakeCase name).IsChain (fun a b => ¬(a = '_' ∧ b = '_')) ∧
      (screamingSnakeCase name).filter (· ≠ '_') =
        (name.filter isAlphanumeric).map Char.toUpper) := by
  refine ⟨words_eq_splitBy name, Splitter.finish_foldl_step_start name,
    fun h => ne_nil_of_mem_words h rfl, flatten_words name, fun word => isChain_of_mem_words,
    fun hascii => ?_⟩
  have hparts : ∀ part ∈ (words name).map upper, part ≠ [] ∧ '_' ∉ part := by
    intro part hpart
    obtain ⟨word, hword, rfl⟩ := List.mem_map.mp hpart
    refine ⟨fun h => ne_nil_of_mem_words hword (upper_eq_nil_iff.mp h), fun hsep => ?_⟩
    have hflatten := List.mem_flatten.mpr ⟨_, hpart, hsep⟩
    exact absurd (isUpper_or_isDigit_of_mem hascii hflatten) (by decide)
  have hfilter := filter_intercalate fun part hpart => (hparts part hpart).2
  obtain ⟨hhead, hlast, hchain⟩ := separated_intercalate hparts
  refine ⟨fun c hc => ?_, hhead, hlast, hchain, hfilter.trans (flatten_upper_words hascii)⟩
  by_cases hsep : c = '_'
  · exact Or.inr (Or.inr hsep)
  · have hmem : c ∈ (screamingSnakeCase name).filter (· ≠ '_') :=
      List.mem_filter.mpr ⟨hc, by simpa using hsep⟩
    rw [screamingSnakeCase, hfilter] at hmem
    rcases isUpper_or_isDigit_of_mem hascii hmem with h | h
    · exact Or.inl h
    · exact Or.inr (Or.inl h)

/-- A name with separators at its ends, two in a row, and a boundary behind a digit. -/
def bossName : List Char := "--level2Boss__xY ".toList

theorem words_cut_at_boundaries_boss :
    (∀ c ∈ bossName, c.toNat < 128) ∧
    (bossName.foldl Splitter.step .start).finish =
      ["level2", "Boss", "x", "Y"].map String.toList ∧
    screamingSnakeCase bossName = "LEVEL2_BOSS_X_Y".toList ∧
    (screamingSnakeCase bossName).filter (· ≠ '_') = "LEVEL2BOSSXY".toList := by
  have hall : bossName.all (fun c => c.toNat < 128) = true := by decide +kernel
  have hascii : ∀ c ∈ bossName, c.toNat < 128 := by simpa using hall
  obtain ⟨-, hscan, -, -, -, hspelled⟩ := words_cut_at_boundaries bossName
  obtain ⟨-, -, -, -, hletters⟩ := hspelled hascii
  refine ⟨hascii, ?_, by decide +kernel, ?_⟩
  · rw [hscan]
    decide +kernel
  · rw [hletters]
    decide +kernel

end TableForge.Text
