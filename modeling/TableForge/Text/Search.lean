/-!
# Finding, splitting and replacing

Literal text search, left to right and without overlaps. `cut?` finds the first occurrence,
`splitOn` cuts at every occurrence and `replaceAll` puts another text in the place of every
occurrence. The last two walk the text once: after a match, `skip` counts the characters of the
occurrence that are still to be passed over.

Main statements: `cut?` takes the text apart without loss and fails exactly where nothing occurs;
the parts of `splitOn` joined by the separator are the text, and joined by another text they are
what `replaceAll` makes of it.
-/
namespace TableForge.Text

/-- The first occurrence of `needle`: what stands before it and what follows it. -/
def cut? (needle : List Char) : List Char → Option (List Char × List Char)
  | [] => if needle = [] then some ([], []) else none
  | c :: cs =>
    if needle.isPrefixOf (c :: cs) then some ([], (c :: cs).drop needle.length)
    else (cut? needle cs).map fun (before, after) => (c :: before, after)

def splitFrom (separator : List Char) (skip : Nat) : List Char → List (List Char)
  | [] => [[]]
  | c :: cs =>
    match skip with
    | skip + 1 => splitFrom separator skip cs
    | 0 =>
      if separator.isPrefixOf (c :: cs) then [] :: splitFrom separator (separator.length - 1) cs
      else (splitFrom separator 0 cs).modifyHead (c :: ·)

/-- The parts of `text` between the occurrences of `separator`; a text without any is one part. -/
def splitOn (separator text : List Char) : List (List Char) :=
  if separator = [] then [text] else splitFrom separator 0 text

def replaceFrom (token value : List Char) (skip : Nat) : List Char → List Char
  | [] => []
  | c :: cs =>
    match skip with
    | skip + 1 => replaceFrom token value skip cs
    | 0 =>
      if token.isPrefixOf (c :: cs) then value ++ replaceFrom token value (token.length - 1) cs
      else c :: replaceFrom token value 0 cs

/-- Every occurrence of `token` gives way to `value`; the empty token occurs nowhere. -/
def replaceAll (token value text : List Char) : List Char :=
  if token = [] then text else replaceFrom token value 0 text

theorem append_drop_of_isPrefixOf {needle text : List Char} (h : needle.isPrefixOf text = true) :
    needle ++ text.drop needle.length = text := by
  obtain ⟨rest, rfl⟩ := List.isPrefixOf_iff_prefix.1 h
  simp

/-- What `cut?` returns, put together, is the text. -/
theorem eq_append_of_cut? {needle text before after : List Char}
    (h : cut? needle text = some (before, after)) : text = before ++ needle ++ after := by
  induction text generalizing before with
  | nil =>
    by_cases hn : needle = [] <;> simp_all [cut?]
  | cons c cs ih =>
    by_cases hp : needle.isPrefixOf (c :: cs)
    · rw [cut?, if_pos hp] at h
      cases h
      exact (append_drop_of_isPrefixOf hp).symm
    · rw [cut?, if_neg hp] at h
      obtain ⟨⟨b, a⟩, hb, he⟩ := Option.map_eq_some_iff.1 h
      cases he
      rw [ih hb]
      rfl

/-- What `cut?` finds begins nowhere earlier. -/
theorem length_le_of_cut? {needle text before after before' after' : List Char}
    (h : cut? needle text = some (before, after)) (htext : text = before' ++ (needle ++ after')) :
    before.length ≤ before'.length := by
  induction text generalizing before before' with
  | nil =>
    have hbefore := eq_append_of_cut? h
    simp_all
  | cons c cs ih =>
    by_cases hp : needle.isPrefixOf (c :: cs)
    · rw [cut?, if_pos hp] at h
      cases h
      exact Nat.zero_le _
    · rw [cut?, if_neg hp] at h
      obtain ⟨⟨b, a⟩, hb, he⟩ := Option.map_eq_some_iff.1 h
      cases he
      cases before' with
      | nil =>
        rw [List.isPrefixOf_iff_prefix, htext] at hp
        simp at hp
      | cons d more =>
        simp only [List.cons_append, List.cons.injEq] at htext
        exact Nat.succ_le_succ (ih hb htext.2)

/-- `cut?` fails exactly where `needle` does not occur. -/
theorem cut?_eq_none_iff {needle text : List Char} :
    cut? needle text = none ↔ ¬ needle <:+: text := by
  induction text with
  | nil => by_cases hn : needle = [] <;> simp_all [cut?]
  | cons c cs ih =>
    by_cases hp : needle.isPrefixOf (c :: cs)
    · simp [cut?, hp, List.infix_cons_iff, List.isPrefixOf_iff_prefix.1 hp]
    · have hn : ¬ needle <+: c :: cs := fun h => hp (List.isPrefixOf_iff_prefix.2 h)
      simp [cut?, hp, List.infix_cons_iff, hn, ih]

theorem splitFrom_ne_nil (separator : List Char) (skip : Nat) (text : List Char) :
    splitFrom separator skip text ≠ [] := by
  induction text generalizing skip with
  | nil => simp [splitFrom]
  | cons c cs ih =>
    cases skip with
    | succ skip => simpa [splitFrom] using ih skip
    | zero =>
      simp only [splitFrom]
      split
      · simp
      · cases h : splitFrom separator 0 cs with
        | nil => exact absurd h (ih 0)
        | cons part parts => simp

theorem intercalate_cons_of_ne_nil (value part : List Char) {parts : List (List Char)}
    (h : parts ≠ []) :
    value.intercalate (part :: parts) = part ++ value ++ value.intercalate parts := by
  cases parts with
  | nil => contradiction
  | cons next rest => simp [List.intercalate]

theorem intercalate_modifyHead (value : List Char) (c : Char) {parts : List (List Char)}
    (h : parts ≠ []) :
    value.intercalate (parts.modifyHead (c :: ·)) = c :: value.intercalate parts := by
  cases parts with
  | nil => contradiction
  | cons part rest => cases rest <;> simp [List.intercalate]

theorem intercalate_splitFrom (separator value : List Char) (skip : Nat) (text : List Char) :
    value.intercalate (splitFrom separator skip text) = replaceFrom separator value skip text := by
  induction text generalizing skip with
  | nil => simp [splitFrom, replaceFrom, List.intercalate]
  | cons c cs ih =>
    cases skip with
    | succ skip => simpa [splitFrom, replaceFrom] using ih skip
    | zero =>
      simp only [splitFrom, replaceFrom]
      split
      · simp [intercalate_cons_of_ne_nil _ _ (splitFrom_ne_nil _ _ _), ih]
      · rw [intercalate_modifyHead _ _ (splitFrom_ne_nil _ _ _), ih]

/-- Replacing is cutting at every occurrence and joining the parts with the other text. -/
theorem replaceAll_eq_intercalate (token value text : List Char) :
    replaceAll token value text = value.intercalate (splitOn token text) := by
  by_cases h : token = []
  · simp [replaceAll, splitOn, h, List.intercalate]
  · simp [replaceAll, splitOn, h, intercalate_splitFrom]

theorem replaceFrom_self (token : List Char) (skip : Nat) (text : List Char) (h : token ≠ []) :
    replaceFrom token token skip text = text.drop skip := by
  induction text generalizing skip with
  | nil => simp [replaceFrom]
  | cons c cs ih =>
    cases skip with
    | succ skip => simpa [replaceFrom] using ih skip
    | zero =>
      simp only [replaceFrom]
      split
      · next hp =>
        obtain ⟨rest, hr⟩ := List.isPrefixOf_iff_prefix.1 hp
        cases token with
        | nil => contradiction
        | cons t ts =>
          simp only [List.cons_append, List.cons.injEq] at hr
          obtain ⟨rfl, rfl⟩ := hr
          simp [ih]
      · simp [ih]

/-- Nothing is lost between the parts and the separators. -/
theorem intercalate_splitOn (separator text : List Char) :
    separator.intercalate (splitOn separator text) = text := by
  rw [← replaceAll_eq_intercalate]
  by_cases h : separator = []
  · simp [replaceAll, h]
  · simp [replaceAll, h, replaceFrom_self]

/-- `text` without the characters of `drop` at its end. -/
def trimRight (drop : Char → Bool) (text : List Char) : List Char :=
  (text.reverse.dropWhile drop).reverse

/-- What is left and what was dropped make up the text. -/
theorem exists_eq_trimRight_append (drop : Char → Bool) (text : List Char) :
    ∃ dropped, text = trimRight drop text ++ dropped ∧ ∀ c ∈ dropped, drop c = true := by
  refine ⟨(text.reverse.takeWhile drop).reverse, ?_, fun c hc => ?_⟩
  · rw [trimRight, ← List.reverse_append, List.takeWhile_append_dropWhile, List.reverse_reverse]
  · exact List.all_eq_true.mp List.all_takeWhile c (List.mem_reverse.mp hc)

/-- What is left does not end in a character to be dropped. -/
theorem drop_eq_false_of_getLast?_trimRight {drop : Char → Bool} {text : List Char} {c : Char}
    (h : (trimRight drop text).getLast? = some c) : drop c = false := by
  rw [trimRight, List.getLast?_reverse] at h
  have hhead := List.head?_dropWhile_not drop text.reverse
  rw [h] at hhead
  simpa using hhead

/-- Nothing else is dropped: what does not end in such a character is left as it is. -/
theorem trimRight_append {drop : Char → Bool} {kept dropped : List Char}
    (hdropped : ∀ c ∈ dropped, drop c = true)
    (hlast : ∀ c, kept.getLast? = some c → drop c = false) :
    trimRight drop (kept ++ dropped) = kept := by
  have hkept : kept.reverse.dropWhile drop = kept.reverse := by
    cases hr : kept.reverse with
    | nil => rfl
    | cons c rest =>
      refine List.dropWhile_cons_of_neg (Bool.not_eq_true _ ▸ hlast c ?_)
      rw [← List.head?_reverse, hr, List.head?_cons]
  rw [trimRight, List.reverse_append,
    List.dropWhile_append_of_pos fun c hc => hdropped c (List.mem_reverse.mp hc), hkept,
    List.reverse_reverse]

/-- `text` without the line breaks at its end. -/
def trimLineEnds (text : List Char) : List Char :=
  trimRight (fun c => c = '\n' || c = '\r') text

end TableForge.Text
