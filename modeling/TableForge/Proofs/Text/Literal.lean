import Mathlib.Data.List.Induction
import TableForge.Text.Quoted

/-!
# Quoted text, read back

A string literal stands between double quotes; inside, a backslash makes the next character stand for
itself, so that the first quote without one ends the literal. Quoting puts a backslash in front of
every double quote, and none in front of a backslash. So a backslash of the text is taken for one of
the literal: it is lost if another character follows, it takes the backslash of a quote for its own
and lets that quote end the literal, and at the end it swallows the closing quote.

A quoted text is read back as it was exactly if it has no backslash, and the literal is closed by its
last quote exactly if backslashes come in pairs where a quote or the end follows them. That nothing
else is read back is a matter of counting: what is read needs at least one character for each of its
own and one more for every quote.
-/
namespace TableForge.Text

/-- Reads the inside of a literal to its closing quote: what it stands for and what follows. -/
def readInside : List Char → Option (List Char × List Char)
  | [] => none
  | '"' :: rest => some ([], rest)
  | ['\\'] => none
  | '\\' :: c :: rest => (readInside rest).map fun (text, behind) => (c :: text, behind)
  | c :: rest => (readInside rest).map fun (text, behind) => (c :: text, behind)

/-- Reads a literal: what it stands for and what follows it. -/
def readLiteral : List Char → Option (List Char × List Char)
  | '"' :: rest => readInside rest
  | _ => none

/-- Every run of backslashes that a double quote or the end of the text follows is made of pairs. -/
def PairedBackslashes (text : List Char) : Prop :=
  ∀ before length after, text = before ++ (List.replicate length '\\' ++ after) →
    before.getLast? ≠ some '\\' → (∀ c ∈ after.head?, c = '"') → 2 ∣ length

variable {text rest : List Char} {c : Char}

/-! ## One character at a time -/

theorem escapeQuotes_eq (text : List Char) :
    escapeQuotes text = replaceFrom ['"'] ['\\', '"'] 0 text := by
  simp [escapeQuotes, replaceAll]

@[simp] theorem escapeQuotes_nil : escapeQuotes [] = [] := rfl

@[simp] theorem escapeQuotes_quote (text : List Char) :
    escapeQuotes ('"' :: text) = '\\' :: '"' :: escapeQuotes text := by
  simp [escapeQuotes_eq, replaceFrom]

theorem escapeQuotes_cons (hc : c ≠ '"') : escapeQuotes (c :: text) = c :: escapeQuotes text := by
  simp [escapeQuotes_eq, replaceFrom, Ne.symm hc]

theorem readInside_escaped (c : Char) (text : List Char) :
    readInside ('\\' :: c :: text) =
      (readInside text).map fun (text, behind) => (c :: text, behind) := by
  rw [readInside]

theorem readInside_cons (hquote : c ≠ '"') (hbackslash : c ≠ '\\') :
    readInside (c :: text) = (readInside text).map fun (text, behind) => (c :: text, behind) := by
  rw [readInside]
  · exact hquote
  · exact fun h => absurd h hbackslash
  · exact fun _ _ h => absurd h hbackslash

/-- A character other than a backslash is read back. -/
theorem readInside_escapeQuotes_cons (hc : c ≠ '\\') :
    readInside (escapeQuotes (c :: text) ++ rest) =
      (readInside (escapeQuotes text ++ rest)).map fun (text, behind) => (c :: text, behind) := by
  by_cases hquote : c = '"'
  · subst hquote
    rw [escapeQuotes_quote, List.cons_append, List.cons_append, readInside_escaped]
  · rw [escapeQuotes_cons hquote, List.cons_append, readInside_cons hquote hc]

/-! ## What is read back -/

theorem length_escapeQuotes (text : List Char) :
    (escapeQuotes text).length = text.length + text.count '"' := by
  induction text with
  | nil => rfl
  | cons c more ih =>
    by_cases hc : c = '"'
    · subst hc
      simp [ih]
      omega
    · simp [escapeQuotes_cons hc, ih, hc]
      omega

/-- What is read takes at least one character for each of its own and one more for every quote, and
the closing quote. -/
theorem length_of_readInside {content behind : List Char}
    (h : readInside text = some (content, behind)) :
    content.length + content.count '"' + behind.length < text.length := by
  fun_induction readInside text generalizing content with
  | case1 => cases h
  | case2 rest =>
    cases h
    simp
  | case3 => cases h
  | case4 c rest ih =>
    obtain ⟨⟨inner, behind⟩, hinner, heq⟩ := Option.map_eq_some_iff.mp h
    cases heq
    have hlength := ih hinner
    have hcount := List.count_cons (a := '"') (b := c) (l := inner)
    simp only [List.length_cons]
    split at hcount <;> omega
  | case5 c rest hquote _ _ ih =>
    obtain ⟨⟨inner, behind⟩, hinner, heq⟩ := Option.map_eq_some_iff.mp h
    cases heq
    have hlength := ih hinner
    have hcount : (c :: inner).count '"' = inner.count '"' :=
      List.count_cons_of_ne fun h => hquote h
    simp only [List.length_cons]
    omega

theorem readInside_escapeQuotes_eq_some_iff :
    readInside (escapeQuotes text ++ '"' :: rest) = some (text, rest) ↔ '\\' ∉ text := by
  induction text with
  | nil => simp [readInside]
  | cons c more ih =>
    by_cases hc : c = '\\'
    · subst hc
      simp only [List.mem_cons, true_or, not_true_eq_false, iff_false]
      intro h
      rw [escapeQuotes_cons (by decide), List.cons_append] at h
      cases htail : escapeQuotes more ++ '"' :: rest with
      | nil => simp at htail
      | cons d tail =>
        rw [htail, readInside_escaped] at h
        obtain ⟨⟨inner, behind⟩, hinner, heq⟩ := Option.map_eq_some_iff.mp h
        cases heq
        -- one character is missing for the backslash that was taken for an escape
        have hshort := length_of_readInside hinner
        have hlength := congrArg List.length htail
        simp only [List.length_append, List.length_cons, length_escapeQuotes] at hlength
        omega
    · rw [readInside_escapeQuotes_cons hc, List.mem_cons, not_or, ← ih]
      simp [Ne.symm hc]

/-! ## Where the literal ends -/

theorem pairedBackslashes_nil : PairedBackslashes [] := by
  intro before length after h _ _
  have hrun : List.replicate length '\\' = [] :=
    (List.append_eq_nil_iff.mp (List.append_eq_nil_iff.mp h.symm).2).1
  rw [(List.replicate_eq_nil_iff _).mp hrun]
  exact Nat.dvd_zero 2

theorem getLast?_of_cons {d : Char} (h : (c :: text).getLast? ≠ some d) :
    text.getLast? ≠ some d := by
  cases text with
  | nil => simp
  | cons e more => simpa [List.getLast?_cons_cons] using h

/-- Nothing depends on a character that is no backslash. -/
theorem pairedBackslashes_cons (hc : c ≠ '\\') :
    PairedBackslashes (c :: text) ↔ PairedBackslashes text := by
  constructor
  · intro h before length after htext hbefore hafter
    refine h (c :: before) length after (by rw [htext, List.cons_append]) ?_ hafter
    cases before with
    | nil => simpa using hc
    | cons b more => simpa [List.getLast?_cons_cons] using hbefore
  · intro h before length after htext hbefore hafter
    cases before with
    | nil =>
      cases length with
      | zero => exact Nat.dvd_zero 2
      | succ length => exact absurd (List.cons_eq_cons.mp htext).1 hc
    | cons b more =>
      obtain ⟨rfl, hmore⟩ := List.cons_eq_cons.mp htext
      exact h more length after hmore (getLast?_of_cons hbefore) hafter

/-- A backslash makes a pair with what follows it, unless this is a quote. -/
theorem pairedBackslashes_escape (hc : c ≠ '"') :
    PairedBackslashes ('\\' :: c :: text) ↔ PairedBackslashes text := by
  constructor
  · intro h before length after htext hbefore hafter
    cases before with
    | cons b more =>
      refine h ('\\' :: c :: b :: more) length after (by rw [htext]; rfl) ?_ hafter
      simpa [List.getLast?_cons_cons] using hbefore
    | nil =>
      by_cases hbackslash : c = '\\'
      · have hlonger := h [] (length + 2) after (by rw [htext, hbackslash]; rfl) (by simp) hafter
        omega
      · refine h ['\\', c] length after (by rw [htext]; rfl) ?_ hafter
        simpa using hbackslash
  · intro h before length after htext hbefore hafter
    cases before with
    | nil =>
      match length with
      | 0 => exact Nat.dvd_zero 2
      | 1 =>
        have htail : c :: text = after := (List.cons_eq_cons.mp htext).2
        exact absurd (hafter c (by simp [← htail])) hc
      | length + 2 =>
        have htail : c :: text = '\\' :: (List.replicate length '\\' ++ after) :=
          (List.cons_eq_cons.mp htext).2
        have hshorter := h [] length after (List.cons_eq_cons.mp htail).2 (by simp) hafter
        omega
    | cons b more =>
      obtain ⟨rfl, htail⟩ := List.cons_eq_cons.mp htext
      cases more with
      | nil => simp at hbefore
      | cons d others =>
        exact h others length after (List.cons_eq_cons.mp htail).2
          (getLast?_of_cons (getLast?_of_cons hbefore)) hafter

/-- A single backslash before a quote or the end has nothing to make a pair with. -/
theorem not_pairedBackslashes (h : ∀ c ∈ text.head?, c = '"') :
    ¬ PairedBackslashes ('\\' :: text) := by
  intro hpaired
  have hone := hpaired [] 1 text rfl (by simp) h
  omega

/-- One more character at the front changes nothing of where a literal ends. -/
theorem exists_map_cons_iff {read : Option (List Char × List Char)} :
    (∃ content, (read.map fun (text, behind) => (c :: text, behind)) = some (content, rest)) ↔
      ∃ content, read = some (content, rest) := by
  constructor
  · rintro ⟨content, h⟩
    obtain ⟨⟨inner, behind⟩, hinner, heq⟩ := Option.map_eq_some_iff.mp h
    cases heq
    exact ⟨inner, hinner⟩
  · rintro ⟨content, rfl⟩
    exact ⟨c :: content, rfl⟩

/-- The closing quote alone closes the literal. -/
theorem closes_nil : ∃ content, readInside (escapeQuotes [] ++ '"' :: rest) = some (content, rest) :=
  ⟨[], by rw [escapeQuotes_nil, List.nil_append, readInside]⟩

theorem readInside_escapeQuotes_closes_iff :
    (∃ content, readInside (escapeQuotes text ++ '"' :: rest) = some (content, rest)) ↔
      PairedBackslashes text := by
  induction text using List.twoStepInduction with
  | nil => exact iff_of_true closes_nil pairedBackslashes_nil
  | singleton c =>
    by_cases hc : c = '\\'
    · subst hc
      refine iff_of_false ?_ (not_pairedBackslashes (by simp))
      -- the closing quote is taken for the escaped character
      rintro ⟨content, h⟩
      rw [escapeQuotes_cons (by decide), escapeQuotes_nil] at h
      obtain ⟨content, hrest⟩ :=
        exists_map_cons_iff.mp ⟨content, (readInside_escaped '"' rest).symm.trans h⟩
      have hlength := length_of_readInside hrest
      omega
    · rw [readInside_escapeQuotes_cons hc, exists_map_cons_iff, pairedBackslashes_cons hc]
      exact iff_of_true closes_nil pairedBackslashes_nil
  | cons_cons c d more ih ih' =>
    by_cases hc : c = '\\'
    · subst hc
      by_cases hd : d = '"'
      · subst hd
        refine iff_of_false ?_ (not_pairedBackslashes (by simp))
        -- the backslash of the quote is escaped, and the quote ends the literal
        rintro ⟨content, h⟩
        rw [escapeQuotes_cons (by decide), escapeQuotes_quote, List.cons_append, List.cons_append,
          List.cons_append, readInside_escaped, readInside] at h
        have hbehind : escapeQuotes more ++ '"' :: rest = rest := by
          simpa using congrArg (Option.map Prod.snd) h
        have hlength := congrArg List.length hbehind
        simp only [List.length_append, List.length_cons] at hlength
        omega
      · rw [escapeQuotes_cons (by decide), escapeQuotes_cons hd, List.cons_append, List.cons_append,
          readInside_escaped, exists_map_cons_iff, pairedBackslashes_escape hd]
        exact ih
    · rw [readInside_escapeQuotes_cons hc, exists_map_cons_iff, pairedBackslashes_cons hc]
      exact ih' d

/-! ## Whole literals -/

theorem readLiteral_quote (text rest : List Char) :
    readLiteral (quote text ++ rest) = readInside (escapeQuotes text ++ '"' :: rest) := by
  simp [quote, readLiteral]

/-- A quoted text is read back, with all that follows it left, exactly if it has no backslash. -/
theorem readLiteral_quote_eq_some_iff :
    readLiteral (quote text ++ rest) = some (text, rest) ↔ '\\' ∉ text := by
  rw [readLiteral_quote, readInside_escapeQuotes_eq_some_iff]

/-- The literal ends with its last quote exactly if backslashes come in pairs. -/
theorem readLiteral_quote_closes_iff :
    (∃ content, readLiteral (quote text ++ rest) = some (content, rest)) ↔
      PairedBackslashes text := by
  rw [← readInside_escapeQuotes_closes_iff, readLiteral_quote]

end TableForge.Text
