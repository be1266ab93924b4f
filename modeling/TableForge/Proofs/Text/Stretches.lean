import Mathlib.Data.List.SplitBy
import TableForge.Text.Search

/-!
# Replacing tokens one after another and all at once

A text is cut into stretches: the longest pieces that consist of token characters (uppercase letters
and underscores) or of none. Replacing tokens all at once touches the stretches that are tokens and
nothing else. Replacing them one after another looks for each token everywhere, also inside longer
stretches and in what earlier replacements have put in.

The two agree where every stretch of token characters is a token or contains none and nothing that is
put in contains one. The argument keeps the text in pieces: beside every piece that is replaced there
is one of other characters, so no token ever stands across the border of two pieces, whatever has
been put in.
-/
namespace TableForge.Text

/-- The characters that tokens are made of. -/
def isTokenChar (c : Char) : Bool := c.isUpper || c = '_'

/-- The maximal stretches of token characters and of other characters, in order. -/
def stretches (text : List Char) : List (List Char) :=
  text.splitBy fun a b => isTokenChar a == isTokenChar b

/-- Every stretch that is a token of a list gives way to its text, all in one step. -/
def replaceStretches (values : List (List Char × List Char)) (text : List Char) : List Char :=
  (stretches text).flatMap fun stretch => (values.lookup stretch).getD stretch

/-- Every stretch of token characters is one of the tokens or contains none of them. -/
def WellDelimited (tokens : List (List Char)) (text : List Char) : Prop :=
  ∀ stretch ∈ stretches text, (∀ c ∈ stretch, isTokenChar c = true) →
    stretch ∈ tokens ∨ ∀ token ∈ tokens, ¬ token <:+: stretch

/-- A piece is looked through character by character, instead of all characters there are. -/
instance (priority := 2000) decidableTokenChars (piece : List Char) :
    Decidable (∀ c ∈ piece, isTokenChar c = true) :=
  List.decidableBAll (fun c => isTokenChar c = true) piece

/-- Occurrences are decided by a search that passes over the text once. -/
instance (priority := 2000) decidableOccurs (token text : List Char) : Decidable (token <:+: text) :=
  List.instDecidableIsInfixOfDecidableEq token text

/-- A text that a token can be. -/
def IsToken (token : List Char) : Prop := token ≠ [] ∧ ∀ c ∈ token, isTokenChar c = true

/-- A piece without token characters. -/
def Gap (piece : List Char) : Prop := ∀ c ∈ piece, isTokenChar c = false

/-- Of two neighbours the first is a gap or the second is one that is not empty. -/
def Sealed (pieces : List (List Char)) : Prop :=
  pieces.IsChain fun a b => Gap a ∨ (b ≠ [] ∧ Gap b)

variable {token value text a b : List Char} {pieces : List (List Char)}

/-! ## Replacing one token -/

theorem IsToken.not_infix_gap (h : IsToken token) (ha : Gap a) : ¬ token <:+: a := by
  intro hin
  obtain ⟨c, hc⟩ := List.exists_mem_of_ne_nil token h.1
  have hgap := ha c (hin.subset hc)
  rw [h.2 c hc] at hgap
  cases hgap

theorem replaceAll_of_not_infix (h : ¬ token <:+: text) : replaceAll token value text = text := by
  have hzero : replaceFrom token value 0 text = text := by
    induction text with
    | nil => rfl
    | cons c rest ih =>
      rw [List.infix_cons_iff, not_or] at h
      rw [replaceFrom, if_neg (by simpa [List.isPrefixOf_iff_prefix] using h.1), ih h.2]
  rw [replaceAll, hzero, ite_self]

theorem replaceFrom_of_length_le {skip : Nat} (h : text.length ≤ skip) :
    replaceFrom token value skip text = [] := by
  induction text generalizing skip with
  | nil => rfl
  | cons c rest ih =>
    obtain ⟨fewer, rfl⟩ : ∃ fewer, skip = fewer + 1 := ⟨skip - 1, by simp at h; omega⟩
    exact ih (by simpa using h)

theorem replaceAll_self (h : token ≠ []) : replaceAll token value token = value := by
  obtain ⟨c, rest, rfl⟩ := List.exists_cons_of_ne_nil h
  rw [replaceAll, if_neg h, replaceFrom, if_pos (by simp [List.isPrefixOf_iff_prefix]),
    replaceFrom_of_length_le (by simp), List.append_nil]

/-- A token that begins before a gap ends before it. -/
theorem prefix_append_iff (htoken : ∀ c ∈ token, isTokenChar c = true)
    (hb : ∀ c ∈ b.head?, isTokenChar c = false) : token <+: a ++ b ↔ token <+: a := by
  refine ⟨?_, fun h => h.trans (List.prefix_append a b)⟩
  intro h
  induction a generalizing token with
  | nil =>
    cases token with
    | nil => exact List.prefix_rfl
    | cons c rest =>
      obtain ⟨more, rfl⟩ := h
      have hgap := hb c rfl
      rw [htoken c List.mem_cons_self] at hgap
      cases hgap
  | cons d rest ih =>
    cases token with
    | nil => exact List.nil_prefix
    | cons c more =>
      obtain ⟨rfl, hmore⟩ := List.cons_prefix_cons.mp h
      exact List.cons_prefix_cons.mpr
        ⟨rfl, ih (fun c hc => htoken c (List.mem_cons_of_mem _ hc)) hmore⟩

theorem replaceFrom_append (h : IsToken token) (hb : ∀ c ∈ b.head?, isTokenChar c = false)
    {skip : Nat} (hskip : skip ≤ a.length) :
    replaceFrom token value skip (a ++ b) =
      replaceFrom token value skip a ++ replaceFrom token value 0 b := by
  induction a generalizing skip with
  | nil =>
    rw [Nat.le_zero.mp hskip]
    rfl
  | cons c rest ih =>
    cases skip with
    | succ skip => exact ih (by simpa using hskip)
    | zero =>
      have hiff : token <+: c :: (rest ++ b) ↔ token <+: c :: rest :=
        prefix_append_iff (a := c :: rest) h.2 hb
      by_cases hp : token <+: c :: rest
      · have hlength : token.length - 1 ≤ rest.length := by
          have hle := hp.length_le
          simp only [List.length_cons] at hle
          omega
        rw [List.cons_append, replaceFrom, replaceFrom,
          if_pos (List.isPrefixOf_iff_prefix.mpr (hiff.mpr hp)),
          if_pos (List.isPrefixOf_iff_prefix.mpr hp), ih hlength, List.append_assoc]
      · rw [List.cons_append, replaceFrom, replaceFrom,
          if_neg fun hc => hp (hiff.mp (List.isPrefixOf_iff_prefix.mp hc)),
          if_neg fun hc => hp (List.isPrefixOf_iff_prefix.mp hc), ih (Nat.zero_le _)]
        rfl

/-- Before a gap a text is replaced on its own. -/
theorem replaceAll_append (h : IsToken token) (hb : ∀ c ∈ b.head?, isTokenChar c = false) :
    replaceAll token value (a ++ b) = replaceAll token value a ++ replaceAll token value b := by
  simp only [replaceAll, if_neg h.1, replaceFrom_append h hb (Nat.zero_le a.length)]

/-- A gap stays as it is, whatever follows it. -/
theorem replaceAll_gap_append (h : IsToken token) (ha : Gap a) :
    replaceAll token value (a ++ b) = a ++ replaceAll token value b := by
  simp only [replaceAll, if_neg h.1]
  induction a with
  | nil => rfl
  | cons c rest ih =>
    have hno : ¬ token <+: c :: (rest ++ b) := by
      intro hp
      obtain ⟨d, more, rfl⟩ := List.exists_cons_of_ne_nil h.1
      have hc := ha c List.mem_cons_self
      rw [← (List.cons_prefix_cons.mp hp).1, h.2 d List.mem_cons_self] at hc
      cases hc
    rw [List.cons_append, replaceFrom, if_neg fun hp => hno (List.isPrefixOf_iff_prefix.mp hp),
      ih fun c hc => ha c (List.mem_cons_of_mem _ hc)]
    rfl

/-! ## Replacing in pieces -/

theorem replaceAll_flatten (h : IsToken token) (hsealed : Sealed pieces) :
    replaceAll token value pieces.flatten = (pieces.map (replaceAll token value)).flatten := by
  induction pieces with
  | nil => simp [replaceAll, replaceFrom]
  | cons piece rest ih =>
    have hrest := ih hsealed.tail
    rw [List.flatten_cons, List.map_cons, List.flatten_cons, ← hrest]
    cases rest with
    | nil => simp [replaceAll, replaceFrom]
    | cons next more =>
      rcases (List.isChain_cons_cons.mp hsealed).1 with hgap | ⟨hne, hgap⟩
      · rw [replaceAll_gap_append h hgap, replaceAll_of_not_infix (h.not_infix_gap hgap)]
      · refine replaceAll_append h ?_
        intro c hc
        rw [List.flatten_cons, List.head?_append_of_ne_nil _ hne] at hc
        exact hgap c (List.mem_of_mem_head? hc)

/-- Only what is no gap is exchanged, so the neighbours of what is put in are gaps as before. -/
theorem Sealed.exchange (h : IsToken token) (hsealed : Sealed pieces) (value : List Char) :
    Sealed (pieces.map fun piece => if piece = token then value else piece) := by
  have hkept {piece : List Char} (hgap : Gap piece) : piece ≠ token :=
    fun he => h.not_infix_gap hgap (he ▸ List.infix_rfl)
  unfold Sealed
  rw [List.isChain_map]
  refine hsealed.imp ?_
  rintro a b (hgap | ⟨hne, hgap⟩)
  · rw [if_neg (hkept hgap)]
    exact Or.inl hgap
  · rw [if_neg (hkept hgap)]
    exact Or.inr ⟨hne, hgap⟩

theorem replaceAll_pieces (h : IsToken token) (hsealed : Sealed pieces)
    (hpieces : ∀ piece ∈ pieces, piece = token ∨ ¬ token <:+: piece) :
    replaceAll token value pieces.flatten =
      (pieces.map fun piece => if piece = token then value else piece).flatten := by
  rw [replaceAll_flatten h hsealed]
  refine congrArg List.flatten (List.map_congr_left ?_)
  intro piece hpiece
  rcases hpieces piece hpiece with rfl | hno
  · rw [if_pos rfl, replaceAll_self h.1]
  · have hne : piece ≠ token := by
      rintro rfl
      exact hno List.infix_rfl
    rw [if_neg hne, replaceAll_of_not_infix hno]

/-- Replacing tokens one after another in pieces that none of them stands across, by induction on the
list of tokens. After each step the pieces that were its token hold what was put in. -/
theorem foldl_replaceAll_flatten {values : List (List Char × List Char)}
    (htokens : ∀ v ∈ values, IsToken v.1)
    (horder : values.Pairwise fun v w => ¬ v.1 <:+: w.1) (hsealed : Sealed pieces)
    (hpieces : ∀ piece ∈ pieces,
      piece ∈ values.map Prod.fst ∨ ∀ v ∈ values, ¬ v.1 <:+: piece)
    (hinserted : ∀ v ∈ values, v.1 ∈ pieces → ∀ w ∈ values, ¬ w.1 <:+: v.2) :
    values.foldl (fun body v => replaceAll v.1 v.2 body) pieces.flatten =
      pieces.flatMap fun piece => (values.lookup piece).getD piece := by
  induction values generalizing pieces with
  | nil => simp [List.flatMap_def]
  | cons v values ih =>
    obtain ⟨hfirst, horder'⟩ := List.pairwise_cons.mp horder
    have htoken := htokens v List.mem_cons_self
    have hstep : ∀ piece ∈ pieces, piece = v.1 ∨ ¬ v.1 <:+: piece := by
      intro piece hpiece
      rcases hpieces piece hpiece with hmem | hno
      · rw [List.map_cons, List.mem_cons, List.mem_map] at hmem
        rcases hmem with he | ⟨w, hw, rfl⟩
        · exact Or.inl he
        · exact Or.inr (hfirst w hw)
      · exact Or.inr (hno v List.mem_cons_self)
    rw [List.foldl_cons, replaceAll_pieces htoken hsealed hstep,
      ih (fun w hw => htokens w (List.mem_cons_of_mem _ hw)) horder' (hsealed.exchange htoken v.2),
      List.flatMap_map]
    · refine List.flatMap_congr ?_
      intro piece hpiece
      split
      · next he =>
        -- what has been put in is none of the tokens that are still to come
        have hput := hinserted v List.mem_cons_self (he ▸ hpiece)
        have hnone : values.lookup v.2 = none := by
          refine List.lookup_eq_none_iff.mpr fun w hw => bne_iff_ne.mpr ?_
          intro he
          exact hput w (List.mem_cons_of_mem _ hw) (he ▸ List.infix_rfl)
        rw [hnone, he, List.lookup_cons_self, Option.getD_none, Option.getD_some]
      · next hne => rw [List.lookup_cons, beq_eq_false_iff_ne.mpr hne]
    · intro piece hpiece
      obtain ⟨old, hold, rfl⟩ := List.mem_map.mp hpiece
      split
      · next he =>
        exact Or.inr fun w hw =>
          hinserted v List.mem_cons_self (he ▸ hold) w (List.mem_cons_of_mem _ hw)
      · next hne =>
        rcases hpieces old hold with hmem | hno
        · exact Or.inl ((List.mem_cons.mp hmem).resolve_left hne)
        · exact Or.inr fun w hw => hno w (List.mem_cons_of_mem _ hw)
    · intro w hw hmem
      obtain ⟨old, hold, he⟩ := List.mem_map.mp hmem
      have hthere : w.1 ∈ pieces := by
        split at he
        · next hsame =>
          have hput := hinserted v List.mem_cons_self (hsame ▸ hold) w (List.mem_cons_of_mem _ hw)
          rw [he] at hput
          exact absurd List.infix_rfl hput
        · exact he ▸ hold
      exact fun u hu => hinserted w (List.mem_cons_of_mem _ hw) hthere u (List.mem_cons_of_mem _ hu)

/-! ## Stretches -/

theorem isTokenChar_of_mem_stretches {stretch : List Char} (h : stretch ∈ stretches text) {c d : Char}
    (hc : c ∈ stretch) (hd : d ∈ stretch) : isTokenChar c = isTokenChar d := by
  have hchain : stretch.IsChain fun a b => isTokenChar a = isTokenChar b :=
    (List.isChain_of_mem_splitBy h).imp fun a b hab => by simpa using hab
  have : IsTrans Char fun a b => isTokenChar a = isTokenChar b := ⟨fun _ _ _ => Eq.trans⟩
  have hsymm : Std.Symm fun a b => isTokenChar a = isTokenChar b := ⟨fun _ _ => Eq.symm⟩
  exact List.Pairwise.forall_of_forall (R := fun a b => isTokenChar a = isTokenChar b)
    (fun _ _ => rfl) hchain.pairwise hc hd

theorem sealed_stretches (text : List Char) : Sealed (stretches text) := by
  refine (List.isChain_getLast_head_splitBy _ text).imp_of_mem_imp ?_
  rintro a b ha hb ⟨hane, hbne, hends⟩
  have hdiffer : isTokenChar (a.getLast hane) ≠ isTokenChar (b.head hbne) := by simpa using hends
  cases hlast : isTokenChar (a.getLast hane) with
  | false =>
    refine Or.inl fun c hc => ?_
    rw [isTokenChar_of_mem_stretches ha hc (List.getLast_mem hane), hlast]
  | true =>
    refine Or.inr ⟨hbne, fun c hc => ?_⟩
    rw [isTokenChar_of_mem_stretches hb hc (List.head_mem hbne)]
    simpa [hlast] using hdiffer

theorem tokenChars_or_gap {stretch : List Char} (h : stretch ∈ stretches text) :
    (∀ c ∈ stretch, isTokenChar c = true) ∨ Gap stretch := by
  by_cases hall : ∀ c ∈ stretch, isTokenChar c = true
  · exact Or.inl hall
  · push Not at hall
    obtain ⟨d, hd, hno⟩ := hall
    refine Or.inr fun c hc => ?_
    rw [isTokenChar_of_mem_stretches h hc hd]
    simpa using hno

/-- **One after another is all at once.** In a well-delimited text the tokens of a list, none of which
contains an earlier one, may be replaced one after another, if no text that is put in contains one of
them. -/
theorem foldl_replaceAll_eq_replaceStretches {values : List (List Char × List Char)}
    (htokens : ∀ v ∈ values, IsToken v.1)
    (horder : values.Pairwise fun v w => ¬ v.1 <:+: w.1)
    (hdelimited : WellDelimited (values.map Prod.fst) text)
    (hinserted : ∀ v ∈ values, v.1 ∈ stretches text → ∀ w ∈ values, ¬ w.1 <:+: v.2) :
    values.foldl (fun body v => replaceAll v.1 v.2 body) text = replaceStretches values text := by
  have hpieces : ∀ stretch ∈ stretches text,
      stretch ∈ values.map Prod.fst ∨ ∀ v ∈ values, ¬ v.1 <:+: stretch := by
    intro stretch hstretch
    rcases tokenChars_or_gap hstretch with hchars | hgap
    · refine (hdelimited stretch hstretch hchars).imp_right fun hno v hv => ?_
      exact hno v.1 (List.mem_map_of_mem hv)
    · exact Or.inr fun v hv => (htokens v hv).not_infix_gap hgap
  have hfold := foldl_replaceAll_flatten htokens horder (sealed_stretches text) hpieces hinserted
  rw [stretches, List.flatten_splitBy] at hfold
  exact hfold

end TableForge.Text
