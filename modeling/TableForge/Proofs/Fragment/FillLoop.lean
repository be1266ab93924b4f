import Mathlib.Data.List.Infix
import TableForge.Proofs.Fragment.Instantiation
import TableForge.Text.Search

/-!
# Filling a pattern while reading it

A pattern need not be taken apart before it is filled. Reading it from left to right one can keep
the output so far and the rest of the pattern: a turn goes to the next opening brace, tries the
holes one after the other behind it, and goes on behind the hole that fits, or behind the brace if
none does. What has been put out never comes back into the rest, so the output together with what
the pieces of the rest give is the same before and after each turn.
-/
namespace TableForge.Pattern

/-- How far the filling of a pattern has come. -/
structure Filler where
  output : List Char
  rest : List Char
deriving DecidableEq, Repr

namespace Filler

/-- The value of the first token that stands at the front with a closing brace behind it, and what
follows the brace. -/
def holeAt? (args : List (List Char × List Char)) (tail : List Char) :
    Option (List Char × List Char) :=
  args.findSome? fun (token, value) =>
    ((tail.dropPrefix? token).bind fun behind => behind.dropPrefix? ['\x7d']).map
      fun after => (value, after)

/-- One turn, up to the next opening brace and behind it. There is none when no brace is left. -/
def turn (args : List (List Char × List Char)) (s : Filler) : Option Filler :=
  (Text.cut? ['\x7b'] s.rest).map fun (before, tail) =>
    match holeAt? args tail with
    | some (value, after) => { output := s.output ++ before ++ value, rest := after }
    | none => { output := s.output ++ before ++ ['\x7b'], rest := tail }

variable {args : List (List Char × List Char)} {s next : Filler}
  {slots : List Slot} {value : Slot → List Char} {tail after text : List Char}

theorem dropPrefix?_token_closing {token : List Char} :
    ((tail.dropPrefix? token).bind fun behind => behind.dropPrefix? ['\x7d']) = some after ↔
      tail = token ++ ['\x7d'] ++ after := by
  simp only [Option.bind_eq_some_iff, List.dropPrefix?_eq_some_iff, beq_iff_eq]
  constructor
  · rintro ⟨behind, ⟨_, rfl, rfl⟩, _, rfl, rfl⟩
    rw [List.append_assoc]
  · rintro rfl
    exact ⟨['\x7d'] ++ after, ⟨token, by rw [List.append_assoc], rfl⟩, ['\x7d'], rfl, rfl⟩

theorem exists_of_holeAt?_eq_some {found : List Char}
    (h : holeAt? args tail = some (found, after)) :
    ∃ token, (token, found) ∈ args ∧ tail = token ++ ['\x7d'] ++ after := by
  obtain ⟨⟨token, _⟩, hmem, hmap⟩ := List.exists_of_findSome?_eq_some h
  obtain ⟨_, hdrop, heq⟩ := Option.map_eq_some_iff.mp hmap
  cases heq
  exact ⟨token, hmem, dropPrefix?_token_closing.mp hdrop⟩

theorem ne_append_of_holeAt?_eq_none (h : holeAt? args tail = none) {token found : List Char}
    (hmem : (token, found) ∈ args) (after : List Char) : tail ≠ token ++ ['\x7d'] ++ after := by
  intro htail
  have hnone := Option.map_eq_none_iff.mp (List.findSome?_eq_none_iff.mp h _ hmem)
  rw [dropPrefix?_token_closing.mpr htail] at hnone
  cases hnone

/-- The first occurrence of a character has none before it. -/
theorem not_mem_of_cut? {c : Char} {before : List Char}
    (h : Text.cut? [c] text = some (before, after)) : c ∉ before := by
  intro hmem
  obtain ⟨front, back, hbefore⟩ := List.append_of_mem hmem
  have htext : text = front ++ ([c] ++ (back ++ [c] ++ after)) := by
    rw [Text.eq_append_of_cut? h, hbefore]
    simp
  have hearlier := Text.length_le_of_cut? h htext
  rw [hbefore, List.length_append, List.length_cons] at hearlier
  omega

/-- A turn leaves less to be read. -/
theorem length_rest_of_turn (h : s.turn args = some next) :
    next.rest.length < s.rest.length := by
  obtain ⟨⟨before, tail⟩, hcut, hnext⟩ := Option.map_eq_some_iff.mp h
  have hrest : s.rest = before ++ ['\x7b'] ++ tail := Text.eq_append_of_cut? hcut
  have htail : next.rest.length ≤ tail.length := by
    subst hnext
    dsimp only
    split
    · next found after hhole =>
      obtain ⟨token, -, rfl⟩ := exists_of_holeAt?_eq_some hhole
      rw [List.length_append]
      exact Nat.le_add_left _ _
    · exact Nat.le_refl _
  rw [hrest, List.length_append, List.length_append, List.length_singleton]
  omega

/-- Turns as long as there are any; what is left is put out as it is. -/
def finish (args : List (List Char × List Char)) (s : Filler) : List Char :=
  match _hturn : s.turn args with
  | some next => next.finish args
  | none => s.output ++ s.rest
termination_by s.rest.length
decreasing_by exact length_rest_of_turn _hturn

/-! ## One turn -/

/-- The tokens of slots with their values. -/
def arguments (slots : List Slot) (value : Slot → List Char) : List (List Char × List Char) :=
  slots.map fun slot => (slot.token, value slot)

/-- Behind an opening brace the tokens are tried as the scan tries the slots. -/
theorem exists_slot_of_holeAt? {found : List Char}
    (h : holeAt? (arguments slots value) tail = some (found, after)) :
    ∃ slot ∈ slots, value slot = found ∧ '\x7b' :: tail = slot.marker ++ after := by
  obtain ⟨_, hmem, rfl⟩ := exists_of_holeAt?_eq_some h
  obtain ⟨slot, hslot, heq⟩ := List.mem_map.mp hmem
  cases heq
  exact ⟨slot, hslot, rfl, rfl⟩

theorem not_marker_of_holeAt? (h : holeAt? (arguments slots value) tail = none) :
    ∀ slot ∈ slots, ¬ slot.marker <+: '\x7b' :: tail := by
  rintro slot hslot ⟨after, hafter⟩
  exact ne_append_of_holeAt?_eq_none h (List.mem_map_of_mem hslot) after
    (List.cons_eq_cons.mp hafter).2.symm

/-- Text before the first brace is text in the pieces too. -/
theorem fill_pieces_append (h : '\x7b' ∉ text) (rest : List Char) :
    fill value (pieces slots (text ++ rest)) = text ++ fill value (pieces slots rest) := by
  induction text with
  | nil => rfl
  | cons c text ih =>
    obtain ⟨hc, htext⟩ := not_or.mp (List.mem_cons.not.mp h)
    have hfront : ∀ slot ∈ slots, ¬ slot.marker <+: c :: (text ++ rest) := fun _ _ hprefix =>
      hc (List.cons_prefix_cons.mp hprefix).1
    rw [List.cons_append, pieces_cons hfront, fill, List.flatMap_cons, ← fill, ih htext]
    rfl

/-- The output together with what the pieces of the rest give is not changed by a turn. -/
theorem fill_pieces_of_turn (h : s.turn (arguments slots value) = some next) :
    next.output ++ fill value (pieces slots next.rest) =
      s.output ++ fill value (pieces slots s.rest) := by
  obtain ⟨⟨before, tail⟩, hcut, hnext⟩ := Option.map_eq_some_iff.mp h
  have hrest : s.rest = before ++ '\x7b' :: tail := by
    rw [Text.eq_append_of_cut? hcut, List.append_assoc, List.singleton_append]
  rw [hrest, fill_pieces_append (not_mem_of_cut? hcut), ← hnext]
  dsimp only
  split
  · next found after hhole =>
    obtain ⟨slot, hslot, rfl, hmarker⟩ := exists_slot_of_holeAt? hhole
    rw [hmarker, pieces_marker_append hslot, fill, fill, List.flatMap_cons]
    simp only [List.append_assoc]
  · next hhole =>
    rw [pieces_cons (not_marker_of_holeAt? hhole), fill, fill, List.flatMap_cons]
    simp only [List.append_assoc]

/-- When there is no turn left the rest has no holes. -/
theorem fill_pieces_of_turn_eq_none (h : s.turn (arguments slots value) = none) :
    fill value (pieces slots s.rest) = s.rest := by
  have hbrace : '\x7b' ∉ s.rest := fun hmem =>
    Text.cut?_eq_none_iff.mp (Option.map_eq_none_iff.mp h)
      ((List.singleton_infix_iff _ _).mpr hmem)
  calc fill value (pieces slots s.rest)
      = fill value (pieces slots (s.rest ++ [])) := by rw [List.append_nil]
    _ = s.rest ++ fill value (pieces slots []) := fill_pieces_append hbrace []
    _ = s.rest := List.append_nil s.rest

/-! ## All turns -/

theorem finish_eq (slots : List Slot) (value : Slot → List Char) (s : Filler) :
    s.finish (arguments slots value) = s.output ++ fill value (pieces slots s.rest) := by
  fun_induction finish (arguments slots value) s with
  | case1 s next hturn ih => rw [ih, fill_pieces_of_turn hturn]
  | case2 s hturn => rw [fill_pieces_of_turn_eq_none hturn]

end Filler

/-- **A pattern may be filled while it is read.** Rendering it gives what is put out in the end when
the turns begin with the whole pattern and nothing put out. -/
theorem render_eq_finish (pattern : String) (f : Fragment) :
    (render pattern f).toList =
      Filler.finish (Filler.arguments f.kind.slots fun slot => (f.argument slot).toList)
        { output := [], rest := pattern.toList } := by
  rw [Filler.finish_eq, List.nil_append, render, String.toList_ofList]

end TableForge.Pattern
