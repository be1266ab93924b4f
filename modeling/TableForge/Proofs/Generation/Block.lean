import TableForge.Generation.Pass

/-!
# What a block writes

A block is a comment with one line per fragment below it. It is put into a template without the line
breaks at its end, so a fragment that is rendered to nothing leaves an empty line between two others
and none behind the last.
-/
namespace TableForge

namespace Body

/-- `cut` is what is left of `text` without the line breaks at its end. -/
structure CutTo (text cut : String) : Prop where
  eq_append : ∃ ends : String, text = cut ++ ends ∧ ∀ c ∈ ends.toList, c = '\n' ∨ c = '\r'
  last : ∀ c, cut.toList.getLast? = some c → c ≠ '\n' ∧ c ≠ '\r'

theorem cutTo_trimLineEnds (text : String) : CutTo text (trimLineEnds text) := by
  obtain ⟨ends, hends, hdropped⟩ :=
    Text.exists_eq_trimRight_append (fun c => c = '\n' || c = '\r') text.toList
  refine ⟨⟨String.ofList ends, ?_, fun c hc => ?_⟩, fun c hc => ?_⟩
  · rw [← String.toList_inj, String.toList_append, trimLineEnds, String.toList_ofList,
      String.toList_ofList]
    exact hends
  · simpa using hdropped c (by simpa using hc)
  · rw [trimLineEnds, String.toList_ofList] at hc
    simpa using Text.drop_eq_false_of_getLast?_trimRight hc

theorem CutTo.trimLineEnds_eq {text cut : String} (h : CutTo text cut) :
    trimLineEnds text = cut := by
  obtain ⟨ends, rfl, hends⟩ := h.eq_append
  rw [trimLineEnds, String.toList_append, Text.trimLineEnds, Text.trimRight_append,
    String.ofList_toList]
  · simpa using hends
  · simpa using h.last

theorem trimLineEnds_eq_iff {text cut : String} : trimLineEnds text = cut ↔ CutTo text cut :=
  ⟨fun h => h ▸ cutTo_trimLineEnds text, CutTo.trimLineEnds_eq⟩

/-- A line break at the end makes no difference. -/
theorem trimLineEnds_append_lineBreak (text : String) :
    trimLineEnds (text ++ "\n") = trimLineEnds text := by
  obtain ⟨⟨ends, hends, hdropped⟩, hlast⟩ := cutTo_trimLineEnds text
  refine trimLineEnds_eq_iff.mpr ⟨⟨ends ++ "\n", ?_, fun c hc => ?_⟩, hlast⟩
  · rw [← String.append_assoc, ← hends]
  · rw [String.toList_append, List.mem_append] at hc
    rcases hc with hc | hc
    · exact hdropped c hc
    · exact .inl (by simpa using hc)

end Body

/-- Lines that end in line breaks are lines between line breaks and one break more. -/
theorem joinLines_cons (line : String) (lines : List String) :
    joinLines (line :: lines) = "\n".intercalate (line :: lines) ++ "\n" := by
  induction lines generalizing line with
  | nil => simp [joinLines]
  | cons next rest ih =>
    have hcons : joinLines (line :: next :: rest) = line ++ "\n" ++ joinLines (next :: rest) := by
      rw [joinLines, List.map_cons, String.join_cons]
      rfl
    rw [hcons, ih, String.intercalate_cons_cons, ← String.append_assoc]

namespace Context

/-- `text` is the comment and below it, in order, a line for every fragment, without the line breaks
at the end. -/
def WritesBlock (ctx : Context) (comment : String) (fragments : List Fragment) (text : String) :
    Prop :=
  Body.CutTo ("\n".intercalate (comment :: fragments.map ctx.renderer.render)) text

theorem block_eq_iff {ctx : Context} {comment text : String} {fragments : List Fragment} :
    ctx.block comment fragments = text ↔ ctx.WritesBlock comment fragments text := by
  rw [block, TableForge.block, joinLines_cons, Body.trimLineEnds_append_lineBreak,
    Body.trimLineEnds_eq_iff, WritesBlock]

theorem writesBlock_block (ctx : Context) (comment : String) (fragments : List Fragment) :
    ctx.WritesBlock comment fragments (ctx.block comment fragments) :=
  block_eq_iff.mp rfl

end Context

end TableForge
