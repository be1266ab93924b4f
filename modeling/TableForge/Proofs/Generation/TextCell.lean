import TableForge.Generation.Pass.TableClass
import TableForge.Proofs.Text.Literal

/-!
# Text cells among the arguments of a row

The cell of a field that is not numeric is an argument of its own: it is quoted, and its literal
stands between the arguments before and behind it. What a reader of literals makes of it depends on
the backslashes of the cell alone. Without any it gets the cell back and goes on with the next
argument; where they do not come in pairs before quotes and at the end, the literal ends too early or
runs on into the arguments behind it.
-/
namespace TableForge.TableClass

open Text (readLiteral PairedBackslashes)

/-- The arguments before another one, each with its separator. -/
def leading (fields : List Field) (row : Row) : String :=
  String.join ((arguments fields row).map (· ++ ", "))

/-- The arguments behind another one, each with its separator. -/
def following (fields : List Field) (row : Row) : String :=
  String.join ((arguments fields row).map (", " ++ ·))

theorem intercalate_cons (text : String) (texts : List String) :
    ", ".intercalate (text :: texts) = text ++ String.join (texts.map (", " ++ ·)) := by
  induction texts generalizing text with
  | nil => simp
  | cons next rest ih =>
    rw [String.intercalate_cons_cons, ih next, List.map_cons, String.join_cons, String.append_assoc,
      String.append_assoc]

/-- An argument stands between those before and those behind it. -/
theorem intercalate_arguments (before : List Field) (f : Field) (after : List Field) (row : Row) :
    ", ".intercalate (arguments (before ++ f :: after) row) =
      leading before row ++ (formatCell f (row.get f.name) ++ following after row) := by
  induction before with
  | nil =>
    rw [List.nil_append, arguments, List.map_cons, intercalate_cons]
    simp [leading, following, arguments]
  | cons g rest ih =>
    have hne : arguments (rest ++ f :: after) row ≠ [] := by simp [arguments]
    have hcons : arguments (g :: rest ++ f :: after) row =
        formatCell g (row.get g.name) :: arguments (rest ++ f :: after) row := rfl
    have hleading : leading (g :: rest) row =
        formatCell g (row.get g.name) ++ ", " ++ leading rest row := by
      simp [leading, arguments]
    rw [hcons, String.intercalate_cons_of_ne_nil hne, ih, hleading]
    simp only [String.append_assoc]

variable {f : Field}

theorem toList_formatCell (h : f.isNumeric = false) (cell rest : String) :
    (formatCell f cell ++ rest).toList = Text.quote cell.toList ++ rest.toList := by
  simp [formatCell, h]

theorem readLiteral_formatCell_iff (h : f.isNumeric = false) (cell rest : String) :
    readLiteral (formatCell f cell ++ rest).toList = some (cell.toList, rest.toList) ↔
      '\\' ∉ cell.toList := by
  rw [toList_formatCell h, Text.readLiteral_quote_eq_some_iff]

theorem readLiteral_formatCell_closes_iff (h : f.isNumeric = false) (cell rest : String) :
    (∃ content, readLiteral (formatCell f cell ++ rest).toList = some (content, rest.toList)) ↔
      PairedBackslashes cell.toList := by
  rw [toList_formatCell h, Text.readLiteral_quote_closes_iff]

/-- **Text cells without backslashes are read back.** The literal that a cell of a field that is not
numeric is written as is read back as the cell, with nothing left, exactly if the cell has no
backslash, and its last character is the quote that closes it exactly if backslashes come in pairs
before quotes and at the end of the cell. Among the arguments of a row it stands between those of the
fields before and behind it, and under the same conditions a reader that has come to it gets the cell,
or at least the end of the literal, and has all the following arguments left. -/
theorem text_cell_reads_back_iff (h : f.isNumeric = false) (cell : String) :
    (readLiteral (formatCell f cell).toList = some (cell.toList, []) ↔ '\\' ∉ cell.toList) ∧
    ((∃ content, readLiteral (formatCell f cell).toList = some (content, [])) ↔
      PairedBackslashes cell.toList) ∧
    ∀ (before after : List Field) (row : Row), row.get f.name = cell →
      ", ".intercalate (arguments (before ++ f :: after) row) =
        leading before row ++ (formatCell f cell ++ following after row) ∧
      (readLiteral (formatCell f cell ++ following after row).toList =
        some (cell.toList, (following after row).toList) ↔ '\\' ∉ cell.toList) ∧
      ((∃ content, readLiteral (formatCell f cell ++ following after row).toList =
        some (content, (following after row).toList)) ↔ PairedBackslashes cell.toList) := by
  refine ⟨?_, ?_, ?_⟩
  · simpa using readLiteral_formatCell_iff h cell ""
  · simpa using readLiteral_formatCell_closes_iff h cell ""
  · rintro before after row rfl
    exact ⟨intercalate_arguments before f after row, readLiteral_formatCell_iff h _ _,
      readLiteral_formatCell_closes_iff h _ _⟩

def labelField : Field := ⟨"label", "string", none⟩

def noteField : Field := ⟨"note", "string", none⟩

/-- A label with quotes before a note. -/
def saidRow : Row := .ofList [("label", "say \"hi\""), ("note", "x")]

theorem text_cell_reads_back_iff_said :
    labelField.isNumeric = false ∧
    ", ".intercalate (arguments [labelField, noteField] saidRow) =
      formatCell labelField "say \"hi\"" ++ ", \"x\"" ∧
    readLiteral (formatCell labelField "say \"hi\"" ++ ", \"x\"").toList =
      some ("say \"hi\"".toList, ", \"x\"".toList) := by
  have hnumeric : labelField.isNumeric = false := by decide
  obtain ⟨-, -, hamong⟩ := text_cell_reads_back_iff hnumeric "say \"hi\""
  obtain ⟨hlist, hread, -⟩ := hamong [] [noteField] saidRow (by decide +kernel)
  have hleading : leading [] saidRow = "" := by decide +kernel
  have hfollowing : following [noteField] saidRow = ", \"x\"" := by decide +kernel
  rw [hleading, hfollowing, String.empty_append] at hlist
  rw [hfollowing] at hread
  exact ⟨hnumeric, hlist, hread.mpr (by decide)⟩

/-- A backslash and a quote in one cell, and a backslash at the end of another. -/
def brokenRow : Row := .ofList [("label", "\\\""), ("note", "\\")]

/-- The quote of the first cell ends its literal, which leaves the closing quote behind; the literal of
the second cell is not closed at all when it stands last, and runs on into a following argument. -/
theorem text_cells_break_out :
    arguments [labelField, noteField] brokenRow = ["\"\\\\\"\"", "\"\\\""] ∧
    readLiteral (formatCell labelField "\\\"").toList = some (['\\'], ['"']) ∧
    readLiteral (formatCell noteField "\\").toList = none ∧
    readLiteral (", ".intercalate (arguments [noteField, labelField] brokenRow)).toList =
      some ("\", ".toList, "\\\\\"\"".toList) ∧
    ¬ ∀ (f : Field) (cell : String), f.isNumeric = false →
      readLiteral (formatCell f cell).toList = some (cell.toList, []) := by
  refine ⟨by decide +kernel, by decide +kernel, by decide +kernel, by decide +kernel, ?_⟩
  intro hall
  have hread := hall labelField "\\\"" (by decide)
  revert hread
  decide +kernel

end TableForge.TableClass
