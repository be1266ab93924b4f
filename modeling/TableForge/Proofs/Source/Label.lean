import Mathlib.Order.Bounds.Basic
import TableForge.Dataset.Validation
import TableForge.Template.Manifest

/-!
# Labels show quoted names

A label is a span of a source in bytes, and it is put where a name first stands between double
quotes. That a span can be taken apart from the source without cutting a character in two is not in
its numbers. It holds because a quoted name begins with a character: the first byte of a character
is never one from the middle of another, so where the bytes of a text stand, its characters stand.

The second label of a repeated name is looked for from the closing quote of the first one on, which
may open the second place.
-/
namespace TableForge

/-! ## Parts of a text in bytes -/

/-- Whether the bytes of a part stand in a text from an offset on. -/
def BytesAt (text part : String) (pos : Nat) : Prop :=
  text.toByteArray.extract pos (pos + part.utf8ByteSize) = part.toByteArray

variable {text part name : String} {pos : Nat}

theorem bytesAt_append_iff (seen rest : String) :
    BytesAt (seen ++ rest) part (seen.utf8ByteSize + pos) ↔ BytesAt rest part pos := by
  rw [BytesAt, BytesAt, String.toByteArray_append, ← seen.size_toByteArray, Nat.add_assoc,
    ByteArray.extract_append_size_add]

theorem bytesAt_append (before part after : String) :
    BytesAt (before ++ (part ++ after)) part before.utf8ByteSize := by
  have h : BytesAt (part ++ after) part 0 := by
    rw [BytesAt, Nat.zero_add, String.toByteArray_append]
    exact ByteArray.extract_append_eq_left String.size_toByteArray.symm
  have hshifted := (bytesAt_append_iff before (part ++ after)).mpr h
  rwa [Nat.add_zero] at hshifted

/-- A part begins between two characters. -/
theorem BytesAt.isValid (h : BytesAt text part pos) (hpart : part ≠ "") :
    (⟨pos⟩ : String.Pos.Raw).IsValid text := by
  have hsize : 0 < part.utf8ByteSize :=
    Nat.pos_of_ne_zero fun hzero => hpart (String.utf8ByteSize_eq_zero_iff.mp hzero)
  have hbytes : 0 < (text.toByteArray.extract pos (pos + part.utf8ByteSize)).size := by
    rw [h]
    simpa using hsize
  have hpos : pos < text.toByteArray.size := by
    rw [ByteArray.size_extract] at hbytes
    omega
  have hnonempty : 0 < part.toByteArray.size := by rwa [String.size_toByteArray]
  have hbyte : text.toByteArray[pos] = part.toByteArray[0] := by
    have hget := ByteArray.getElem_extract hbytes
    simp only [Nat.add_zero] at hget
    rw [← hget]
    congr 1
  have hstart := (String.Pos.Raw.isValid_iff_isUTF8FirstByte (s := part)).mp
    String.Pos.Raw.isValid_zero
  rcases hstart with hend | ⟨_, hfirst⟩
  · have hzero : 0 = part.utf8ByteSize := congrArg String.Pos.Raw.byteIdx hend
    omega
  · refine String.Pos.Raw.isValid_iff_isUTF8FirstByte.mpr (Or.inr ⟨?_, ?_⟩)
    · simpa [String.Pos.Raw.lt_iff] using hpos
    · rw [String.getUTF8Byte, hbyte]
      exact hfirst

/-- Where the bytes of a part stand, its characters stand. -/
theorem bytesAt_iff (hpart : part ≠ "") :
    BytesAt text part pos ↔
      ∃ before after : String, text = before ++ (part ++ after) ∧ before.utf8ByteSize = pos := by
  constructor
  · intro h
    obtain ⟨before, rest, rfl, hpos⟩ :=
      String.Pos.Raw.isValid_iff_exists_append.mp (h.isValid hpart)
    obtain rfl : pos = before.utf8ByteSize := congrArg String.Pos.Raw.byteIdx hpos
    have hbytes : BytesAt rest part 0 := (bytesAt_append_iff before rest).mp h
    rw [BytesAt, Nat.zero_add] at hbytes
    have hsize : part.utf8ByteSize ≤ rest.toByteArray.size := by
      have hle := congrArg ByteArray.size hbytes
      simp only [ByteArray.size_extract, String.size_toByteArray] at hle ⊢
      omega
    have hencode : part.toList.utf8Encode ++
        rest.toByteArray.extract part.utf8ByteSize rest.toByteArray.size =
          rest.toList.utf8Encode := by
      rw [String.utf8Encode_toList, String.utf8Encode_toList, ← hbytes,
        ← ByteArray.extract_eq_extract_append_extract _ (Nat.zero_le _) hsize,
        ByteArray.extract_zero_size]
    obtain ⟨after, hafter⟩ := List.isPrefix_of_utf8Encode_append_eq_utf8Encode _ hencode
    refine ⟨before, String.ofList after, ?_, rfl⟩
    apply String.toList_inj.mp
    simp [← hafter]
  · rintro ⟨before, after, rfl, rfl⟩
    exact bytesAt_append before part after

/-! ## Searching -/

theorem byteCount_eq (cs : List Char) : byteCount cs = (String.ofList cs).utf8ByteSize := by
  induction cs with
  | nil => simp [byteCount]
  | cons c rest ih =>
    rw [byteCount, ih, String.ofList_cons, String.utf8ByteSize_append,
      String.utf8ByteSize_singleton]

/-- The search finds the least offset at which a part stands. -/
theorem isLeast_of_cut? {before after : List Char} (hpart : part ≠ "")
    (h : Text.cut? part.toList text.toList = some (before, after)) :
    IsLeast {pos | BytesAt text part pos} (byteCount before) := by
  have htext : text = String.ofList before ++ (part ++ String.ofList after) := by
    apply String.toList_inj.mp
    simpa using Text.eq_append_of_cut? h
  rw [byteCount_eq]
  constructor
  · exact (bytesAt_iff hpart).mpr ⟨_, _, htext, rfl⟩
  · intro pos hpos
    obtain ⟨before', after', htext', rfl⟩ := (bytesAt_iff hpart).mp hpos
    have hother : text.toList = before'.toList ++ (part.toList ++ after'.toList) := by
      simp [htext']
    have hlength : before.length ≤ before'.toList.length := Text.length_le_of_cut? h hother
    have hfound : before <+: text.toList := ⟨part.toList ++ after, by simp [htext]⟩
    have hearlier : before'.toList <+: text.toList := ⟨_, hother.symm⟩
    obtain ⟨more, hmore⟩ := List.prefix_of_prefix_length_le hfound hearlier hlength
    have hsplit : before' = String.ofList before ++ String.ofList more := by
      apply String.toList_inj.mp
      simp [hmore]
    rw [hsplit, String.utf8ByteSize_append]
    exact Nat.le_add_right _ _

theorem isSome_cut?_iff (hpart : part ≠ "") :
    (Text.cut? part.toList text.toList).isSome ↔ ∃ pos, BytesAt text part pos := by
  constructor
  · intro h
    obtain ⟨⟨before, after⟩, hfound⟩ := Option.isSome_iff_exists.mp h
    exact ⟨_, (isLeast_of_cut? hpart hfound).1⟩
  · rintro ⟨pos, hpos⟩
    obtain ⟨before, after, rfl, -⟩ := (bytesAt_iff hpart).mp hpos
    rw [← Option.ne_none_iff_isSome, Ne, Text.cut?_eq_none_iff, not_not]
    exact ⟨before.toList, after.toList, by simp⟩

/-! ## Labels -/

/-- A name between double quotes. -/
def quoted (name : String) : String := "\"" ++ (name ++ "\"")

theorem quoted_ne_empty (name : String) : quoted name ≠ "" := by
  intro h
  simpa [quoted] using congrArg String.toList h

/-- Where a span ends. -/
def Span.stop (span : Span) : Nat := span.offset + span.length

/-- A span shows a name in a text: it begins and ends between characters of the text, the bytes in
it are those of the name, and a double quote stands directly before and directly behind it. -/
structure Span.Shows (span : Span) (text name : String) : Prop where
  begins : (⟨span.offset⟩ : String.Pos.Raw).IsValid text
  ends : (⟨span.stop⟩ : String.Pos.Raw).IsValid text
  bytes_eq : text.toByteArray.extract span.offset span.stop = name.toByteArray
  opened : 0 < span.offset ∧ BytesAt text "\"" (span.offset - 1)
  closed : BytesAt text "\"" span.stop

/-- A span of the length of a name behind an opening quote shows the name. -/
theorem shows_of_bytesAt {span : Span} (h : BytesAt text (quoted name) pos)
    (hoffset : span.offset = pos + 1) (hlength : span.length = name.utf8ByteSize) :
    span.Shows text name := by
  obtain ⟨before, after, rfl, rfl⟩ := (bytesAt_iff (quoted_ne_empty name)).mp h
  have hquote : ("\"" : String).utf8ByteSize = 1 := rfl
  -- the text is cut at the offset of the span, and once more at its end
  have hbehind : before ++ (quoted name ++ after) =
      (before ++ "\"") ++ (name ++ ("\"" ++ after)) := by
    simp only [quoted, String.append_assoc]
  have hstart : span.offset = (before ++ "\"").utf8ByteSize := by
    rw [hoffset, String.utf8ByteSize_append, hquote]
  have hstop : span.stop = (before ++ "\"" ++ name).utf8ByteSize := by
    rw [Span.stop, hstart, hlength, ← String.utf8ByteSize_append]
  have hcut : before ++ (quoted name ++ after) =
      (before ++ "\"" ++ name) ++ ("\"" ++ after) := by
    rw [hbehind, ← String.append_assoc]
  refine ⟨?_, ?_, ?_, ⟨?_, ?_⟩, ?_⟩
  · exact String.Pos.Raw.isValid_iff_exists_append.mpr ⟨_, _, hbehind, by rw [hstart]; rfl⟩
  · exact String.Pos.Raw.isValid_iff_exists_append.mpr ⟨_, _, hcut, by rw [hstop]; rfl⟩
  · have hbytes := bytesAt_append (before ++ "\"") name ("\"" ++ after)
    rwa [← hbehind, ← hstart, BytesAt, ← hlength] at hbytes
  · exact hoffset ▸ Nat.succ_pos _
  · have hopening := bytesAt_append before "\"" (name ++ ("\"" ++ after))
    rw [← String.append_assoc, ← hbehind] at hopening
    rwa [hoffset, Nat.add_sub_cancel]
  · rw [hcut, hstop]
    exact bytesAt_append _ _ _

/-- The first span behind an offset that shows a name: its opening quote is the first one at or
behind the offset that the name and a closing quote follow. -/
structure FirstQuoted (text name : String) (start : Nat) (span : Span) : Prop where
  shows : span.Shows text name
  first : IsLeast {pos | start ≤ pos ∧ BytesAt text (quoted name) pos} (span.offset - 1)

theorem FirstQuoted.lt_offset {start : Nat} {span : Span} (h : FirstQuoted text name start span) :
    start < span.offset := by
  have hle : start ≤ span.offset - 1 := h.first.1.1
  have hpos := h.shows.opened.1
  omega

namespace Source

/-- A span seen from an earlier start. -/
def shift (offset : Nat) (span : Span) : Span := { span with offset := offset + span.offset }

theorem quotedFrom_eq (offset : Nat) (name text : List Char) :
    (quotedFrom offset name text).map (·.1) =
      ((quotedFrom 0 name text).map (·.1)).map (shift offset) := by
  simp only [quotedFrom, Option.map_map]
  congr 1
  funext found
  simp only [Function.comp_apply, shift, Nat.zero_add, Nat.add_assoc]

theorem toList_quoted (name : String) : (quoted name).toList = '"' :: name.toList ++ ['"'] := by
  simp [quoted]

theorem isSome_quotedFrom_iff {offset : Nat} :
    (quotedFrom offset name.toList text.toList).isSome ↔
      ∃ pos, BytesAt text (quoted name) pos := by
  rw [quotedFrom, Option.isSome_map, ← toList_quoted, isSome_cut?_iff (quoted_ne_empty name)]

/-- Searching behind a part of a text finds the first place that is not in this part, and the text
can be cut where the place ends. -/
theorem firstQuoted_of_quotedFrom (seen : String) {rest : String} {span : Span}
    {remaining : List Char}
    (h : quotedFrom seen.utf8ByteSize name.toList rest.toList = some (span, remaining)) :
    FirstQuoted (seen ++ rest) name seen.utf8ByteSize span ∧
      ∃ passed, seen ++ rest = passed ++ String.ofList remaining ∧
        passed.utf8ByteSize = span.stop := by
  obtain ⟨⟨before, after⟩, hcut, he⟩ := Option.map_eq_some_iff.mp h
  cases he
  rw [← toList_quoted] at hcut
  have hleast := isLeast_of_cut? (quoted_ne_empty name) hcut
  have hat : BytesAt (seen ++ rest) (quoted name) (seen.utf8ByteSize + byteCount before) :=
    (bytesAt_append_iff seen rest).mpr hleast.1
  have hname : byteCount name.toList = name.utf8ByteSize := by
    rw [byteCount_eq, String.ofList_toList]
  refine ⟨⟨shows_of_bytesAt hat rfl hname, ⟨Nat.le_add_right _ _, hat⟩, ?_⟩, ?_⟩
  · rintro pos ⟨hle, hpos⟩
    obtain ⟨behind, rfl⟩ := Nat.exists_eq_add_of_le hle
    exact Nat.add_le_add_left (hleast.2 ((bytesAt_append_iff seen rest).mp hpos)) _
  · refine ⟨seen ++ (String.ofList before ++ ("\"" ++ name)), ?_, ?_⟩
    · have hrest := Text.eq_append_of_cut? hcut
      apply String.toList_inj.mp
      simp [hrest, quoted]
    · have hquote : ("\"" : String).utf8ByteSize = 1 := rfl
      simp only [String.utf8ByteSize_append, hquote, ← byteCount_eq, Span.stop, hname]
      omega

theorem firstQuoted_of_findQuoted {s : Source} {span : Span} (h : s.findQuoted name = some span) :
    FirstQuoted s.text name 0 span := by
  obtain ⟨⟨span, remaining⟩, hfound, rfl⟩ := Option.map_eq_some_iff.mp h
  have hempty : ("" : String).utf8ByteSize = 0 := rfl
  have hfirst := (firstQuoted_of_quotedFrom "" hfound).1
  rwa [String.empty_append] at hfirst

/-- The second search looks through what is left of the source from the closing quote of the first
place on. -/
theorem findQuotedTwice_eq {s : Source} {first : Span} (h : s.findQuoted name = some first) :
    ∃ seen rest, s.text = seen ++ rest ∧ seen.utf8ByteSize = first.stop ∧
      s.findQuotedTwice name =
        (some first, (quotedFrom first.stop name.toList rest.toList).map (·.1)) := by
  obtain ⟨⟨span, remaining⟩, hfound, rfl⟩ := Option.map_eq_some_iff.mp h
  obtain ⟨-, passed, htext, hstop⟩ := firstQuoted_of_quotedFrom "" hfound
  rw [String.empty_append] at htext
  refine ⟨passed, String.ofList remaining, htext, hstop, ?_⟩
  rw [findQuotedTwice, hfound, String.toList_ofList]
  rfl

theorem fst_findQuotedTwice (s : Source) (name : String) :
    (s.findQuotedTwice name).1 = s.findQuoted name := by
  cases h : s.findQuoted name with
  | none => rw [findQuotedTwice, Option.map_eq_none_iff.mp h]
  | some first =>
    obtain ⟨seen, rest, -, -, htwice⟩ := findQuotedTwice_eq h
    rw [htwice]

theorem isSome_snd_findQuotedTwice_iff {s : Source} {first : Span}
    (h : s.findQuoted name = some first) :
    (s.findQuotedTwice name).2.isSome ↔
      ∃ pos, first.stop ≤ pos ∧ BytesAt s.text (quoted name) pos := by
  obtain ⟨seen, rest, htext, hseen, htwice⟩ := findQuotedTwice_eq h
  rw [htwice, Option.isSome_map, isSome_quotedFrom_iff, htext, ← hseen]
  constructor
  · rintro ⟨pos, hpos⟩
    exact ⟨_, Nat.le_add_right _ _, (bytesAt_append_iff seen rest).mpr hpos⟩
  · rintro ⟨pos, hle, hpos⟩
    obtain ⟨behind, rfl⟩ := Nat.exists_eq_add_of_le hle
    exact ⟨behind, (bytesAt_append_iff seen rest).mp hpos⟩

theorem firstQuoted_of_snd_findQuotedTwice {s : Source} {second : Span}
    (h : (s.findQuotedTwice name).2 = some second) :
    ∃ first, s.findQuoted name = some first ∧ FirstQuoted s.text name first.stop second := by
  cases hfirst : s.findQuoted name with
  | none => simp [findQuotedTwice, Option.map_eq_none_iff.mp hfirst] at h
  | some first =>
    obtain ⟨seen, rest, htext, hseen, htwice⟩ := findQuotedTwice_eq hfirst
    rw [htwice] at h
    obtain ⟨⟨span, remaining⟩, hfound, rfl⟩ := Option.map_eq_some_iff.mp h
    rw [← hseen] at hfound
    refine ⟨first, rfl, ?_⟩
    rw [htext, ← hseen]
    exact (firstQuoted_of_quotedFrom _ hfound).1

end Source

/-- **Labels show quoted names.** A name is found exactly if it stands between double quotes
somewhere in the source, and what is found is the first such place. The second place is looked for
in what is left of the source from the end of the first on, where the source can be cut; it is there
exactly if the first is and the name stands between quotes at or behind the closing quote of the
first, it is the first such place, and it begins behind the end of the first. -/
theorem labels_show_quoted_names (s : Source) (name : String) :
    ((s.findQuoted name).isSome ↔
      ∃ before after : String, s.text = before ++ ("\"" ++ name ++ "\"") ++ after) ∧
    (∀ span, s.findQuoted name = some span → FirstQuoted s.text name 0 span) ∧
    (s.findQuotedTwice name).1 = s.findQuoted name ∧
    ((s.findQuotedTwice name).2.isSome ↔ ∃ first, s.findQuoted name = some first ∧
      ∃ pos, first.stop ≤ pos ∧ BytesAt s.text (quoted name) pos) ∧
    ∀ first, s.findQuoted name = some first →
      (∃ seen rest : String, s.text = seen ++ rest ∧ seen.utf8ByteSize = first.stop ∧
        (s.findQuotedTwice name).2 =
          ((Source.mk rest s.fileName).findQuoted name).map (Source.shift first.stop)) ∧
      ∀ second, (s.findQuotedTwice name).2 = some second →
        FirstQuoted s.text name first.stop second ∧ first.stop < second.offset := by
  refine ⟨?_, fun span h => Source.firstQuoted_of_findQuoted h, s.fst_findQuotedTwice name, ?_, ?_⟩
  · rw [Source.findQuoted, Option.isSome_map, Source.isSome_quotedFrom_iff]
    constructor
    · rintro ⟨pos, hpos⟩
      obtain ⟨before, after, htext, -⟩ := (bytesAt_iff (quoted_ne_empty name)).mp hpos
      exact ⟨before, after, by rw [htext, quoted]; simp only [String.append_assoc]⟩
    · rintro ⟨before, after, htext⟩
      refine ⟨_, (bytesAt_iff (quoted_ne_empty name)).mpr ⟨before, after, ?_, rfl⟩⟩
      rw [htext, quoted]
      simp only [String.append_assoc]
  · constructor
    · intro h
      obtain ⟨second, hsecond⟩ := Option.isSome_iff_exists.mp h
      obtain ⟨first, hfirst, -⟩ := Source.firstQuoted_of_snd_findQuotedTwice hsecond
      exact ⟨first, hfirst, (Source.isSome_snd_findQuotedTwice_iff hfirst).mp h⟩
    · rintro ⟨first, hfirst, hpos⟩
      exact (Source.isSome_snd_findQuotedTwice_iff hfirst).mpr hpos
  · intro first h
    obtain ⟨seen, rest, htext, hseen, htwice⟩ := Source.findQuotedTwice_eq h
    refine ⟨⟨seen, rest, htext, hseen, ?_⟩, ?_⟩
    · rw [htwice]
      exact Source.quotedFrom_eq first.stop name.toList rest.toList
    · intro second hsecond
      obtain ⟨found, hfound, hquoted⟩ := Source.firstQuoted_of_snd_findQuotedTwice hsecond
      obtain rfl : found = first := Option.some.inj (hfound.symm.trans h)
      exact ⟨hquoted, hquoted.lt_offset⟩

/-- Places of `é"é` that overlap. -/
def overlappingSource : Source where
  text := "x\"é\"é\"é\"é\""
  fileName := "data.toml"

/-- The place at offset 4 begins inside the first one and is passed over; the one at offset 7 begins
with the closing quote of the first. -/
theorem labels_show_quoted_names_overlapping :
    overlappingSource.findQuotedTwice "é\"é" = (some ⟨2, 5⟩, some ⟨8, 5⟩) ∧
      FirstQuoted overlappingSource.text "é\"é" 0 ⟨2, 5⟩ ∧
      FirstQuoted overlappingSource.text "é\"é" 7 ⟨8, 5⟩ := by
  have htwice : overlappingSource.findQuotedTwice "é\"é" = (some ⟨2, 5⟩, some ⟨8, 5⟩) := by
    decide +kernel
  obtain ⟨-, hfound, hfst, -, hbehind⟩ := labels_show_quoted_names overlappingSource "é\"é"
  have hfirst : overlappingSource.findQuoted "é\"é" = some ⟨2, 5⟩ := by rw [← hfst, htwice]
  have hsecond : (overlappingSource.findQuotedTwice "é\"é").2 = some ⟨8, 5⟩ := by rw [htwice]
  exact ⟨htwice, hfound _ hfirst, ((hbehind _ hfirst).2 _ hsecond).1⟩

/-! ## Refused documents -/

/-- An error whose labels lie in a source, each of them on a quoted name. -/
def LoadError.Labelled (source : Source) (error : LoadError) : Prop :=
  ∀ label ∈ error.labels, ∃ name, label.span.Shows source.text name

namespace LoadError

variable {source : Source}

theorem shows_of_mem_map {text : String} {span : Option Span} {label : Label} {name : String}
    (hspan : ∀ found, span = some found → found.Shows source.text name)
    (h : label ∈ (span.map (Label.mk text)).toList) : label.span.Shows source.text name := by
  obtain ⟨found, hfound, rfl⟩ := Option.map_eq_some_iff.mp (Option.mem_toList.mp h)
  exact hspan found hfound

theorem labelled_of_violation (v : Violation) : Labelled source (source.violation v) := by
  intro label hlabel
  exact ⟨v.needle, shows_of_mem_map (fun _ h => (Source.firstQuoted_of_findQuoted h).shows) hlabel⟩

theorem labelled_of_duplicate (name : String) :
    Labelled source
      (.duplicateTable name (source.findQuotedTwice name).1 (source.findQuotedTwice name).2) := by
  intro label hlabel
  refine ⟨name, ?_⟩
  rcases List.mem_append.mp hlabel with h | h
  · refine shows_of_mem_map (fun found hfound => ?_) h
    rw [Source.fst_findQuotedTwice] at hfound
    exact (Source.firstQuoted_of_findQuoted hfound).shows
  · refine shows_of_mem_map (fun found hfound => ?_) h
    obtain ⟨_, -, hquoted⟩ := Source.firstQuoted_of_snd_findQuotedTwice hfound
    exact hquoted.shows

theorem labelled_of_fieldFault {names : List String} {table : String} {f : Field}
    {error : LoadError} (h : Dataset.fieldFault? source names table f = some error) :
    Labelled source error := by
  unfold Dataset.fieldFault? at h
  split at h
  · cases h
    exact labelled_of_violation _
  · next target _ _ =>
    split at h
    · cases h
    · cases h
      intro label hlabel
      exact ⟨target,
        shows_of_mem_map (fun _ hfound => (Source.firstQuoted_of_findQuoted hfound).shows) hlabel⟩
  · cases h
    exact labelled_of_violation _
  · cases h

theorem labelled_malformed : Labelled source (.malformed source.fileName) := by
  intro label hlabel
  cases hlabel

end LoadError

/-- Every label of a refused data file shows a quoted name in it. -/
theorem Dataset.labelled_of_ofSource {source : Source} {error : LoadError}
    (h : ofSource source = .error error) : error.Labelled source := by
  unfold ofSource at h
  split at h
  · cases h
    exact LoadError.labelled_malformed
  · next draft _ =>
    unfold ofDraft at h
    split at h
    · cases h
      exact LoadError.labelled_of_violation _
    · split at h
      · next error' hfault =>
        cases h
        unfold fault? at hfault
        split at hfault
        · cases hfault
          exact LoadError.labelled_of_duplicate _
        · obtain ⟨table, -, htable⟩ := List.exists_of_findSome?_eq_some hfault
          obtain ⟨f, -, hf⟩ := List.exists_of_findSome?_eq_some htable
          exact LoadError.labelled_of_fieldFault hf
      · cases h

/-- Every label of a refused manifest shows a quoted text in it. -/
theorem Manifest.labelled_of_ofSource {source : Source} {error : LoadError}
    (h : ofSource source = .error error) : error.Labelled source := by
  unfold ofSource at h
  split at h
  · cases h
    exact LoadError.labelled_malformed
  · split at h
    · cases h
      exact LoadError.labelled_of_violation _
    · cases h

end TableForge
