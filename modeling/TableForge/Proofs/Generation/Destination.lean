import TableForge.Generation.Generator
import TableForge.Proofs.Path.Parent
import TableForge.Proofs.Template.Loading
import TableForge.Proofs.Text.PascalCase

/-!
# Where files go

A file that is named after a class stands in the folder of its template, and its name is the class
name with the extension of the template; any other file has the name of its template. So where the
names of all templates are plain, the paths of all files are.
-/
namespace TableForge

namespace Text

theorem mem_of_mem_splitFrom {separator text part : List Char} {skip : Nat} {c : Char}
    (hpart : part ∈ splitFrom separator skip text) (hc : c ∈ part) : c ∈ text := by
  induction text generalizing skip part with
  | nil =>
    rw [splitFrom, List.mem_singleton] at hpart
    rw [hpart] at hc
    cases hc
  | cons d rest ih =>
    cases skip with
    | succ skip => exact List.mem_cons_of_mem _ (ih hpart hc)
    | zero =>
      rw [splitFrom] at hpart
      split at hpart
      · rcases List.mem_cons.mp hpart with rfl | hpart
        · cases hc
        · exact List.mem_cons_of_mem _ (ih hpart hc)
      · cases hs : splitFrom separator 0 rest with
        | nil => exact absurd hs (splitFrom_ne_nil separator 0 rest)
        | cons first parts =>
          have hparts : ∀ p ∈ first :: parts, c ∈ p → c ∈ rest := fun p hp => ih (hs ▸ hp)
          rw [hs] at hpart
          rcases List.mem_cons.mp hpart with rfl | hpart
          · rcases List.mem_cons.mp hc with rfl | hc
            · exact List.mem_cons_self
            · exact List.mem_cons_of_mem _ (hparts first List.mem_cons_self hc)
          · exact List.mem_cons_of_mem _ (hparts part (List.mem_cons_of_mem _ hpart) hc)

end Text

namespace Path

/-- A text without slashes that is more than dots is one name. -/
theorem downward_of_name {name : String} (hslash : '/' ∉ name.toList)
    (hletter : ∃ c ∈ name.toList, c ≠ '.') :
    (Path.mk name).Downward ∧ (Path.mk name).names = [name] := by
  obtain ⟨c, hc, hdot⟩ := hletter
  have hsegments := segments_of_no_slash hslash
  have hempty : name ≠ "" := by
    rintro rfl
    cases hc
  have hone : name ≠ "." := by
    rintro rfl
    exact hdot (by simpa using hc)
  have htwo : name ≠ ".." := by
    rintro rfl
    exact hdot (by simpa using hc)
  constructor
  · rw [downward_iff, hsegments]
    exact ⟨isAbsolute_of_no_slash hslash, by simpa using hone, by simpa using Ne.symm htwo⟩
  · simp [names, hsegments, counted, skipped, hempty, hone]

theorem mem_segments_of_mem_components {p : Path} {name : String}
    (h : .normal name ∈ p.components) : name ∈ p.segments := by
  rw [components_eq] at h
  rcases List.mem_append.mp h with h | h
  · rcases p.anchored_cases with hs | hs | hs <;> simp [hs] at h
  · obtain ⟨segment, hmem, hs⟩ := List.mem_filterMap.mp h
    unfold Component.ofSegment? at hs
    split at hs
    · cases hs
    · split at hs
      · cases hs
      · cases hs
        exact hmem

/-- An extension is a part of the last name of a path. -/
theorem slash_not_mem_extension? {p : Path} {ext : String} (h : p.extension? = some ext) :
    '/' ∉ ext.toList := by
  obtain ⟨name, hname, hext⟩ := Option.bind_eq_some_iff.mp h
  have hslash : '/' ∉ name.toList := by
    unfold fileName? at hname
    split at hname
    · next last hlast =>
      cases hname
      exact slash_not_mem_segment (mem_segments_of_mem_components (List.mem_of_getLast? hlast))
    · cases hname
  split at hext
  · next last before more hparts =>
    have hpart : last ∈ Text.splitFrom ['.'] 0 name.toList := by
      have hmem : last ∈ (Text.splitOn ['.'] name.toList).reverse := by simp [hparts]
      simpa [Text.splitOn] using hmem
    split at hext
    · cases hext
    · cases hext
      intro hmem
      exact hslash (Text.mem_of_mem_splitFrom hpart (by simpa using hmem))
  · cases hext

theorem isPlain_iff_names {p : Path} : p.isPlain = true ↔ p.Downward ∧ p.names ≠ [] := by
  rw [isPlain_iff, and_comm]
  refine and_congr_right fun h => ?_
  rw [components_of_downward h]
  simp

end Path

namespace TemplateFile

theorem slash_not_mem_extension (t : TemplateFile) : '/' ∉ t.extension.toList := by
  unfold extension
  cases h : t.fileName.extension? with
  | none => simp
  | some ext => simpa using Path.slash_not_mem_extension? h

/-- What stands before the extension of a file name is what stands before its first dot, if the stem
has none. -/
theorem takeWhile_stem_extension (t : TemplateFile) {stem : String} (hdot : '.' ∉ stem.toList) :
    (stem ++ t.extension).toList.takeWhile (· ≠ '.') = stem.toList := by
  have hstem : ∀ c ∈ stem.toList, decide (c ≠ '.') = true := by
    intro c hc
    have hne : c ≠ '.' := ne_of_mem_of_not_mem hc hdot
    simpa using hne
  have hextension : t.extension.toList.takeWhile (· ≠ '.') = [] := by
    unfold extension
    cases t.fileName.extension? with
    | none => rfl
    | some ext => simp
  rw [String.toList_append, List.takeWhile_append_of_pos hstem, hextension, List.append_nil]

/-- A file beside a template stands in its folder under its own name. -/
theorem sibling_downward {t : TemplateFile} (ht : t.fileName.isPlain = true) {stem : String}
    (hslash : '/' ∉ stem.toList) (hletter : ∃ c ∈ stem.toList, c ≠ '.') :
    (t.sibling stem).Downward ∧
      (t.sibling stem).names = t.fileName.names.dropLast ++ [stem ++ t.extension] := by
  obtain ⟨hdown, hne⟩ := Path.isPlain_iff_names.mp ht
  obtain ⟨folder, hfolder, hfdown, hfnames⟩ := Path.parent?_of_downward hdown hne
  have hname : (Path.mk (stem ++ t.extension)).Downward ∧
      (Path.mk (stem ++ t.extension)).names = [stem ++ t.extension] := by
    apply Path.downward_of_name
    · simp [hslash, t.slash_not_mem_extension]
    · obtain ⟨c, hc, hdot⟩ := hletter
      exact ⟨c, by simp [hc], hdot⟩
  have hparent : t.folder = folder := by rw [TemplateFile.folder, hfolder, Option.getD_some]
  rw [sibling, hparent]
  refine ⟨hfdown.join hname.1, ?_⟩
  rw [Path.names_join hfdown hname.1, hfnames, hname.2]

theorem sibling_isPlain {t : TemplateFile} (ht : t.fileName.isPlain = true) {stem : String}
    (hslash : '/' ∉ stem.toList) (hletter : ∃ c ∈ stem.toList, c ≠ '.') :
    (t.sibling stem).isPlain = true := by
  obtain ⟨hdown, hnames⟩ := sibling_downward ht hslash hletter
  exact Path.isPlain_iff_names.mpr ⟨hdown, by simp [hnames]⟩

end TemplateFile

/-- What the class names end in that the files of a pass are named after. -/
def PassKind.ending? : PassKind → Option String
  | .enumeration => some "Enum"
  | .row => some "Row"
  | .table => some "Table"
  | .database => none
  | .package => none

/-- The endings differ in their last letter already. -/
theorem PassKind.eq_of_ending? {p q : PassKind} {ending other : String}
    (hp : p.ending? = some ending) (hq : q.ending? = some other)
    (hlast : ending.toList.getLast? = other.toList.getLast?) : p = q := by
  cases p <;> cases hp <;> cases q <;> cases hq <;> first | rfl | exact absurd hlast (by decide)

/-- Under the standard names a class name has no separators. -/
theorem PassKind.separator_not_mem_className {pass : PassKind} {ending : String}
    (h : pass.ending? = some ending) {separator : Char} (hsep : separator ∈ Text.separators)
    (name : String) : separator ∉ (Naming.pascalCase name ++ ending).toList := by
  have hname : separator ∉ (Naming.pascalCase name).toList := by
    simpa [Naming.pascalCase] using Text.separator_not_mem_pascalCase hsep name.toList
  have hend : separator ∉ ending.toList := by
    rcases Text.eq_of_mem_separators hsep with rfl | rfl <;> cases pass <;> cases h <;> decide
  rw [String.toList_append, List.mem_append]
  exact not_or.mpr ⟨hname, hend⟩

theorem PassKind.exists_mem_className {pass : PassKind} {ending : String}
    (h : pass.ending? = some ending) (name : String) :
    ∃ c ∈ (Naming.pascalCase name ++ ending).toList, c ≠ '.' := by
  have hend : ending.toList.any (fun c => c ≠ '.') = true := by
    cases pass <;> cases h <;> decide
  obtain ⟨c, hc, hdot⟩ := List.any_eq_true.mp hend
  exact ⟨c, by simp [hc], by simpa using hdot⟩

namespace Context

variable {ctx : Context} {pass : PassKind} {f : GeneratedFile}

theorem files_withTemplate (pass : PassKind) (render : TemplateFile → PassOutcome) :
    (ctx.withTemplate pass render).files = [] ∨ ∃ template,
      ctx.templates.slot pass = some template ∧
        (ctx.withTemplate pass render).files = (render template).files := by
  unfold withTemplate
  cases hs : ctx.templates.slot pass with
  | none => exact Or.inl rfl
  | some template =>
    simp only
    split
    · exact Or.inl rfl
    · exact Or.inr ⟨template, rfl, rfl⟩

/-- A pass that names its files after classes has one file for every table, in order. -/
theorem files_eq_map {ending : String} (h : pass.ending? = some ending) :
    (ctx.outcome pass).files = [] ∨ ∃ template, ctx.templates.slot pass = some template ∧
      ∃ file : Table → GeneratedFile, (ctx.outcome pass).files = ctx.dataset.tables.map file ∧
        ∀ table, (file table).path =
          template.sibling (ctx.naming.className table.name ++ ending) := by
  cases pass with
  | enumeration =>
    cases h
    exact (files_withTemplate _ _).imp_right fun ⟨template, hslot, hfiles⟩ =>
      ⟨template, hslot, _, hfiles, fun _ => rfl⟩
  | row =>
    cases h
    cases hm : RowClass.missingTarget? ctx.dataset.tables with
    | some missing =>
      simp only [outcome, RowClass.outcome, hm]
      rcases files_withTemplate .row _ with hnone | ⟨template, -, hfiles⟩
      · exact Or.inl hnone
      · exact Or.inl hfiles
    | none =>
      simp only [outcome, RowClass.outcome, hm]
      exact (files_withTemplate _ _).imp_right fun ⟨template, hslot, hfiles⟩ =>
        ⟨template, hslot, _, hfiles, fun _ => rfl⟩
  | table =>
    cases h
    exact (files_withTemplate _ _).imp_right fun ⟨template, hslot, hfiles⟩ =>
      ⟨template, hslot, _, hfiles, fun _ => rfl⟩
  | database => cases h
  | package => cases h

theorem path_of_getElem?_files {ending : String} (h : pass.ending? = some ending) {i : Nat}
    (hf : (ctx.outcome pass).files[i]? = some f) :
    ∃ template table, ctx.templates.slot pass = some template ∧
      ctx.dataset.tables[i]? = some table ∧
      f.path = template.sibling (ctx.naming.className table.name ++ ending) := by
  rcases files_eq_map h with hnone | ⟨template, hslot, file, hfiles, hpath⟩
  · rw [hnone] at hf
    cases hf
  · rw [hfiles, List.getElem?_map, Option.map_eq_some_iff] at hf
    obtain ⟨table, htable, rfl⟩ := hf
    exact ⟨template, table, hslot, htable, hpath table⟩

/-- A file is named after a class that belongs to a table, or has the name of its template. -/
theorem path_of_mem_files (h : f ∈ (ctx.outcome pass).files) :
    ∃ template ∈ ctx.templates.ofPass pass,
      f.path = template.fileName ∨
      ∃ table, ∃ ending ∈ pass.ending?,
        f.path = template.sibling (ctx.naming.className table ++ ending) := by
  cases hending : pass.ending? with
  | some ending =>
    obtain ⟨i, hi⟩ := List.mem_iff_getElem?.mp h
    obtain ⟨template, table, hslot, -, hpath⟩ := path_of_getElem?_files hending hi
    exact ⟨template, TemplateSet.mem_ofPass_of_slot hslot, Or.inr ⟨table.name, ending, rfl, hpath⟩⟩
  | none =>
    cases pass with
    | database =>
      simp only [outcome, Database.outcome] at h
      rcases files_withTemplate .database _ with hnone | ⟨template, hslot, hfiles⟩
      · rw [hnone] at h
        cases h
      · rw [hfiles] at h
        rw [List.mem_singleton.mp h]
        exact ⟨template, TemplateSet.mem_ofPass_of_slot hslot, Or.inl rfl⟩
    | package =>
      obtain ⟨template, htemplate, rfl⟩ := List.mem_map.mp h
      exact ⟨template, htemplate, Or.inl rfl⟩
    | enumeration => cases hending
    | row => cases hending
    | table => cases hending

end Context

namespace Generator

theorem mem_files_iff {g : Generator} {f : GeneratedFile} :
    f ∈ g.files ↔ ∃ pass, f ∈ (g.context.outcome pass).files := by
  simp [files, outcomes, Context.outcomes, PassKind.mem_all]

/-- Under the standard names, plain names of templates make plain paths of files. -/
theorem isPlain_of_mem_files {g : Generator} (hnaming : g.naming = .standard)
    (htemplates : ∀ template ∈ g.templates.all, template.fileName.isPlain = true) :
    ∀ f ∈ g.files, f.path.isPlain = true := by
  intro f hf
  obtain ⟨pass, hf⟩ := mem_files_iff.mp hf
  obtain ⟨template, htemplate, hpath⟩ := Context.path_of_mem_files hf
  have hplain := htemplates template (TemplateSet.mem_all_of_ofPass htemplate)
  rcases hpath with hpath | ⟨table, ending, hending, hpath⟩
  · rw [hpath]
    exact hplain
  · have hnaming' : g.context.naming = .standard := hnaming
    rw [hpath, hnaming']
    exact TemplateFile.sibling_isPlain hplain
      (PassKind.separator_not_mem_className hending (by decide) table)
      (PassKind.exists_mem_className hending table)

end Generator

end TableForge
