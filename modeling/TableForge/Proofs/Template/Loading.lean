import TableForge.Proofs.Generation.Run
import TableForge.Template.Package

/-!
# What a loaded package holds

A package that is loaded holds the templates that its manifest names, each under the name that it
was declared with. All of these names were checked, so each of them is plain.
-/
namespace TableForge

/-- Every template, in the order in which templates are read. -/
def TemplateSet.all (t : TemplateSet) : List TemplateFile :=
  t.database.toList ++ t.table.toList ++ t.row.toList ++ t.enumeration.toList ++ t.packageFiles

theorem TemplateSet.mem_all_of_slot {t : TemplateSet} {pass : PassKind} {template : TemplateFile}
    (h : t.slot pass = some template) : template ∈ t.all := by
  cases pass <;> simp_all [slot, all]

/-- The templates that the files of a pass are made from. -/
def TemplateSet.ofPass (t : TemplateSet) : PassKind → List TemplateFile
  | .package => t.packageFiles
  | pass => (t.slot pass).toList

theorem TemplateSet.mem_ofPass_of_slot {t : TemplateSet} {pass : PassKind} {template : TemplateFile}
    (h : t.slot pass = some template) : template ∈ t.ofPass pass := by
  cases pass <;> simp_all [slot, ofPass]

theorem TemplateSet.mem_all_of_ofPass {t : TemplateSet} {pass : PassKind} {template : TemplateFile}
    (h : template ∈ t.ofPass pass) : template ∈ t.all := by
  cases pass <;> simp_all [slot, ofPass, all]

/-- The declared paths, in the order in which they are checked and read. -/
theorem FileSlots.map_snd_paths (slots : FileSlots) :
    slots.paths.map Prod.snd = slots.database.toList ++ slots.table.toList ++ slots.row.toList
      ++ slots.enumeration.toList ++ slots.package := by
  have hsome (path : Option Path) (name : String) :
      ((path.map ((name, ·))).toList).map Prod.snd = path.toList := by
    cases path <;> rfl
  simp only [paths, List.map_append, hsome, List.map_map]
  simp [Function.comp_def]

theorem FileSlots.isPlain_of_fault? {slots : FileSlots} (h : slots.fault? = none) :
    ∀ path ∈ slots.paths.map Prod.snd, path.isPlain = true := by
  intro path hpath
  obtain ⟨⟨slot, p⟩, hmem, rfl⟩ := List.mem_map.mp hpath
  have hfind := Option.map_eq_none_iff.mp h
  simpa using List.find?_eq_none.mp hfind _ hmem

namespace TemplatePackage

theorem exceptT_bind_ok {σ ε α β : Type} {x : ExceptT ε (StateM σ) α}
    {f : α → ExceptT ε (StateM σ) β} {b : β} {s s' : σ} (h : (x >>= f).run s = (.ok b, s')) :
    ∃ a s₁, x.run s = (.ok a, s₁) ∧ (f a).run s₁ = (.ok b, s') := by
  have hbind : (x >>= f).run s = ExceptT.bindCont f (x.run s).1 (x.run s).2 := rfl
  rw [hbind] at h
  rcases hx : x.run s with ⟨_ | a, s₁⟩
  · rw [hx] at h
    cases h
  · rw [hx] at h
    exact ⟨a, s₁, rfl, h⟩

variable {σ : Type} [Disk (StateM σ)] {s s' : σ} {dir : Path} {slot : String}

theorem fileName_of_readTemplate {path : Path} {template : TemplateFile}
    (h : (readTemplate dir slot path : StateM σ _) s = (.ok template, s')) :
    template.fileName = path := by
  rw [readTemplate, Generator.bind_apply] at h
  rcases hr : (Disk.readText (dir.join path) : StateM σ _) s with ⟨_ | text, s₁⟩
  · rw [hr] at h
    cases h
  · rw [hr] at h
    cases h
    rfl

theorem fileName_of_readSlot {path : Option Path} {template : Option TemplateFile}
    (h : (readSlot dir slot path : StateM σ _) s = (.ok template, s')) :
    template.map TemplateFile.fileName = path := by
  cases path with
  | none =>
    cases h
    rfl
  | some path =>
    rw [readSlot, Generator.bind_apply] at h
    rcases hr : (readTemplate dir slot path : StateM σ _) s with ⟨_ | t, s₁⟩
    · rw [hr] at h
      cases h
    · rw [hr] at h
      cases h
      rw [Option.map_some, fileName_of_readTemplate hr]

theorem fileNames_of_readAll {paths : List Path} {templates : List TemplateFile}
    (h : (readAll dir slot paths : StateM σ _) s = (.ok templates, s')) :
    templates.map TemplateFile.fileName = paths := by
  induction paths generalizing templates s with
  | nil =>
    cases h
    rfl
  | cons path rest ih =>
    rw [readAll, Generator.bind_apply] at h
    rcases hr : (readTemplate dir slot path : StateM σ _) s with ⟨_ | t, s₁⟩
    · rw [hr] at h
      cases h
    · simp only [hr, Generator.bind_apply] at h
      rcases ha : (readAll dir slot rest : StateM σ _) s₁ with ⟨_ | ts, s₂⟩
      · rw [ha] at h
        cases h
      · rw [ha] at h
        cases h
        rw [List.map_cons, fileName_of_readTemplate hr, ih ha]

/-- The templates that are read are those that the slots name, in order. -/
theorem fileNames_of_readTemplates {slots : FileSlots} {templates : TemplateSet}
    (h : (readTemplates dir slots : ExceptT _ (StateM σ) _).run s = (.ok templates, s')) :
    templates.all.map TemplateFile.fileName = slots.paths.map Prod.snd := by
  obtain ⟨database, s₁, hdatabase, h⟩ := exceptT_bind_ok h
  obtain ⟨table, s₂, htable, h⟩ := exceptT_bind_ok h
  obtain ⟨row, s₃, hrow, h⟩ := exceptT_bind_ok h
  obtain ⟨enumeration, s₄, henumeration, h⟩ := exceptT_bind_ok h
  obtain ⟨packageFiles, s₅, hpackage, h⟩ := exceptT_bind_ok h
  cases h
  have hname (template : Option TemplateFile) :
      template.toList.map TemplateFile.fileName = (template.map TemplateFile.fileName).toList := by
    cases template <;> rfl
  simp only [TemplateSet.all, List.map_append, hname]
  rw [fileName_of_readSlot hdatabase, fileName_of_readSlot htable, fileName_of_readSlot hrow,
    fileName_of_readSlot henumeration, fileNames_of_readAll hpackage, slots.map_snd_paths]

/-- A package that is loaded for a manifest keeps it, and all its templates have plain names. -/
theorem isPlain_of_ofManifest {manifest : Manifest} {package : TemplatePackage}
    (h : (ofManifest dir manifest : StateM σ _) s = (.ok package, s')) :
    package.manifest = manifest ∧
      ∀ template ∈ package.templates.all, template.fileName.isPlain = true := by
  cases hfault : manifest.files.fault? with
  | some violation =>
    simp only [ofManifest, hfault] at h
    cases h
  | none =>
    simp only [ofManifest, hfault, Generator.bind_apply] at h
    rcases hr : (readTemplates dir manifest.files : ExceptT _ (StateM σ) _).run s with ⟨_ | t, s₁⟩
    · rw [hr] at h
      cases h
    · rw [hr] at h
      cases h
      refine ⟨rfl, ?_⟩
      intro template htemplate
      apply FileSlots.isPlain_of_fault? hfault
      rw [← fileNames_of_readTemplates hr]
      exact List.mem_map_of_mem htemplate

end TemplatePackage

end TableForge
