import TableForge.Proofs.Generation.Destination
import TableForge.Proofs.Template.Reading

/-!
# A checked package addresses nothing outside

The names that a manifest declares are checked to be plain. They are used twice: templates are read
at these names below the package, and files are generated under them or beside them. Either way what
is added to a directory are names only. For a file that is named after a table this needs that a
class name has no separator, whatever the table is called, and that an extension has no slash.
-/
namespace TableForge

/-- Templates under names that were checked, because an accepted manifest declares them or because
they come from a package that could be loaded, be its manifest read from the directory or handed
over. -/
inductive TemplateSet.Checked : TemplateSet → Prop
  | declared {source : Source} {manifest : Manifest} {templates : TemplateSet}
    (hmanifest : Manifest.ofSource source = .ok manifest)
    (hnames : ∀ template ∈ templates.all, template.fileName ∈ manifest.files.paths.map Prod.snd) :
    Checked templates
  | loaded {σ : Type} [Disk (StateM σ)] {dir : Path} {package : TemplatePackage} {s s' : σ}
    (hload : (TemplatePackage.load dir : StateM σ _) s = (.ok package, s')) :
    Checked package.templates
  | ofManifest {σ : Type} [Disk (StateM σ)] {dir : Path} {manifest : Manifest}
    {package : TemplatePackage} {s s' : σ}
    (hload : (TemplatePackage.ofManifest dir manifest : StateM σ _) s = (.ok package, s')) :
    Checked package.templates

/-- A path made of names, of which all but the last are those of another such path. -/
def Path.Beside (p other : Path) : Prop :=
  ∃ (folders : List String) (name original : String),
    p.components = (folders ++ [name]).map .normal ∧
    other.components = (folders ++ [original]).map .normal

/-- What is read when a package is loaded: nothing but files under names below its directory, among
them the text of every template that comes out. -/
structure ReadsBelow (dir : Path) (result : Except LoadError TemplatePackage) (read : ReadLog) :
    Prop where
  below : ∀ entry ∈ read, ∃ names ≠ [],
    entry.1.components = dir.components ++ names.map .normal
  texts : ∀ package, result = .ok package → ∀ template ∈ package.templates.all,
    (dir.join template.fileName, .ok template.contents) ∈ read

/-! ## Files -/

namespace Path

theorem beside_self {p : Path} (h : p.isPlain = true) : p.Beside p := by
  obtain ⟨hdown, hne⟩ := isPlain_iff_names.mp h
  refine ⟨p.names.dropLast, p.names.getLast hne, p.names.getLast hne, ?_, ?_⟩ <;>
    rw [components_of_downward hdown, List.dropLast_append_getLast]

theorem beside_of_names {p other : Path} {name : String} (hp : p.Downward)
    (hother : other.isPlain = true) (h : p.names = other.names.dropLast ++ [name]) :
    p.Beside other := by
  obtain ⟨hdown, hne⟩ := isPlain_iff_names.mp hother
  refine ⟨other.names.dropLast, name, other.names.getLast hne, ?_, ?_⟩
  · rw [components_of_downward hp, h]
  · rw [components_of_downward hdown, List.dropLast_append_getLast]

theorem components_join_of_isPlain (dir : Path) {p : Path} (h : p.isPlain = true) :
    ∃ names ≠ [], (dir.join p).components = dir.components ++ names.map .normal := by
  obtain ⟨hdown, hne⟩ := isPlain_iff_names.mp h
  exact ⟨p.names, hne, by rw [components_join dir hdown, components_of_downward hdown]⟩

end Path

theorem Manifest.isPlain_of_ofSource {source : Source} {manifest : Manifest}
    (h : ofSource source = .ok manifest) :
    ∀ path ∈ manifest.files.paths.map Prod.snd, path.isPlain = true := by
  apply FileSlots.isPlain_of_fault?
  unfold ofSource at h
  split at h
  · cases h
  · split at h
    · cases h
    · next hfault =>
      cases h
      unfold fault? at hfault
      split at hfault
      · cases hfault
      · exact hfault

namespace TemplatePackage

theorem exists_ofManifest_of_load {σ : Type} [Disk (StateM σ)] {dir : Path}
    {package : TemplatePackage} {s s' : σ}
    (h : (load dir : StateM σ _) s = (.ok package, s')) :
    ∃ manifest s₁, (ofManifest dir manifest : StateM σ _) s₁ = (.ok package, s') := by
  simp only [load, Generator.bind_apply] at h
  rcases hr : (Disk.readText (dir.join ⟨manifestName⟩) : StateM σ _) s with ⟨_ | text, s₁⟩
  · rw [hr] at h
    cases h
  · simp only [hr] at h
    cases hm : Manifest.ofSource { text, fileName := (dir.join ⟨manifestName⟩).text } with
    | error error =>
      simp only [hm] at h
      cases h
    | ok manifest =>
      simp only [hm] at h
      exact ⟨manifest, s₁, h⟩

end TemplatePackage

theorem TemplateSet.Checked.isPlain {templates : TemplateSet} (h : templates.Checked) :
    ∀ template ∈ templates.all, template.fileName.isPlain = true := by
  cases h with
  | declared hmanifest hnames =>
    intro template htemplate
    exact Manifest.isPlain_of_ofSource hmanifest _ (hnames template htemplate)
  | loaded hload =>
    obtain ⟨manifest, s₁, hmanifest⟩ := TemplatePackage.exists_ofManifest_of_load hload
    exact (TemplatePackage.isPlain_of_ofManifest hmanifest).2
  | ofManifest hload => exact (TemplatePackage.isPlain_of_ofManifest hload).2

/-- Under the standard names every file stands beside a template of its pass. -/
theorem Context.beside_of_mem_files {ctx : Context} (hnaming : ctx.naming = .standard)
    (hplain : ∀ template ∈ ctx.templates.all, template.fileName.isPlain = true) {pass : PassKind}
    {f : GeneratedFile} (hf : f ∈ (ctx.outcome pass).files) :
    ∃ template ∈ ctx.templates.ofPass pass, f.path.Beside template.fileName := by
  obtain ⟨template, htemplate, hpath⟩ := path_of_mem_files hf
  have ht := hplain template (TemplateSet.mem_all_of_ofPass htemplate)
  refine ⟨template, htemplate, ?_⟩
  rcases hpath with hpath | ⟨table, ending, hending, hpath⟩
  · rw [hpath]
    exact Path.beside_self ht
  · rw [hpath, hnaming]
    obtain ⟨hdown, hnames⟩ := TemplateFile.sibling_downward ht
      (PassKind.separator_not_mem_className hending (by decide) table)
      (PassKind.exists_mem_className hending table)
    exact Path.beside_of_names hdown ht hnames

/-! ## Templates -/

namespace TemplatePackage

variable {σ : Type} [Disk (StateM σ)] (dir : Path)

theorem readsBelow_ofManifest (manifest : Manifest) :
    Reads (σ := σ) (ofManifest dir manifest) (ofManifest dir manifest) (ReadsBelow dir) := by
  refine (reads_ofManifest dir manifest).mono fun result read h => ⟨?_, ?_⟩
  · intro entry hentry
    obtain ⟨path, hplain, he⟩ := h.1 entry hentry
    rw [he]
    exact dir.components_join_of_isPlain hplain
  · intro package hpackage template htemplate
    rw [h.2 package hpackage]
    exact List.mem_map_of_mem htemplate

theorem readsBelow_load :
    Reads (σ := σ) (load dir) (load dir) (ReadsBelow dir) := by
  have hread : Reads (σ := σ) (Disk.readText (dir.join ⟨manifestName⟩))
      (Disk.readText (dir.join ⟨manifestName⟩))
      fun answer read => read = [(dir.join ⟨manifestName⟩, answer)] := .readText fun _ => rfl
  obtain ⟨names, hne, hnames⟩ :=
    dir.components_join_of_isPlain (show (Path.mk manifestName).isPlain = true by decide)
  have hmanifest (answer : Except FileFault String) :
      ∀ entry ∈ [(dir.join ⟨manifestName⟩, answer)],
        ∃ names ≠ [], entry.1.components = dir.components ++ names.map .normal := by
    intro entry hentry
    rw [List.mem_singleton.mp hentry]
    exact ⟨names, hne, hnames⟩
  unfold load
  refine hread.bind ?_
  rintro (fault | text) read rfl
  · refine .pure ⟨?_, fun package h => by cases h⟩
    rw [List.append_nil]
    exact hmanifest _
  · cases hm : Manifest.ofSource { text, fileName := (dir.join ⟨manifestName⟩).text } with
    | error error =>
      simp only [hm]
      refine .pure ⟨?_, fun package h => by cases h⟩
      rw [List.append_nil]
      exact hmanifest _
    | ok manifest =>
      simp only [hm]
      refine (readsBelow_ofManifest dir manifest).mono fun result read h => ⟨?_, ?_⟩
      · exact List.forall_mem_append.mpr ⟨hmanifest _, h.below⟩
      · intro package hpackage template htemplate
        exact List.mem_append_right _ (h.texts package hpackage template htemplate)

end TemplatePackage

/-! ## Both together -/

/-- **A checked package stays inside.** Whatever the tables are called, every file that is generated
with checked templates under the standard names has a path of names, in the folder of its template.
Whatever a manifest declares, loading its package reads nothing but files under names below the
directory of the package, and the texts of the templates are what was read there. -/
theorem checked_names_stay_inside :
    (∀ g : Generator, g.naming = .standard → g.templates.Checked →
      ∀ pass, ∀ f ∈ (g.context.outcome pass).files,
        ∃ template ∈ g.templates.ofPass pass, f.path.Beside template.fileName) ∧
    ∀ {σ : Type} [Disk (StateM σ)] (dir : Path),
      Reads (σ := σ) (TemplatePackage.load dir) (TemplatePackage.load dir) (ReadsBelow dir) ∧
      ∀ manifest, Reads (σ := σ) (TemplatePackage.ofManifest dir manifest)
        (TemplatePackage.ofManifest dir manifest) (ReadsBelow dir) := by
  refine ⟨?_, ?_⟩
  · intro g hnaming htemplates pass f hf
    have hcontext : g.context.naming = .standard := hnaming
    exact Context.beside_of_mem_files hcontext htemplates.isPlain hf
  · intro σ _ dir
    exact ⟨TemplatePackage.readsBelow_load dir, TemplatePackage.readsBelow_ofManifest dir⟩

/-- A manifest that names its only template with a detour. -/
def detourSource : Source where
  text := "[files]\ntable = 'a/./b/T.x.txt'"
  fileName := "template.toml"

/-- A table whose name looks like a way out, and the template of the manifest. -/
def detourSample : Generator where
  config := {}
  dataset := { package := none, tables := [{ name := "../étage/.", fields := [], rows := [] }] }
  templates := { table := some ⟨⟨"a/./b/T.x.txt"⟩, "CLASS_NAME"⟩ }
  renderer := FragmentPatterns.renderer { newClassInstance := some "", localVariable := some "" }
  types := .empty
  replacements := []
  naming := .standard

/-- Nothing of the name is left but the letters, and the file stands in the folder `b` in `a`. -/
theorem checked_names_stay_inside_detour :
    detourSample.naming = .standard ∧ detourSample.templates.Checked ∧
      ∃ f ∈ (detourSample.context.outcome .table).files, f.path = ⟨"a/./b/ÉtageTable.txt"⟩ ∧
        ∃ template ∈ detourSample.templates.ofPass .table, f.path.Beside template.fileName := by
  have hpaths : (match Manifest.ofSource detourSource with
      | .ok manifest => manifest.files.paths.map Prod.snd
      | .error _ => []) = [⟨"a/./b/T.x.txt"⟩] := by decide +kernel
  have hchecked : detourSample.templates.Checked := by
    cases hm : Manifest.ofSource detourSource with
    | error error => simp [hm] at hpaths
    | ok manifest =>
      simp only [hm] at hpaths
      exact .declared hm (by simp [hpaths, detourSample, TemplateSet.all])
  have hfiles : (detourSample.context.outcome .table).files =
      [⟨"ÉtageTable.txt", ⟨"a/./b/ÉtageTable.txt"⟩, "ÉtageTable"⟩] := by decide +kernel
  refine ⟨rfl, hchecked, _, hfiles ▸ List.mem_cons_self, rfl, ?_⟩
  exact checked_names_stay_inside.1 detourSample rfl hchecked .table _
    (hfiles ▸ List.mem_cons_self)

end TableForge
