import TableForge.Proofs.Generation.Destination
import TableForge.Report.Generation

/-!
# Package folders below the output folder

The folders of a package name are meant to be nested in the output folder. The names of templates
are checked for that, the parts of a package name are not: a part may begin with a slash, and then
it swallows everything before it, or go up. What is proved here is when the folders do stay inside,
which is decided by the parts alone, and that every file of a checked template package is then
written below the output folder.
-/
namespace TableForge

/-- Parts that lead nowhere but further down when they are joined one after another. -/
structure Path.Inward (parts : List String) : Prop where
  relative : ∀ part ∈ parts, (Path.mk part).isAbsolute = false
  noParent : ∀ part ∈ parts, ".." ∉ (Path.mk part).segments
  /-- The first part does not begin at the current folder; in later parts this counts for nothing. -/
  start : ∀ first ∈ parts.head?, (Path.mk first).segments.head? ≠ some "."

namespace Path

instance (parts : List String) : Decidable (Inward parts) :=
  decidable_of_iff
    ((∀ part ∈ parts, (Path.mk part).isAbsolute = false) ∧
      (∀ part ∈ parts, ".." ∉ (Path.mk part).segments) ∧
      ∀ first ∈ parts.head?, (Path.mk first).segments.head? ≠ some ".")
    ⟨fun h => ⟨h.1, h.2.1, h.2.2⟩, fun h => ⟨h.relative, h.noParent, h.start⟩⟩

theorem downward_foldl_join_iff {base : Path} (hb : base.text ≠ "") (parts : List String) :
    (parts.foldl (fun path part => path.join ⟨part⟩) base).Downward ↔
      base.Downward ∧
        ∀ part ∈ parts, (Path.mk part).isAbsolute = false ∧ ".." ∉ (Path.mk part).segments := by
  induction parts generalizing base with
  | nil => simp
  | cons part rest ih =>
    rw [List.foldl_cons, ih (text_join_ne_empty hb ⟨part⟩), downward_join_iff hb, and_assoc,
      List.forall_mem_cons]

/-- Parts that are not empty, joined, lead downwards exactly if they are inward. -/
theorem downward_joinAll_iff {parts : List String} (hne : ∀ part ∈ parts, part ≠ "") :
    (joinAll parts).Downward ↔ Inward parts := by
  cases parts with
  | nil => exact ⟨fun _ => ⟨by simp, by simp, by simp⟩, fun _ => by decide⟩
  | cons first rest =>
    have hfirst : (Path.mk first).text ≠ "" := hne first List.mem_cons_self
    rw [joinAll, List.foldl_cons, empty_join, downward_foldl_join_iff hfirst, downward_iff]
    constructor
    · rintro ⟨⟨habs, hcur, hup⟩, hrest⟩
      refine ⟨?_, ?_, ?_⟩
      · exact List.forall_mem_cons.mpr ⟨habs, fun part hp => (hrest part hp).1⟩
      · exact List.forall_mem_cons.mpr ⟨hup, fun part hp => (hrest part hp).2⟩
      · intro s hs
        cases hs
        exact hcur
    · rintro ⟨habs, hup, hcur⟩
      obtain ⟨hafirst, harest⟩ := List.forall_mem_cons.mp habs
      obtain ⟨hufirst, hurest⟩ := List.forall_mem_cons.mp hup
      exact ⟨⟨hafirst, hcur first rfl, hufirst⟩, fun part hp => ⟨harest part hp, hurest part hp⟩⟩

end Path

namespace Config

/-- The parts that a package name is laid out as; without a separator there is a single one. -/
def packageParts (c : Config) : List String :=
  if c.packageSeparator = "" then [c.packageString]
  else ((Text.splitOn c.packageSeparator.toList c.packageString.toList).filter (· ≠ [])).map
    String.ofList

theorem packagePath_eq (c : Config) : c.packagePath = Path.joinAll c.packageParts := by
  unfold packagePath packageParts
  split
  · exact (Path.empty_join _).symm
  · rfl

/-- The folders of a package name lead downwards exactly if its parts are inward. -/
theorem downward_packagePath_iff (c : Config) :
    c.packagePath.Downward ↔ Path.Inward c.packageParts := by
  by_cases hs : c.packageSeparator = ""
  · have hpath : c.packagePath = ⟨c.packageString⟩ := by rw [packagePath, if_pos hs]
    have hparts : c.packageParts = [c.packageString] := by rw [packageParts, if_pos hs]
    rw [hpath, hparts, Path.downward_iff]
    constructor
    · rintro ⟨habs, hcur, hup⟩
      exact ⟨by simpa using habs, by simpa using hup, by simpa using hcur⟩
    · rintro ⟨habs, hup, hcur⟩
      exact ⟨by simpa using habs, by simpa using hcur, by simpa using hup⟩
  · rw [packagePath_eq]
    apply Path.downward_joinAll_iff
    intro part hpart
    rw [packageParts, if_neg hs] at hpart
    obtain ⟨chars, hchars, rfl⟩ := List.mem_map.mp hpart
    have hne : chars ≠ [] := by simpa using (List.mem_filter.mp hchars).2
    simpa using hne

/-- The folders of a package are appended to the output folder, if they lead downwards. -/
theorem components_outputRoot {c : Config} (hfolders : c.packageFolders = true)
    (hinward : Path.Inward c.packageParts) (output : Path) :
    (c.outputRoot output).components =
      output.components ++ c.packagePath.names.map .normal := by
  have hdown := c.downward_packagePath_iff.mpr hinward
  rw [outputRoot, if_pos hfolders, Path.components_join output hdown,
    Path.components_of_downward hdown]

end Config

theorem GenerateOptions.config_generator (opts : GenerateOptions) (dataset : Dataset)
    (package : TemplatePackage) :
    ∃ name, (opts.generator dataset package).config =
      { package.manifest.config with packageName := name } := by
  unfold GenerateOptions.generator
  cases opts.package with
  | none => exact ⟨_, rfl⟩
  | some name => exact ⟨name, rfl⟩

namespace Generator

/-- **When package folders stay in the output folder.** For a checked template package with package
folders, any dataset, any package name put in its place and any output folder: the folders of the
package consist of names exactly if the parts of the package name are inward. Then the folder that
files are written under is the output folder followed by these names, and every file is written at
the names of its own path below it, of which there is at least one. -/
theorem package_folders_nested_iff {σ : Type} [Disk (StateM σ)] {dir : Path} {manifest : Manifest}
    {package : TemplatePackage} {s s' : σ}
    (hload : (TemplatePackage.ofManifest dir manifest : StateM σ _) s = (.ok package, s'))
    (hfolders : manifest.options.folders = true) (dataset : Dataset) (opts : GenerateOptions)
    (output : Path) :
    let g := opts.generator dataset package
    ((∀ c ∈ g.config.packagePath.components, ∃ name, c = .normal name) ↔
      Path.Inward g.config.packageParts) ∧
    (Path.Inward g.config.packageParts →
      (g.config.outputRoot output).components =
        output.components ++ g.config.packagePath.names.map .normal ∧
      ∀ f ∈ g.files, f.path.names ≠ [] ∧
        ((g.config.outputRoot output).join f.path).components =
          output.components ++ (g.config.packagePath.names ++ f.path.names).map .normal) := by
  intro g
  obtain ⟨hmanifest, hplain⟩ := TemplatePackage.isPlain_of_ofManifest hload
  refine ⟨g.config.downward_packagePath_iff, ?_⟩
  intro hinward
  have hon : g.config.packageFolders = true := by
    obtain ⟨name, hconfig⟩ := opts.config_generator dataset package
    rw [hconfig, hmanifest]
    exact hfolders
  have hroot := Config.components_outputRoot hon hinward output
  refine ⟨hroot, ?_⟩
  intro f hf
  have hnaming : g.naming = .standard := by
    show (opts.generator dataset package).naming = .standard
    unfold GenerateOptions.generator
    cases opts.package <;> rfl
  have htemplates : g.templates = package.templates := by
    show (opts.generator dataset package).templates = package.templates
    unfold GenerateOptions.generator
    cases opts.package <;> rfl
  have hpath := isPlain_of_mem_files hnaming (htemplates ▸ hplain) f hf
  obtain ⟨hdown, hne⟩ := Path.isPlain_iff_names.mp hpath
  refine ⟨hne, ?_⟩
  rw [Path.components_join _ hdown, hroot, Path.components_of_downward hdown, List.map_append,
    List.append_assoc]

def nestedManifest : Manifest where
  options := { separator := "/", folders := true, lowercase := true }
  files := { package := [⟨"docs/Readme.txt"⟩] }

def nestedPackage : TemplatePackage where
  dir := ⟨"pkg"⟩
  manifest := nestedManifest
  templates := { packageFiles := [⟨⟨"docs/Readme.txt"⟩, "PACKAGE_STRING"⟩] }

/-- A folder with the template that the manifest names. -/
def packageTree : FileTree where
  entries := [(["pkg"], .folder), (["pkg", "docs"], .folder),
    (["pkg", "docs", "Readme.txt"], .file "PACKAGE_STRING".toUTF8)]
  here := []

/-- A `.` in a later part of the package name counts for nothing. -/
theorem package_folders_nested_lowered :
    ∃ tree, (TemplatePackage.ofManifest ⟨"pkg"⟩ nestedManifest : StateM FileTree _) packageTree =
        (.ok nestedPackage, tree) ∧
      nestedManifest.options.folders = true ∧
      let g := GenerateOptions.generator { package := some "Net/./Game/" } default nestedPackage
      Path.Inward g.config.packageParts ∧
      (g.config.outputRoot ⟨"out"⟩).components = [.normal "out", .normal "net", .normal "game"] ∧
      ∀ f ∈ g.files, ((g.config.outputRoot ⟨"out"⟩).join f.path).components =
        [.normal "out"] ++ (["net", "game"] ++ f.path.names).map .normal := by
  have hresult : ((TemplatePackage.ofManifest ⟨"pkg"⟩ nestedManifest : StateM FileTree _)
      packageTree).1 = .ok nestedPackage := rfl
  obtain ⟨tree, hload⟩ := exists_state hresult
  have h := package_folders_nested_iff hload rfl default { package := some "Net/./Game/" } ⟨"out"⟩
  have hinward : Path.Inward (GenerateOptions.generator { package := some "Net/./Game/" } default
      nestedPackage).config.packageParts := by decide +kernel
  have hnames : (GenerateOptions.generator { package := some "Net/./Game/" } default
      nestedPackage).config.packagePath.names = ["net", "game"] := by decide +kernel
  have hout : (Path.mk "out").components = [.normal "out"] := by decide
  obtain ⟨hroot, hfiles⟩ := h.2 hinward
  rw [hnames, hout] at hroot hfiles
  exact ⟨tree, hload, rfl, hinward, hroot, fun f hf => (hfiles f hf).2⟩

/-- Without a separator the package name is a single part, and nothing keeps it from going up. -/
theorem package_folders_escape :
    let c : Config := { packageSeparator := "", packageFolders := true, packageName := "../outside" }
    ¬ (∀ component ∈ c.packagePath.components, ∃ name, component = .normal name) ∧
      (c.outputRoot ⟨"out"⟩).join ⟨"f.txt"⟩ = ⟨"out/../outside/f.txt"⟩ := by
  intro c
  have hup : Path.Component.parent ∈ c.packagePath.components := by decide +kernel
  refine ⟨?_, by decide +kernel⟩
  intro h
  obtain ⟨name, hname⟩ := h _ hup
  cases hname

end Generator

end TableForge
