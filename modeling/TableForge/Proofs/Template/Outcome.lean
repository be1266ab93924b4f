import TableForge.Proofs.Generation.Destination

/-!
# What loading a package comes to

All declared paths are checked before the first template is read, so a path that is refused is
reported whatever the directory holds. If none is refused, the templates are read in the order in
which the paths are declared, and the first that cannot be read is reported. If all can be read,
every slot holds the text of the file that it names, and a slot without a path stays empty.

Which paths are accepted is told twice: by their components, as they are checked, and by the texts
between their slashes.
-/
namespace TableForge

/-! ## Texts in a tree -/

/-- Whether a path leads to a file whose content is a text in UTF-8. -/
def FileTree.Holds (t : FileTree) (path : Path) (text : String) : Prop :=
  ∃ loc, t.find path = .ok (loc, .file text.toUTF8)

theorem fromUTF8?_eq_some_iff {content : ByteArray} {text : String} :
    String.fromUTF8? content = some text ↔ content = text.toUTF8 := by
  unfold String.fromUTF8?
  split
  · next h =>
    rw [Option.some.injEq]
    constructor
    · rintro rfl
      rfl
    · rintro rfl
      rfl
  · next h =>
    constructor
    · intro hnone
      cases hnone
    · rintro rfl
      exact absurd text.isValidUTF8 h

/-- What is read is the whole content of the file, and it can be read if it is UTF-8. -/
theorem FileTree.readText_eq_ok_iff {t : FileTree} {path : Path} {text : String} :
    t.readText path = .ok text ↔ t.Holds path text := by
  rw [readText, readBytes, Holds]
  rcases hfind : t.find path with fault | ⟨loc, node⟩
  · constructor
    · intro h
      cases h
    · rintro ⟨_, h⟩
      cases h
  · cases node with
    | file content =>
      have hloc : (∃ other, (Except.ok (loc, Node.file content) : Except FileFault _) =
          .ok (other, .file text.toUTF8)) ↔ content = text.toUTF8 := by simp
      rw [hloc, ← fromUTF8?_eq_some_iff]
      simp only [bind, Except.bind]
      cases String.fromUTF8? content <;> simp
    | folder => simp [bind, Except.bind]
    | link target => simp [bind, Except.bind]

/-! ## Reading in order -/

section

variable (t : FileTree) (dir : Path) {α β : Type}

/-- Whether the file of a declared path can be read. -/
def Readable (path : Path) : Prop := ∃ text, t.Holds (dir.join path) text

/-- How reading the templates at declared paths ends: with all of them, of which `post` tells what
they are, or with the first that cannot be read. -/
inductive ReadInOrder (paths : List (String × Path)) (post : α → Prop) :
    Except LoadError α → Prop
  | all {a : α} (hpost : post a) : ReadInOrder paths post (.ok a)
  | missing {before after : List (String × Path)} {slot : String} {path : Path} {fault : FileFault}
    (hpaths : paths = before ++ (slot, path) :: after)
    (hfault : t.readText (dir.join path) = .error fault)
    (hbefore : ∀ declared ∈ before, Readable t dir declared.2) :
    ReadInOrder paths post (.error (.missingTemplate slot (dir.join path) fault))

/-- A run that reads templates in order, finds all of them readable if it succeeds, and leaves the
tree alone. -/
def Reading (paths : List (String × Path)) (post : α → Prop)
    (run : StateM FileTree (Except LoadError α)) : Prop :=
  ∃ result, run t = (result, t) ∧
    ReadInOrder t dir paths
      (fun a => post a ∧ ∀ declared ∈ paths, Readable t dir declared.2) result

/-- A template as it is loaded: the declared path, and the text that stands there. -/
structure TemplateFile.LoadedFrom (path : Path) (template : TemplateFile) : Prop where
  fileName_eq : template.fileName = path
  holds : t.Holds (dir.join path) template.contents

/-- Templates as they are loaded: a slot is filled exactly if a path is declared for it, and the
list of files matches the declared list. -/
structure TemplateSet.LoadedFrom (slots : FileSlots) (templates : TemplateSet) : Prop where
  database : Option.Rel (TemplateFile.LoadedFrom t dir) slots.database templates.database
  table : Option.Rel (TemplateFile.LoadedFrom t dir) slots.table templates.table
  row : Option.Rel (TemplateFile.LoadedFrom t dir) slots.row templates.row
  enumeration : Option.Rel (TemplateFile.LoadedFrom t dir) slots.enumeration templates.enumeration
  packageFiles : List.Forall₂ (TemplateFile.LoadedFrom t dir) slots.package templates.packageFiles

namespace Reading

variable {t dir} {paths more : List (String × Path)} {mid : β → Prop} {post : α → Prop}

theorem pure {a : α} (h : post a) : Reading t dir [] post (Pure.pure (.ok a)) :=
  ⟨.ok a, rfl, .all ⟨h, by simp⟩⟩

/-- One part after another: the second is read if the first could be. -/
theorem bind {run : StateM FileTree (Except LoadError β)}
    {rest : Except LoadError β → StateM FileTree (Except LoadError α)}
    (hrun : Reading t dir paths mid run)
    (herror : ∀ error, rest (.error error) = Pure.pure (.error error))
    (hrest : ∀ b, mid b → Reading t dir more post (rest (.ok b))) :
    Reading t dir (paths ++ more) post (run >>= rest) := by
  obtain ⟨result, hresult, hread⟩ := hrun
  cases hread with
  | all hmid =>
    next b =>
    obtain ⟨hb, hreadable⟩ := hmid
    obtain ⟨next, hnext, hmore⟩ := hrest b hb
    refine ⟨next, ?_, ?_⟩
    · rw [Generator.bind_apply, hresult]
      exact hnext
    · cases hmore with
      | all hpost => exact .all ⟨hpost.1, List.forall_mem_append.mpr ⟨hreadable, hpost.2⟩⟩
      | missing hpaths hfault hbefore =>
        exact .missing (by rw [hpaths, List.append_assoc]) hfault
          (List.forall_mem_append.mpr ⟨hreadable, hbefore⟩)
  | missing hpaths hfault hbefore =>
    refine ⟨_, ?_, .missing (by rw [hpaths, List.append_assoc, List.cons_append]) hfault hbefore⟩
    rw [Generator.bind_apply, hresult, herror]
    rfl

/-- What follows a reading may work on what was read and read nothing more. -/
theorem map {run : StateM FileTree (Except LoadError β)}
    {rest : Except LoadError β → StateM FileTree (Except LoadError α)} {f : β → α}
    (hrun : Reading t dir paths mid run)
    (herror : ∀ error, rest (.error error) = Pure.pure (.error error))
    (hrest : ∀ b, rest (.ok b) = Pure.pure (.ok (f b))) (hpost : ∀ b, mid b → post (f b)) :
    Reading t dir paths post (run >>= rest) := by
  have hread : Reading t dir (paths ++ []) post (run >>= rest) :=
    hrun.bind herror fun b hb => hrest b ▸ .pure (hpost b hb)
  rwa [List.append_nil] at hread

theorem exceptT_bind {run : ExceptT LoadError (StateM FileTree) β}
    {rest : β → ExceptT LoadError (StateM FileTree) α} (hrun : Reading t dir paths mid run.run)
    (hrest : ∀ b, mid b → Reading t dir more post (rest b).run) :
    Reading t dir (paths ++ more) post (run >>= rest).run := by
  show Reading t dir _ _ (run.run >>= ExceptT.bindCont rest)
  exact hrun.bind (fun _ => rfl) hrest

end Reading

namespace TemplatePackage

variable (slot : String)

theorem reading_readTemplate (path : Path) :
    Reading t dir [(slot, path)] (TemplateFile.LoadedFrom t dir path)
      (readTemplate dir slot path) := by
  cases hread : t.readText (dir.join path) with
  | error fault =>
    have hpaths : [(slot, path)] = [] ++ (slot, path) :: [] := rfl
    refine ⟨_, ?_, .missing hpaths hread (by simp)⟩
    rw [readTemplate, Generator.bind_apply]
    simp only [Disk.readText, hread]
    rfl
  | ok text =>
    have hholds := FileTree.readText_eq_ok_iff.mp hread
    refine ⟨.ok { fileName := path, contents := text }, ?_, .all ⟨⟨rfl, hholds⟩, ?_⟩⟩
    · rw [readTemplate, Generator.bind_apply]
      simp only [Disk.readText, hread]
      rfl
    · simpa using ⟨text, hholds⟩

theorem reading_readSlot (path : Option Path) :
    Reading t dir (path.map ((slot, ·))).toList (Option.Rel (TemplateFile.LoadedFrom t dir) path)
      (readSlot dir slot path) := by
  cases path with
  | none => exact .pure .none
  | some path =>
    exact (reading_readTemplate t dir slot path).map (fun _ => rfl) (fun _ => rfl)
      fun template htemplate => .some htemplate

theorem reading_readAll (paths : List Path) :
    Reading t dir (paths.map ((slot, ·))) (List.Forall₂ (TemplateFile.LoadedFrom t dir) paths)
      (readAll dir slot paths) := by
  induction paths with
  | nil => exact .pure .nil
  | cons path rest ih =>
    refine (reading_readTemplate t dir slot path).bind (fun _ => rfl) fun template htemplate => ?_
    exact ih.map (fun _ => rfl) (fun _ => rfl) fun templates htemplates =>
      .cons htemplate htemplates

theorem reading_readTemplates (slots : FileSlots) :
    Reading t dir slots.paths (TemplateSet.LoadedFrom t dir slots)
      (readTemplates dir slots).run := by
  have hpaths : slots.paths = (slots.database.map (("database", ·))).toList ++
      ((slots.table.map (("table", ·))).toList ++ ((slots.row.map (("row", ·))).toList ++
        ((slots.enumeration.map (("enumeration", ·))).toList ++
          (slots.package.map (("package", ·)) ++ [])))) := by
    simp only [FileSlots.paths, List.append_assoc, List.append_nil]
  rw [hpaths]
  unfold readTemplates
  refine (reading_readSlot t dir "database" _).exceptT_bind fun database hdatabase => ?_
  refine (reading_readSlot t dir "table" _).exceptT_bind fun table htable => ?_
  refine (reading_readSlot t dir "row" _).exceptT_bind fun row hrow => ?_
  refine (reading_readSlot t dir "enumeration" _).exceptT_bind fun enumeration henumeration => ?_
  refine (reading_readAll t dir "package" _).exceptT_bind fun packageFiles hpackage => ?_
  exact .pure ⟨hdatabase, htable, hrow, henumeration, hpackage⟩

end TemplatePackage

end

/-! ## Checking and reading -/

theorem FileSlots.fault?_eq_some {slots : FileSlots} {violation : Violation}
    (h : slots.fault? = some violation) :
    ∃ before slot path after, slots.paths = before ++ (slot, path) :: after ∧
      violation = .unsafePath slot path ∧ path.isPlain = false ∧
      ∀ declared ∈ before, declared.2.isPlain = true := by
  obtain ⟨⟨slot, path⟩, hfind, rfl⟩ := Option.map_eq_some_iff.mp h
  obtain ⟨hpath, before, after, hpaths, hbefore⟩ := List.find?_eq_some_iff_append.mp hfind
  exact ⟨before, slot, path, after, hpaths, rfl, by simpa using hpath, by simpa using hbefore⟩

/-- What loading a package for a manifest comes to: the templates, the first declared path that
cannot be read although all are accepted, or the first one that is not accepted. -/
inductive LoadOutcome (t : FileTree) (dir : Path) (manifest : Manifest) :
    Except LoadError TemplatePackage → Prop
  | loaded {templates : TemplateSet}
    (hplain : ∀ declared ∈ manifest.files.paths, declared.2.isPlain = true)
    (hreadable : ∀ declared ∈ manifest.files.paths, Readable t dir declared.2)
    (htemplates : templates.LoadedFrom t dir manifest.files) :
    LoadOutcome t dir manifest (.ok { dir, manifest, templates })
  | missing {before after : List (String × Path)} {slot : String} {path : Path} {fault : FileFault}
    (hplain : ∀ declared ∈ manifest.files.paths, declared.2.isPlain = true)
    (hpaths : manifest.files.paths = before ++ (slot, path) :: after)
    (hfault : t.readText (dir.join path) = .error fault)
    (hbefore : ∀ declared ∈ before, Readable t dir declared.2) :
    LoadOutcome t dir manifest (.error (.missingTemplate slot (dir.join path) fault))
  | refused {before after : List (String × Path)} {slot : String} {path : Path}
    (hpaths : manifest.files.paths = before ++ (slot, path) :: after)
    (hpath : path.isPlain = false)
    (hbefore : ∀ declared ∈ before, declared.2.isPlain = true) :
    LoadOutcome t dir manifest (.error (.invalid (.unsafePath slot path) none))

theorem exists_loadOutcome (t : FileTree) (dir : Path) (manifest : Manifest) :
    ∃ result, (TemplatePackage.ofManifest dir manifest : StateM FileTree _) t = (result, t) ∧
      LoadOutcome t dir manifest result := by
  unfold TemplatePackage.ofManifest
  cases hfault : manifest.files.fault? with
  | some violation =>
    obtain ⟨before, slot, path, after, hpaths, rfl, hpath, hbefore⟩ :=
      FileSlots.fault?_eq_some hfault
    exact ⟨_, rfl, .refused hpaths hpath hbefore⟩
  | none =>
    have hplain : ∀ declared ∈ manifest.files.paths, declared.2.isPlain = true := fun declared h =>
      FileSlots.isPlain_of_fault? hfault _ (List.mem_map_of_mem h)
    obtain ⟨result, hresult, hread⟩ :=
      TemplatePackage.reading_readTemplates t dir manifest.files
    simp only [Generator.bind_apply, hresult]
    cases hread with
    | all hpost => exact ⟨_, rfl, .loaded hplain hpost.2 hpost.1⟩
    | missing hpaths hmissing hbefore => exact ⟨_, rfl, .missing hplain hpaths hmissing hbefore⟩

namespace Path

/-- A path is plain by the texts between its slashes: it does not begin with a slash, the first text
is not that of the current folder, none goes up, and one of them counts. -/
theorem isPlain_iff_segments {p : Path} :
    p.isPlain = true ↔ p.text.toList.head? ≠ some '/' ∧ p.segments.head? ≠ some "." ∧
      ".." ∉ p.segments ∧ ∃ segment ∈ p.segments, segment ≠ "" ∧ segment ≠ "." := by
  have habsolute : p.isAbsolute = false ↔ p.text.toList.head? ≠ some '/' := by simp [isAbsolute]
  have hcounted : p.names ≠ [] ↔ ∃ segment ∈ p.segments, segment ≠ "" ∧ segment ≠ "." := by
    simp [names, counted, skipped, List.filter_eq_nil_iff]
  rw [isPlain_iff_names, downward_iff, habsolute, hcounted, and_assoc, and_assoc]

end Path

/-- **Loading is exact and checks before it reads.** Loading leaves the tree alone and comes to one
of three outcomes: the templates, each slot filled exactly if a path is declared for it, with this
path and the whole text of the file there; the first declared path that cannot be read, all of them
being accepted; or the first declared path that is not accepted. It succeeds exactly if every
declared path is made of names, at least one, and every file can be read as UTF-8. Which paths are
accepted can be told from the texts between the slashes. -/
theorem TemplatePackage.ofManifest_outcome (t : FileTree) (dir : Path) (manifest : Manifest) :
    (∃ result, (ofManifest dir manifest : StateM FileTree _) t = (result, t) ∧
      LoadOutcome t dir manifest result) ∧
    ((∃ package, ((ofManifest dir manifest : StateM FileTree _) t).1 = .ok package) ↔
      ∀ declared ∈ manifest.files.paths,
        (declared.2.components ≠ [] ∧ ∀ c ∈ declared.2.components, ∃ name, c = .normal name) ∧
        ∃ text, t.Holds (dir.join declared.2) text) ∧
    ∀ path : Path, path.isPlain = true ↔ path.text.toList.head? ≠ some '/' ∧
      path.segments.head? ≠ some "." ∧ ".." ∉ path.segments ∧
      ∃ segment ∈ path.segments, segment ≠ "" ∧ segment ≠ "." := by
  refine ⟨exists_loadOutcome t dir manifest, ?_, fun path => Path.isPlain_iff_segments⟩
  obtain ⟨result, hresult, houtcome⟩ := exists_loadOutcome t dir manifest
  rw [hresult]
  constructor
  · rintro ⟨package, rfl⟩
    cases houtcome with
    | loaded hplain hreadable htemplates =>
      exact fun declared h => ⟨Path.isPlain_iff.mp (hplain declared h), hreadable declared h⟩
  · intro h
    cases houtcome with
    | loaded hplain hreadable htemplates => exact ⟨_, rfl⟩
    | missing hplain hpaths hfault hbefore =>
      obtain ⟨-, text, htext⟩ := h _ (hpaths ▸ List.mem_append_right _ List.mem_cons_self)
      rw [FileTree.readText_eq_ok_iff.mpr htext] at hfault
      cases hfault
    | refused hpaths hpath hbefore =>
      have hplain := Path.isPlain_iff.mpr
        (h _ (hpaths ▸ List.mem_append_right _ List.mem_cons_self)).1
      rw [hpath] at hplain
      cases hplain

/-- The path that leads out is reported, although the table template before it is missing. -/
example : (TemplatePackage.ofManifest ⟨"kit"⟩
    { files := { table := some ⟨"Table.txt"⟩, package := [⟨"a/./b.txt"⟩, ⟨"../c.txt"⟩] } } :
      StateM FileTree _) ⟨[], []⟩ =
    (.error (.invalid (.unsafePath "package" ⟨"../c.txt"⟩) none), ⟨[], []⟩) := by
  rfl

end TableForge
