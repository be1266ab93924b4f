import TableForge.Proofs.Template.Loading

/-!
# What loading a package reads

Loading is followed on a disk that notes every request to read together with its answer. A package
reads its manifest and then the templates that the manifest names, one request per name, each at the
directory of the package joined with the name; and the text of a template is the answer to its
request. Since all names are checked before the first template is read, every request but that for
the manifest is made for a plain name.
-/
namespace TableForge

/-- What was asked to be read, with the answers, in the order of the requests. -/
abbrev ReadLog := List (Path × Except FileFault String)

/-- Requests to a disk under notes of what is read. -/
def Watched (m : Type → Type) : Type → Type := StateT ReadLog m

namespace Watched

variable {m : Type → Type} [Monad m]

instance : Monad (Watched m) := inferInstanceAs (Monad (StateT ReadLog m))

/-- A disk that notes what it is asked to read and passes every request on. -/
instance [Disk m] : Disk (Watched m) where
  isFolder path := StateT.lift (Disk.isFolder path)
  readText path := fun log => do
    let answer ← Disk.readText path
    return (answer, log ++ [(path, answer)])
  clear path := StateT.lift (Disk.clear path)
  write path text := StateT.lift (Disk.write path text)

/-- What a run does from a state on: its result and what it has read, and the state behind it. -/
def start {σ α : Type} (run : Watched (StateM σ) α) (s : σ) : (α × ReadLog) × σ :=
  run [] s

end Watched

/-! ## Runs and what they read -/

variable {σ α β : Type}

/-- A watched run ends as the run itself does, whatever was noted before; `post` relates the result
to what was read. -/
def Reads (run : StateM σ α) (watched : Watched (StateM σ) α) (post : α → ReadLog → Prop) : Prop :=
  ∀ (log : ReadLog) (s : σ), ∃ read,
    watched log s = (((run s).1, log ++ read), (run s).2) ∧ post (run s).1 read

namespace Reads

theorem pure {post : α → ReadLog → Prop} {a : α} (h : post a []) :
    Reads (σ := σ) (Pure.pure a) (Pure.pure a) post := by
  intro log s
  refine ⟨[], ?_, h⟩
  rw [List.append_nil]
  rfl

theorem readText [Disk (StateM σ)] {post : Except FileFault String → ReadLog → Prop} {path : Path}
    (h : ∀ answer, post answer [(path, answer)]) :
    Reads (Disk.readText path : StateM σ _) (Disk.readText path) post := by
  intro log s
  exact ⟨[(path, ((Disk.readText path : StateM σ _) s).1)], rfl, h _⟩

theorem bind {run : StateM σ α} {watched : Watched (StateM σ) α} {mid : α → ReadLog → Prop}
    {rest : α → StateM σ β} {watchedRest : α → Watched (StateM σ) β} {post : β → ReadLog → Prop}
    (hrun : Reads run watched mid)
    (hrest : ∀ a read, mid a read →
      Reads (rest a) (watchedRest a) fun b more => post b (read ++ more)) :
    Reads (run >>= rest) (watched >>= watchedRest) post := by
  intro log s
  obtain ⟨read, hwatched, hmid⟩ := hrun log s
  obtain ⟨more, hmore, hpost⟩ := hrest _ read hmid (log ++ read) (run s).2
  refine ⟨read ++ more, ?_, hpost⟩
  have hstep : (watched >>= watchedRest) log s =
      watchedRest (watched log s).1.1 (watched log s).1.2 (watched log s).2 := rfl
  rw [hstep, hwatched, hmore, List.append_assoc]
  rfl

theorem mono {run : StateM σ α} {watched : Watched (StateM σ) α} {mid post : α → ReadLog → Prop}
    (h : Reads run watched mid) (himp : ∀ a read, mid a read → post a read) :
    Reads run watched post := by
  intro log s
  obtain ⟨read, hwatched, hmid⟩ := h log s
  exact ⟨read, hwatched, himp _ _ hmid⟩

end Reads

/-! ## Templates -/

/-- The note of a template that was read. -/
def TemplateFile.note (dir : Path) (t : TemplateFile) : Path × Except FileFault String :=
  (dir.join t.fileName, .ok t.contents)

/-- What is read for a part of a package that names `paths`, when the templates `before` were read
already: nothing but these paths in the directory, and if all of it can be read, the texts of the
templates that come out. -/
structure FromPackage (dir : Path) (paths : List Path) (before : List TemplateFile)
    (templates : α → List TemplateFile) (result : Except LoadError α) (read : ReadLog) : Prop where
  inside : ∀ entry ∈ read, ∃ path ∈ paths, entry.1 = dir.join path
  complete : ∀ a, result = .ok a →
    before.map (TemplateFile.note dir) ++ read = (templates a).map (TemplateFile.note dir)

namespace FromPackage

variable {dir : Path} {before : List TemplateFile} {paths more : List Path}
  {templates : α → List TemplateFile} {part : β → List TemplateFile}

theorem error (e : LoadError) : FromPackage dir paths before templates (.error e) [] :=
  ⟨by simp, fun a h => by cases h⟩

theorem reads_ok {a : α} (h : before = templates a) :
    Reads (σ := σ) (pure (.ok a)) (pure (.ok a)) (FromPackage dir paths before templates) :=
  .pure ⟨by simp, fun b hb => by cases hb; rw [List.append_nil, h]⟩

/-- One part after another: the second is read if the first could be. -/
theorem reads_bind {run : StateM σ (Except LoadError β)}
    {watched : Watched (StateM σ) (Except LoadError β)}
    {rest : Except LoadError β → StateM σ (Except LoadError α)}
    {watchedRest : Except LoadError β → Watched (StateM σ) (Except LoadError α)}
    (hrun : Reads run watched (FromPackage dir paths [] part))
    (herror : ∀ e, rest (.error e) = pure (.error e))
    (hwatched : ∀ e, watchedRest (.error e) = pure (.error e))
    (hrest : ∀ b, Reads (rest (.ok b)) (watchedRest (.ok b))
      (FromPackage dir more (before ++ part b) templates)) :
    Reads (run >>= rest) (watched >>= watchedRest)
      (FromPackage dir (paths ++ more) before templates) := by
  refine hrun.bind fun result read hread => ?_
  have hinside : ∀ entry ∈ read, ∃ path ∈ paths ++ more, entry.1 = dir.join path := by
    intro entry hentry
    obtain ⟨path, hpath, he⟩ := hread.inside entry hentry
    exact ⟨path, List.mem_append_left _ hpath, he⟩
  cases result with
  | error e =>
    rw [herror, hwatched]
    exact .pure ⟨by simpa using hinside, fun a h => by cases h⟩
  | ok b =>
    refine (hrest b).mono fun result next hnext => ⟨?_, fun a ha => ?_⟩
    · refine List.forall_mem_append.mpr ⟨hinside, fun entry hentry => ?_⟩
      obtain ⟨path, hpath, he⟩ := hnext.inside entry hentry
      exact ⟨path, List.mem_append_right _ hpath, he⟩
    · have hpart : read = (part b).map (TemplateFile.note dir) := hread.complete b rfl
      rw [← hnext.complete a ha, hpart, List.map_append, List.append_assoc]

theorem reads_exceptT_bind {run : ExceptT LoadError (StateM σ) β}
    {watched : ExceptT LoadError (Watched (StateM σ)) β}
    {rest : β → ExceptT LoadError (StateM σ) α}
    {watchedRest : β → ExceptT LoadError (Watched (StateM σ)) α}
    (hrun : Reads run.run watched.run (FromPackage dir paths [] part))
    (hrest : ∀ b, Reads (rest b).run (watchedRest b).run
      (FromPackage dir more (before ++ part b) templates)) :
    Reads (run >>= rest).run (watched >>= watchedRest).run
      (FromPackage dir (paths ++ more) before templates) := by
  show Reads (run.run >>= ExceptT.bindCont rest) (watched.run >>= ExceptT.bindCont watchedRest) _
  exact reads_bind hrun (fun _ => rfl) (fun _ => rfl) hrest

/-- The last part: what comes out is made of what it read. -/
theorem reads_map {run : StateM σ (Except LoadError β)}
    {watched : Watched (StateM σ) (Except LoadError β)}
    {rest : Except LoadError β → StateM σ (Except LoadError α)}
    {watchedRest : Except LoadError β → Watched (StateM σ) (Except LoadError α)} (f : β → α)
    (hrun : Reads run watched (FromPackage dir paths [] part))
    (hrest : ∀ result, rest result = pure (result.map f))
    (hwatched : ∀ result, watchedRest result = pure (result.map f))
    (hpart : ∀ b, before ++ part b = templates (f b)) :
    Reads (run >>= rest) (watched >>= watchedRest) (FromPackage dir paths before templates) := by
  rw [← List.append_nil paths]
  refine reads_bind hrun (fun e => hrest _) (fun e => hwatched _) fun b => ?_
  rw [hrest, hwatched]
  exact reads_ok (hpart b)

end FromPackage

namespace TemplatePackage

variable [Disk (StateM σ)] (dir : Path) (slot : String)

theorem reads_readTemplate (path : Path) :
    Reads (σ := σ) (readTemplate dir slot path) (readTemplate dir slot path)
      (FromPackage dir [path] [] fun t => [t]) := by
  have hread : Reads (σ := σ) (Disk.readText (dir.join path)) (Disk.readText (dir.join path))
      fun answer read => read = [(dir.join path, answer)] := .readText fun _ => rfl
  refine hread.bind ?_
  rintro (fault | text) read rfl
  · exact .pure ⟨by simp, fun t ht => by cases ht⟩
  · exact .pure ⟨by simp, fun t ht => by cases ht; rfl⟩

theorem reads_readSlot (path : Option Path) :
    Reads (σ := σ) (readSlot dir slot path) (readSlot dir slot path)
      (FromPackage dir path.toList [] Option.toList) := by
  cases path with
  | none => exact FromPackage.reads_ok rfl
  | some path =>
    refine FromPackage.reads_map some (reads_readTemplate dir slot path) ?_ ?_ fun _ => rfl
    · rintro (_ | _) <;> rfl
    · rintro (_ | _) <;> rfl

theorem reads_readAll (paths : List Path) :
    Reads (σ := σ) (readAll dir slot paths) (readAll dir slot paths)
      (FromPackage dir paths [] id) := by
  induction paths with
  | nil => exact FromPackage.reads_ok rfl
  | cons path rest ih =>
    rw [← List.singleton_append]
    refine FromPackage.reads_bind (reads_readTemplate dir slot path) (fun _ => rfl) (fun _ => rfl)
      fun t => ?_
    refine FromPackage.reads_map (t :: ·) ih ?_ ?_ fun _ => rfl
    · rintro (_ | _) <;> rfl
    · rintro (_ | _) <;> rfl

theorem reads_readTemplates (slots : FileSlots) :
    Reads (σ := σ) (readTemplates dir slots : ExceptT _ (StateM σ) _).run
      (readTemplates dir slots : ExceptT _ (Watched (StateM σ)) _).run
      (FromPackage dir (slots.paths.map Prod.snd) [] TemplateSet.all) := by
  have hpaths : slots.paths.map Prod.snd = slots.database.toList ++ (slots.table.toList ++
      (slots.row.toList ++ (slots.enumeration.toList ++ (slots.package ++ [])))) := by
    simp only [slots.map_snd_paths, List.append_assoc, List.append_nil]
  rw [hpaths]
  unfold readTemplates
  refine FromPackage.reads_exceptT_bind (reads_readSlot dir "database" _) fun database => ?_
  refine FromPackage.reads_exceptT_bind (reads_readSlot dir "table" _) fun table => ?_
  refine FromPackage.reads_exceptT_bind (reads_readSlot dir "row" _) fun row => ?_
  refine FromPackage.reads_exceptT_bind (reads_readSlot dir "enumeration" _) fun enumeration => ?_
  refine FromPackage.reads_exceptT_bind (reads_readAll dir "package" _) fun packageFiles => ?_
  exact FromPackage.reads_ok rfl

/-- All names are checked before the first template is read, so nothing is read for another name. -/
theorem reads_ofManifest (manifest : Manifest) :
    Reads (σ := σ) (ofManifest dir manifest) (ofManifest dir manifest) fun result read =>
      (∀ entry ∈ read, ∃ path : Path, path.isPlain = true ∧ entry.1 = dir.join path) ∧
      ∀ package, result = .ok package →
        read = package.templates.all.map (TemplateFile.note dir) := by
  unfold ofManifest
  cases hfault : manifest.files.fault? with
  | some violation => exact .pure ⟨by simp, fun package h => by cases h⟩
  | none =>
    have hplain := FileSlots.isPlain_of_fault? hfault
    refine (reads_readTemplates dir manifest.files).bind ?_
    intro result read hread
    have hinside : ∀ entry ∈ read, ∃ path : Path, path.isPlain = true ∧ entry.1 = dir.join path := by
      intro entry hentry
      obtain ⟨path, hpath, he⟩ := hread.inside entry hentry
      exact ⟨path, hplain path hpath, he⟩
    cases result with
    | error e => exact .pure ⟨by simpa using hinside, fun package h => by cases h⟩
    | ok templates =>
      refine .pure ⟨by simpa using hinside, fun package h => ?_⟩
      cases h
      rw [List.append_nil]
      exact hread.complete templates rfl

end TemplatePackage

end TableForge
