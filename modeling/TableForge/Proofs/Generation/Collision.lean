import TableForge.Dataset.Validation
import TableForge.Proofs.Generation.Destination
import TableForge.Proofs.Generation.Effect

/-!
# Names that fall together

The names of the tables of a dataset are kept apart, but files and members are named by what the
naming convention makes of them, and that drops separators and letter case. A class name can be read
off the path of its file: it is what stands before the first dot of the file name. So the files of
two tables go to the same place exactly in one pass and for tables whose names agree in Pascal case,
and members agree exactly where the names do in screaming snake case. While the names in Pascal case
are distinct, every file that a run creates for a table is there afterwards.
-/
namespace TableForge

open FileTree

namespace TemplateFile

theorem sibling_inj (t : TemplateFile) {stem other : String} (hstem : '/' ∉ stem.toList)
    (hother : '/' ∉ other.toList) : t.sibling stem = t.sibling other ↔ stem = other := by
  have habs {name : String} (hname : '/' ∉ name.toList) :
      (Path.mk (name ++ t.extension)).isAbsolute = false :=
    Path.isAbsolute_of_no_slash (by simp [hname, t.slash_not_mem_extension])
  rw [sibling, sibling, Path.join_right_inj (habs hstem) (habs hother), Path.mk.injEq,
    String.append_left_inj]

/-- Files beside different templates have the same place only if they have the same stem. -/
theorem stem_eq_of_names_eq {t t' : TemplateFile} (ht : t.fileName.isPlain = true)
    (ht' : t'.fileName.isPlain = true) {stem other : String}
    (hstem : ∀ separator ∈ Text.separators, separator ∉ stem.toList)
    (hother : ∀ separator ∈ Text.separators, separator ∉ other.toList)
    (hletter : ∃ c ∈ stem.toList, c ≠ '.') (hletter' : ∃ c ∈ other.toList, c ≠ '.')
    (h : (t.sibling stem).names = (t'.sibling other).names) : stem = other := by
  have hslash : '/' ∈ Text.separators := by decide
  have hdot : '.' ∈ Text.separators := by decide
  rw [(sibling_downward ht (hstem _ hslash) hletter).2,
    (sibling_downward ht' (hother _ hslash) hletter').2] at h
  have hlast : stem ++ t.extension = other ++ t'.extension := by
    simpa using (List.append_inj' h rfl).2
  have hstems := congrArg (fun name => name.toList.takeWhile (· ≠ '.')) hlast
  simp only [takeWhile_stem_extension _ (hstem _ hdot),
    takeWhile_stem_extension _ (hother _ hdot)] at hstems
  exact String.toList_inj.mp hstems

end TemplateFile

namespace Context

variable {ctx : Context} {pass other : PassKind} {ending ending' : String} {i j : Nat}
  {f f' : GeneratedFile}

theorem className_eq_of_append_eq {name name' : String} (hpass : pass.ending? = some ending)
    (hother : other.ending? = some ending')
    (h : Naming.pascalCase name ++ ending = Naming.pascalCase name' ++ ending') :
    pass = other ∧ Naming.pascalCase name = Naming.pascalCase name' := by
  have hne {p : PassKind} {e : String} (hp : p.ending? = some e) : e.toList ≠ [] := by
    cases p <;> cases hp <;> decide
  have hlast := congrArg (fun text => text.toList.getLast?) h
  simp only [String.toList_append, List.getLast?_append_of_ne_nil _ (hne hpass),
    List.getLast?_append_of_ne_nil _ (hne hother)] at hlast
  obtain rfl := PassKind.eq_of_ending? hpass hother hlast
  rw [hpass] at hother
  cases hother
  exact ⟨rfl, (String.append_left_inj _).mp h⟩

/-- Two files of one pass have the same path exactly if their tables have the same class name. -/
theorem path_eq_iff (hnaming : ctx.naming = .standard) (hpass : pass.ending? = some ending)
    (hi : (ctx.outcome pass).files[i]? = some f) (hj : (ctx.outcome pass).files[j]? = some f') :
    ∃ a b, ctx.dataset.tables[i]? = some a ∧ ctx.dataset.tables[j]? = some b ∧
      (f.path = f'.path ↔ Naming.pascalCase a.name = Naming.pascalCase b.name) := by
  obtain ⟨template, a, hslot, ha, hf⟩ := path_of_getElem?_files hpass hi
  obtain ⟨template', b, hslot', hb, hf'⟩ := path_of_getElem?_files hpass hj
  rw [hslot] at hslot'
  cases hslot'
  have hslash (name : String) : '/' ∉ (Naming.pascalCase name ++ ending).toList :=
    PassKind.separator_not_mem_className hpass (by decide) name
  refine ⟨a, b, ha, hb, ?_⟩
  rw [hf, hf', hnaming]
  exact (template.sibling_inj (hslash a.name) (hslash b.name)).trans (String.append_left_inj _)

/-- Files of tables that go to the same place come from one pass and belong to tables with one class
name, and then their paths are the same. -/
theorem same_class_of_names_eq (hnaming : ctx.naming = .standard)
    (hpass : pass.ending? = some ending) (hother : other.ending? = some ending')
    (ht : ∀ template, ctx.templates.slot pass = some template → template.fileName.isPlain = true)
    (ht' : ∀ template, ctx.templates.slot other = some template → template.fileName.isPlain = true)
    (hi : (ctx.outcome pass).files[i]? = some f) (hj : (ctx.outcome other).files[j]? = some f') :
    ∃ a b, ctx.dataset.tables[i]? = some a ∧ ctx.dataset.tables[j]? = some b ∧
      (f.path.names = f'.path.names →
        pass = other ∧ Naming.pascalCase a.name = Naming.pascalCase b.name) ∧
      (pass = other ∧ Naming.pascalCase a.name = Naming.pascalCase b.name → f.path = f'.path) := by
  obtain ⟨template, a, hslot, ha, hf⟩ := path_of_getElem?_files hpass hi
  obtain ⟨template', b, hslot', hb, hf'⟩ := path_of_getElem?_files hother hj
  rw [hnaming] at hf hf'
  refine ⟨a, b, ha, hb, ?_, ?_⟩
  · intro hnames
    rw [hf, hf'] at hnames
    exact className_eq_of_append_eq hpass hother <|
      TemplateFile.stem_eq_of_names_eq (ht template hslot) (ht' template' hslot')
        (fun _ hsep => PassKind.separator_not_mem_className hpass hsep a.name)
        (fun _ hsep => PassKind.separator_not_mem_className hother hsep b.name)
        (PassKind.exists_mem_className hpass a.name) (PassKind.exists_mem_className hother b.name)
        hnames
  · rintro ⟨rfl, hclass⟩
    rw [hpass] at hother
    rw [hslot] at hslot'
    cases hother
    cases hslot'
    have hstem : Naming.standard.className a.name = Naming.standard.className b.name := hclass
    rw [hf, hf', hstem]

end Context

/-- The last content that is written at a location counts. -/
theorem FileTree.lastContent?_eq_some {before after : List (Location × ByteArray)} {loc : Location}
    {content : ByteArray} (h : ∀ file ∈ after, file.1 ≠ loc) :
    lastContent? (before ++ (loc, content) :: after) loc = some content := by
  have hafter : lastContent? after loc = none := by
    cases hlast : lastContent? after loc with
    | none => rfl
    | some other => exact absurd rfl (h _ (mem_of_lastContent? hlast))
  rw [List.append_cons, lastContent?_append, lastContent?_append, hafter,
    lastContent?_singleton, if_pos rfl]
  rfl

namespace Generator

variable {g : Generator} {pass : PassKind} {ending : String} {f other : GeneratedFile}

/-- All files of a run are put below the same folders. -/
theorem exists_names_inside (hpackage : g.config.packageFolders = true →
    g.config.packagePath.Downward) :
    ∃ front : List String, ∀ path : Path, path.Downward →
      ((g.config.outputRoot ⟨""⟩).join path).names = front ++ path.names := by
  unfold Config.outputRoot
  split
  · next hfolders =>
    rw [Path.empty_join]
    exact ⟨g.config.packagePath.names, fun path hpath =>
      Path.names_join (hpackage hfolders) hpath⟩
  · exact ⟨[], fun path _ => by rw [Path.empty_join, List.nil_append]⟩

/-- The passes that name no files after classes. -/
theorem mem_of_ending?_eq_none (hpass : pass.ending? = none)
    (hf : f ∈ (g.context.outcome pass).files) :
    f ∈ (g.context.outcome .database).files ++ (g.context.outcome .package).files := by
  cases pass with
  | database => exact List.mem_append_left _ hf
  | package => exact List.mem_append_right _ hf
  | enumeration => cases hpass
  | row => cases hpass
  | table => cases hpass

/-- Behind a file of a pass come later files of this pass and files of other passes. -/
theorem exists_files_eq_append {i : Nat} (hi : (g.context.outcome pass).files[i]? = some f) :
    ∃ before after, g.files = before ++ f :: after ∧
      ∀ other ∈ after, (∃ j, i < j ∧ (g.context.outcome pass).files[j]? = some other) ∨
        ∃ pass', pass' ≠ pass ∧ other ∈ (g.context.outcome pass').files := by
  obtain ⟨earlier, later, hall⟩ := List.append_of_mem pass.mem_all
  have hnodup : (earlier ++ pass :: later).Nodup := hall ▸ (by decide : PassKind.all.Nodup)
  have hnot : pass ∉ later := (List.nodup_cons.mp (List.nodup_append.mp hnodup).2.1).1
  obtain ⟨hlt, hget⟩ := List.getElem?_eq_some_iff.mp hi
  have hcut : (g.context.outcome pass).files =
      (g.context.outcome pass).files.take i ++ f :: (g.context.outcome pass).files.drop (i + 1) := by
    rw [← hget, ← List.drop_eq_getElem_cons hlt, List.take_append_drop]
  have hfiles : g.files = PassKind.all.flatMap fun pass => (g.context.outcome pass).files := by
    simp [files, outcomes, Context.outcomes, List.flatMap_map]
  refine ⟨(earlier.flatMap fun pass => (g.context.outcome pass).files) ++
      (g.context.outcome pass).files.take i, (g.context.outcome pass).files.drop (i + 1) ++
      later.flatMap fun pass => (g.context.outcome pass).files, ?_, ?_⟩
  · rw [hfiles, hall, List.flatMap_append, List.flatMap_cons]
    conv_lhs => rw [hcut]
    simp only [List.append_assoc, List.cons_append]
  · intro other hother
    rcases List.mem_append.mp hother with hother | hother
    · obtain ⟨k, hk⟩ := List.mem_iff_getElem?.mp hother
      rw [List.getElem?_drop] at hk
      exact Or.inl ⟨i + 1 + k, by omega, hk⟩
    · obtain ⟨pass', hmem, hother⟩ := List.mem_flatMap.mp hother
      exact Or.inr ⟨pass', fun he => hnot (he ▸ hmem), hother⟩

/-- The file of the last table with a class name is what a completed run leaves in its place, unless
this is the place of a file without a class. -/
theorem last_file_of_writeTo {t t' : FileTree} {output : Path} {folder : Location}
    {report : WriteReport} {i : Nat} {a : Table} (hnaming : g.naming = .standard)
    (htemplates : ∀ template ∈ g.templates.all, template.fileName.isPlain = true)
    (hpackage : g.config.packageFolders = true → g.config.packagePath.Downward)
    (hwf : t.WellFormed) (hfind : t.find output = .ok (folder, .folder))
    (hstays : g.files ≠ [] → (t.cleared folder).find output = .ok (folder, .folder))
    (hrun : (g.writeTo output : StateM FileTree _) t = (.ok report, t'))
    (hc : report.status = .completed) (hpass : pass.ending? = some ending)
    (hi : (g.context.outcome pass).files[i]? = some f) (ha : g.dataset.tables[i]? = some a)
    (hlast : ∀ j b, i < j → g.dataset.tables[j]? = some b →
      Naming.pascalCase b.name ≠ Naming.pascalCase a.name)
    (hsingle : ∀ other ∈ (g.context.outcome .database).files ++ (g.context.outcome .package).files,
      other.path.names ≠ f.path.names) :
    t'.node? (folder ++ ((g.config.outputRoot ⟨""⟩).join f.path).names) =
      some (.file f.content.toUTF8) := by
  have hdown : ∀ f ∈ g.files, f.path.Downward := fun f hf =>
    (Path.isPlain_iff_names.mp (isPlain_of_mem_files hnaming htemplates f hf)).1
  have hplain (pass : PassKind) (template : TemplateFile)
      (hslot : g.context.templates.slot pass = some template) : template.fileName.isPlain = true :=
    htemplates template (TemplateSet.mem_all_of_slot hslot)
  obtain ⟨mid, -, -, hwritten⟩ := writeTo_written hwf hfind hstays hdown hpackage hrun hc
  obtain ⟨front, hfront⟩ := exists_names_inside hpackage
  obtain ⟨before, after, hfiles, hafter⟩ := exists_files_eq_append hi
  have hf : f ∈ g.files := by simp [hfiles]
  refine hwritten.file _ _ ?_
  rw [destinations_preview, hfiles, List.map_append, List.map_cons]
  refine lastContent?_eq_some fun file hfile hloc => ?_
  obtain ⟨other, hother, rfl⟩ := List.mem_map.mp hfile
  have hmem : other ∈ g.files := by simp [hfiles, hother]
  have hnames : other.path.names = f.path.names := by
    simpa only [List.append_cancel_left_eq, hfront _ (hdown _ hmem), hfront _ (hdown _ hf)]
      using hloc
  rcases hafter other hother with ⟨j, hij, hj⟩ | ⟨pass', hne, hmem'⟩
  · obtain ⟨b, a', hb, ha', hclass, -⟩ := Context.same_class_of_names_eq hnaming hpass hpass
      (hplain pass) (hplain pass) hj hi
    have hsame : a = a' := Option.some.inj (ha.symm.trans ha')
    exact hlast j b hij hb (hsame ▸ (hclass hnames).2)
  · cases hending : pass'.ending? with
    | none => exact hsingle other (mem_of_ending?_eq_none hending hmem') hnames
    | some ending' =>
      obtain ⟨j, hj⟩ := List.mem_iff_getElem?.mp hmem'
      obtain ⟨b, a', -, -, hclass, -⟩ := Context.same_class_of_names_eq hnaming hending hpass
        (hplain pass') (hplain pass) hj hi
      exact hne (hclass hnames).1

/-- **When generated names are apart.** Under the standard names two files of a pass that renders a
file for every table have the same path exactly if the names of their tables agree in Pascal case,
and the members of the database file are distinct exactly if the names are in screaming snake case.
If no two names agree in Pascal case, a completed run leaves every file of a table below the output
folder with its own content, unless a database or package file has the same place. -/
theorem generated_names_apart_iff (hnaming : g.naming = .standard) :
    (∀ pass ∈ [PassKind.enumeration, .row, .table], ∀ (i j : Nat) (f f' : GeneratedFile),
      (g.context.outcome pass).files[i]? = some f → (g.context.outcome pass).files[j]? = some f' →
      ∃ a b, g.dataset.tables[i]? = some a ∧ g.dataset.tables[j]? = some b ∧
        (f.path = f'.path ↔ Naming.pascalCase a.name = Naming.pascalCase b.name)) ∧
    ((g.dataset.tables.map (Database.memberName g.context)).Nodup ↔
      (g.dataset.tables.map fun table => Naming.screamingSnakeCase table.name).Nodup) ∧
    ∀ (t t' : FileTree) (output : Path) (folder : Location) (report : WriteReport),
      t.WellFormed → t.find output = .ok (folder, .folder) →
      (g.files ≠ [] → (t.cleared folder).find output = .ok (folder, .folder)) →
      (∀ template ∈ g.templates.all, template.fileName.isPlain = true) →
      (g.config.packageFolders = true → g.config.packagePath.Downward) →
      (g.writeTo output : StateM FileTree _) t = (.ok report, t') → report.status = .completed →
      (g.dataset.tables.map fun table => Naming.pascalCase table.name).Nodup →
      ∀ pass ∈ [PassKind.enumeration, .row, .table], ∀ f ∈ (g.context.outcome pass).files,
        (∀ other ∈ (g.context.outcome .database).files ++ (g.context.outcome .package).files,
          other.path.names ≠ f.path.names) →
        t'.node? (folder ++ ((g.config.outputRoot ⟨""⟩).join f.path).names) =
          some (.file f.content.toUTF8) := by
  have hending : ∀ pass ∈ [PassKind.enumeration, .row, .table],
      ∃ ending, pass.ending? = some ending := by simp [PassKind.ending?]
  refine ⟨?_, ?_, ?_⟩
  · intro pass hpass i j f f' hi hj
    obtain ⟨ending, hending⟩ := hending pass hpass
    exact Context.path_eq_iff hnaming hending hi hj
  · have hmember : Database.memberName g.context =
        fun table => Naming.screamingSnakeCase table.name := by
      have hcontext : g.context.naming = .standard := hnaming
      funext table
      rw [Database.memberName, hcontext]
      rfl
    rw [hmember]
  · intro t t' output folder report hwf hfind hstays htemplates hpackage hrun hc hdistinct pass
      hpass f hf hsingle
    obtain ⟨ending, hending⟩ := hending pass hpass
    obtain ⟨i, hi⟩ := List.mem_iff_getElem?.mp hf
    obtain ⟨-, a, -, ha, -⟩ := Context.path_of_getElem?_files hending hi
    refine last_file_of_writeTo hnaming htemplates hpackage hwf hfind hstays hrun hc hending hi ha
      (fun j b hij hb hclass => ?_) hsingle
    have ha : g.dataset.tables[i]? = some a := ha
    have hlength : i < (g.dataset.tables.map fun table => Naming.pascalCase table.name).length := by
      rw [List.length_map]
      exact (List.getElem?_eq_some_iff.mp ha).1
    have hplaces : i = j := by
      refine (List.getElem?_inj hlength hdistinct).mp ?_
      rw [List.getElem?_map, List.getElem?_map, ha, hb, Option.map_some, Option.map_some, hclass]
    omega

/-- A generator over two tables without rows, with a file for each that says the table's name. -/
def pairSample (first second : String) : Generator where
  config := {}
  dataset := {
    package := none
    tables := [{ name := first, fields := [], rows := [] },
      { name := second, fields := [], rows := [] }] }
  templates := { table := some ⟨⟨"Table.txt"⟩, "TABLE_NAME"⟩ }
  renderer := FragmentPatterns.renderer {
    newClassInstance := some "new \x7bname\x7d(\x7bvalue\x7d)"
    localVariable := some "\x7btype\x7d \x7bname\x7d = \x7bvalue\x7d;" }
  types := .empty
  replacements := []
  naming := .standard

theorem generated_names_apart_iff_pair :
    ∃ report tree, (pairSample "item" "item_kind").naming = .standard ∧
      staleTree.WellFormed ∧
      ((pairSample "item" "item_kind").writeTo ⟨"out"⟩ : StateM FileTree _) staleTree =
        (.ok report, tree) ∧
      report.status = .completed ∧
      tree.node? ["out", "ItemTable.txt"] = some (.file "item".toUTF8) ∧
      tree.node? ["out", "ItemKindTable.txt"] = some (.file "item_kind".toUTF8) := by
  have hwf : staleTree.WellFormed := by decide
  have hresult : (((pairSample "item" "item_kind").writeTo ⟨"out"⟩ : StateM FileTree _)
      staleTree).1 = .ok ((pairSample "item" "item_kind").completed ⟨"out"⟩) := by decide +kernel
  have hfiles : ((pairSample "item" "item_kind").context.outcome .table).files =
      [⟨"ItemTable.txt", ⟨"ItemTable.txt"⟩, "item"⟩,
        ⟨"ItemKindTable.txt", ⟨"ItemKindTable.txt"⟩, "item_kind"⟩] := by decide +kernel
  have hdistinct : ((pairSample "item" "item_kind").dataset.tables.map fun table =>
      Naming.pascalCase table.name).Nodup := by decide +kernel
  obtain ⟨tree, hrun⟩ := exists_state hresult
  obtain ⟨-, -, hleft⟩ := @generated_names_apart_iff (pairSample "item" "item_kind") rfl
  have hnode := hleft staleTree tree ⟨"out"⟩ ["out"] _ hwf rfl (fun _ => rfl) (by decide +kernel)
    (by decide) hrun rfl hdistinct .table (by decide)
  rw [hfiles] at hnode
  refine ⟨_, tree, rfl, hwf, hrun, rfl, ?_, ?_⟩
  · exact hnode _ List.mem_cons_self (by decide +kernel)
  · exact hnode _ (List.mem_cons_of_mem _ List.mem_cons_self) (by decide +kernel)

/-- Two tables whose names differ in separators and letter case only. -/
def clashSource : Source where
  text := "[[tables]]\nname = 'item_kind'\n[[tables]]\nname = 'ItemKind'\n"
  fileName := "data.toml"

/-- Distinct names of tables are not enough: the file of the second table takes the place of the
first one's, both are reported as created, and the members are the same. -/
theorem generated_names_collide :
    ∃ first second report tree,
      Dataset.ofSource clashSource = .ok (pairSample "item_kind" "ItemKind").dataset ∧
      ((pairSample "item_kind" "ItemKind").dataset.tables.map Table.name).Nodup ∧
      (pairSample "item_kind" "ItemKind").naming = .standard ∧
      ((pairSample "item_kind" "ItemKind").context.outcome .table).files = [first, second] ∧
      first.path = second.path ∧ first.content ≠ second.content ∧
      ((pairSample "item_kind" "ItemKind").writeTo ⟨"out"⟩ : StateM FileTree _) staleTree =
        (.ok report, tree) ∧
      report.status = .completed ∧
      report.written = [⟨"out/ItemKindTable.txt"⟩, ⟨"out/ItemKindTable.txt"⟩] ∧
      tree.readText ⟨"out/ItemKindTable.txt"⟩ = .ok second.content ∧
      ¬ ((pairSample "item_kind" "ItemKind").dataset.tables.map
        (Database.memberName (pairSample "item_kind" "ItemKind").context)).Nodup := by
  have hresult : (((pairSample "item_kind" "ItemKind").writeTo ⟨"out"⟩ : StateM FileTree _)
      staleTree).1 = .ok ((pairSample "item_kind" "ItemKind").completed ⟨"out"⟩) := by
    decide +kernel
  have hread : (((pairSample "item_kind" "ItemKind").writeTo ⟨"out"⟩ : StateM FileTree _)
      staleTree).2.readText ⟨"out/ItemKindTable.txt"⟩ = .ok "ItemKind" := by decide +kernel
  obtain ⟨tree, hrun⟩ := exists_state hresult
  rw [hrun] at hread
  exact ⟨⟨"ItemKindTable.txt", ⟨"ItemKindTable.txt"⟩, "item_kind"⟩,
    ⟨"ItemKindTable.txt", ⟨"ItemKindTable.txt"⟩, "ItemKind"⟩, _, tree, by decide +kernel,
    by decide, rfl, by decide +kernel, rfl, by decide, hrun, rfl, by decide +kernel, hread,
    by decide +kernel⟩

end Generator

end TableForge
