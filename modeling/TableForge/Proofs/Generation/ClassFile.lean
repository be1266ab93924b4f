import TableForge.Proofs.Generation.Collision

/-!
# Files of tables and their class names

Three passes name a file after every table: by its class name, with an ending that is the pass's own.
The name of such a file can be taken apart again, whatever the table and the template are called, for
a class name has no dot. So two of these files are in each other's way only if they come from one
pass and their tables have one class name. Of several tables with one class name a run leaves the
file of the last one.
-/
namespace TableForge

open FileTree

namespace Context

variable {ctx : Context} {pass : PassKind} {ending : String} {i : Nat} {f : GeneratedFile}

theorem downward_of_getElem?_files (hnaming : ctx.naming = .standard)
    (hpass : pass.ending? = some ending)
    (ht : ∀ template, ctx.templates.slot pass = some template → template.fileName.isPlain = true)
    (hi : (ctx.outcome pass).files[i]? = some f) : f.path.Downward := by
  obtain ⟨template, table, hslot, -, hf⟩ := path_of_getElem?_files hpass hi
  rw [hf, hnaming]
  exact (TemplateFile.sibling_downward (ht template hslot)
    (PassKind.separator_not_mem_className hpass (by decide) table.name)
    (PassKind.exists_mem_className hpass table.name)).1

end Context

namespace Generator

variable {g : Generator}

/-- **Files of tables collide only through class names.** Under the standard names and with plain names
of templates, a file that the enumeration, the row or the table pass makes of a table has the same
path as another such file, or a path to the same place, exactly if both come from one pass and the
names of their tables agree in Pascal case. So what a completed run leaves in the place of such a
file is the file of the last table with this class name in the same pass, unless a database or
package file has the same place. -/
theorem class_files_collide_iff (hnaming : g.naming = .standard)
    (htemplates : ∀ pass ∈ [PassKind.enumeration, .row, .table], ∀ template,
      g.templates.slot pass = some template → template.fileName.isPlain = true) :
    (∀ pass ∈ [PassKind.enumeration, .row, .table],
      ∀ other ∈ [PassKind.enumeration, .row, .table], ∀ (i j : Nat) (f f' : GeneratedFile),
      (g.context.outcome pass).files[i]? = some f → (g.context.outcome other).files[j]? = some f' →
      ∃ a b, g.dataset.tables[i]? = some a ∧ g.dataset.tables[j]? = some b ∧
        (f.path = f'.path ↔
          pass = other ∧ Naming.pascalCase a.name = Naming.pascalCase b.name) ∧
        (f.path.components = f'.path.components ↔
          pass = other ∧ Naming.pascalCase a.name = Naming.pascalCase b.name)) ∧
    ∀ (t t' : FileTree) (output : Path) (folder : Location) (report : WriteReport),
      t.WellFormed → t.find output = .ok (folder, .folder) →
      (g.files ≠ [] → (t.cleared folder).find output = .ok (folder, .folder)) →
      (∀ template ∈ g.templates.all, template.fileName.isPlain = true) →
      (g.config.packageFolders = true → g.config.packagePath.Downward) →
      (g.writeTo output : StateM FileTree _) t = (.ok report, t') → report.status = .completed →
      ∀ pass ∈ [PassKind.enumeration, .row, .table], ∀ (i : Nat) (f : GeneratedFile) (a : Table),
        (g.context.outcome pass).files[i]? = some f → g.dataset.tables[i]? = some a →
        (∀ j b, i < j → g.dataset.tables[j]? = some b →
          Naming.pascalCase b.name ≠ Naming.pascalCase a.name) →
        (∀ other ∈ (g.context.outcome .database).files ++ (g.context.outcome .package).files,
          other.path.names ≠ f.path.names) →
        t'.node? (folder ++ ((g.config.outputRoot ⟨""⟩).join f.path).names) =
          some (.file f.content.toUTF8) := by
  have hending : ∀ pass ∈ [PassKind.enumeration, .row, .table],
      ∃ ending, pass.ending? = some ending := by simp [PassKind.ending?]
  refine ⟨?_, ?_⟩
  · intro pass hpass other hother i j f f' hi hj
    obtain ⟨ending, hpass'⟩ := hending pass hpass
    obtain ⟨ending', hother'⟩ := hending other hother
    obtain ⟨a, b, ha, hb, hclass, hpath⟩ := Context.same_class_of_names_eq hnaming hpass' hother'
      (htemplates pass hpass) (htemplates other hother) hi hj
    have hdown := Context.downward_of_getElem?_files hnaming hpass' (htemplates pass hpass) hi
    have hdown' := Context.downward_of_getElem?_files hnaming hother' (htemplates other hother) hj
    refine ⟨a, b, ha, hb, ⟨fun he => hclass (he ▸ rfl), hpath⟩, ?_⟩
    rw [Path.components_eq_iff hdown hdown']
    exact ⟨hclass, fun hsame => hpath hsame ▸ rfl⟩
  · intro t t' output folder report hwf hfind hstays hplain hpackage hrun hc pass hpass i f a hi ha
      hlast hsingle
    obtain ⟨ending, hpass'⟩ := hending pass hpass
    exact last_file_of_writeTo hnaming hplain hpackage hwf hfind hstays hrun hc hpass' hi ha hlast
      hsingle

/-- Tables that are called like generated classes, one without a name and two with one class name, under
templates that share a name without an extension. -/
def classSample : Generator where
  config := {}
  dataset := {
    package := none
    tables := ["item", "", "ItemTable", "Item"].map fun name =>
      { name, fields := [], rows := [] } }
  templates := {
    enumeration := some ⟨⟨"Class.Row"⟩, "CLASS_NAME"⟩
    row := some ⟨⟨"Class"⟩, "CLASS_NAME"⟩
    table := some ⟨⟨"Class"⟩, "TABLE_NAME"⟩ }
  renderer := { supports := fun _ => true, render := fun _ => "" }
  types := .empty
  replacements := []
  naming := .standard

/-- The second table called `Item` takes the place of the first in the table pass, and the row file of
the table `ItemTable` is nowhere near. -/
theorem class_files_collide_iff_classes :
    ∃ first second other report tree, classSample.naming = .standard ∧ staleTree.WellFormed ∧
      (classSample.context.outcome .table).files[0]? = some first ∧
      (classSample.context.outcome .table).files[3]? = some second ∧
      (classSample.context.outcome .row).files[2]? = some other ∧
      first.path = second.path ∧ first.path.components ≠ other.path.components ∧
      (classSample.writeTo ⟨"out"⟩ : StateM FileTree _) staleTree = (.ok report, tree) ∧
      report.status = .completed ∧
      tree.node? ["out", "ItemTable"] = some (.file "Item".toUTF8) ∧
      tree.node? ["out", "ItemTableRow"] = some (.file "ItemTableRow".toUTF8) := by
  have hwf : staleTree.WellFormed := by decide
  have hplain : ∀ template ∈ classSample.templates.all, template.fileName.isPlain = true := by
    decide
  have hresult : ((classSample.writeTo ⟨"out"⟩ : StateM FileTree _) staleTree).1 =
      .ok (classSample.completed ⟨"out"⟩) := by decide +kernel
  have hfirst : (classSample.context.outcome .table).files[0]? =
      some ⟨"ItemTable", ⟨"ItemTable"⟩, "item"⟩ := by decide +kernel
  have hsecond : (classSample.context.outcome .table).files[3]? =
      some ⟨"ItemTable", ⟨"ItemTable"⟩, "Item"⟩ := by decide +kernel
  have hother : (classSample.context.outcome .row).files[2]? =
      some ⟨"ItemTableRow", ⟨"ItemTableRow"⟩, "ItemTableRow"⟩ := by decide +kernel
  obtain ⟨tree, hrun⟩ := exists_state hresult
  obtain ⟨hpaths, hleft⟩ := @class_files_collide_iff classSample rfl
    fun _ _ template hslot => hplain template (TemplateSet.mem_all_of_slot hslot)
  obtain ⟨a, b, ha, hb, hpath, -⟩ :=
    hpaths .table (by decide) .table (by decide) 0 3 _ _ hfirst hsecond
  obtain ⟨_, _, _, _, _, hplace⟩ :=
    hpaths .table (by decide) .row (by decide) 0 2 _ _ hfirst hother
  cases ha
  cases hb
  have hlength {j : Nat} {b : Table} (hb : classSample.dataset.tables[j]? = some b) : j < 4 :=
    (List.getElem?_eq_some_iff.mp hb).1
  have hnode := hleft staleTree tree ⟨"out"⟩ ["out"] _ hwf rfl (fun _ => rfl) hplain (by decide)
    hrun rfl
  refine ⟨_, _, _, _, tree, rfl, hwf, hfirst, hsecond, hother, hpath.mpr ⟨rfl, by decide +kernel⟩,
    fun he => absurd (hplace.mp he).1 (by decide), hrun, rfl, ?_, ?_⟩
  · refine hnode .table (by decide) 3 _ _ hsecond rfl (fun j b hj hb => ?_) (by decide +kernel)
    have hlt := hlength hb
    omega
  · refine hnode .row (by decide) 2 _ _ hother rfl (fun j b hj hb => ?_) (by decide +kernel)
    have hlt := hlength hb
    obtain rfl : j = 3 := by omega
    cases hb
    decide +kernel

end Generator

end TableForge
