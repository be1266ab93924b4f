import TableForge.Path

/-!
# Template files

A template is the text of a file to be generated, with placeholders in it, together with the name
under which the package declares it. The name says where generated files go: its folder and its
extension are those of the files that are generated per table, and a file that is generated once has
exactly this name.
-/
namespace TableForge

structure TemplateFile where
  fileName : Path
  contents : String
deriving DecidableEq, Repr, Inhabited

namespace TemplateFile

/-- The folder of the file name, empty at the top of the package. -/
def folder (t : TemplateFile) : Path :=
  t.fileName.parent?.getD ⟨""⟩

/-- The extension of the file name with its dot, or nothing. -/
def extension (t : TemplateFile) : String :=
  t.fileName.extension?.elim "" fun ext => "." ++ ext

/-- Where a file with the given stem goes, beside this template. -/
def sibling (t : TemplateFile) (stem : String) : Path :=
  t.folder.join ⟨stem ++ t.extension⟩

end TemplateFile

end TableForge
