import TableForge.Path
import TableForge.Text.CaseMap

/-!
# Settings of a run

How the package name is treated, and what the template package says about itself. A package name
such as `net.example.game` can be laid out as nested folders, one per part between separators; parts
that are empty make no folder, and without a separator the whole name is one path.
-/
namespace TableForge

structure Config where
  /-- What separates the parts of a package name. -/
  packageSeparator : String := "."
  /-- Whether the package name is laid out as nested folders. -/
  packageFolders : Bool := false
  /-- Whether the package name is lowered before it is used. -/
  lowercasePackage : Bool := false
  name : Option String := none
  author : Option String := none
  contact : Option String := none
  /-- The package name as given. -/
  packageName : String := ""
deriving DecidableEq, Repr, Inhabited

namespace Config

/-- The package name as it is used. -/
def packageString (c : Config) : String :=
  if c.lowercasePackage then String.ofList (Text.lower c.packageName.toList) else c.packageName

/-- The folders that the package name is laid out as. -/
def packagePath (c : Config) : Path :=
  if c.packageSeparator = "" then ⟨c.packageString⟩
  else
    let parts := Text.splitOn c.packageSeparator.toList c.packageString.toList
    Path.joinAll ((parts.filter (· ≠ [])).map String.ofList)

/-- The folder that files are written under, for an output folder. -/
def outputRoot (c : Config) (output : Path) : Path :=
  if c.packageFolders then output.join c.packagePath else output

end Config

end TableForge
