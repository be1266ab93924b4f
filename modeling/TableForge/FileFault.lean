/-!
# Why a file operation fails
-/
namespace TableForge

inductive FileFault where
  | notFound
  | alreadyExists
  | isFolder
  | notFolder
  | nameTooLong
  /-- The path holds a character that no path may hold. -/
  | invalidPath
  /-- Symbolic links lead to symbolic links without end. -/
  | endlessLinks
  /-- The content is not UTF-8 text. -/
  | notText
  /-- Any other failure, as the operating system describes it. -/
  | other (description : String)
deriving DecidableEq, Repr

namespace FileFault

/-- What went wrong, for people. -/
def message : FileFault → String
  | notFound => "No such file or directory"
  | alreadyExists => "File exists"
  | isFolder => "Is a directory"
  | notFolder => "Not a directory"
  | nameTooLong => "File name too long"
  | invalidPath => "file name contained an unexpected NUL byte"
  | endlessLinks => "Too many levels of symbolic links"
  | notText => "stream did not contain valid UTF-8"
  | other description => description

end FileFault

end TableForge
