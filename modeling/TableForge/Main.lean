import TableForge.CommandLine.Execution
import Std.Time

/-!
# The command line program

Reads and writes the files of the machine; everything else is decided by `execute`.
-/
namespace TableForge

/-- The reason of a failure of the operating system. -/
def FileFault.ofError : IO.Error → FileFault
  | .noFileOrDirectory .. => .notFound
  | .alreadyExists .. => .alreadyExists
  | .inappropriateType .. => .notFolder
  | error => .other (toString error)

/-- Tries an action on files. -/
def attempt {α : Type} (action : IO α) : IO (Except FileFault α) := do
  match ← action.toBaseIO with
  | .ok a => return .ok a
  | .error error => return .error (.ofError error)

/-- Removes every file below a folder and counts the files; links are not followed. -/
partial def clearBelow (folder : String) : IO Nat := do
  let here ← IO.currentDir
  let mut removed := 0
  for entry in ← (here / folder).readDir do
    match (← entry.path.symlinkMetadata).type with
    | .dir => removed := removed + (← clearBelow entry.path.toString)
    | _ =>
      IO.FS.removeFile entry.path
      removed := removed + 1
  return removed

/-- Writes a text file and makes the folders on the way to it. -/
def writeText (path : Path) (text : String) : IO Unit := do
  match path.parent? with
  | some folder => unless folder.text = "" do IO.FS.createDirAll folder.text
  | none => pure ()
  IO.FS.writeFile path.text text

instance : Disk IO where
  isFolder path := do
    let here ← IO.currentDir
    (here / path.text).isDir
  readText path := do
    match ← attempt (IO.FS.readBinFile path.text) with
    | .error fault => return .error fault
    | .ok bytes =>
      match String.fromUTF8? bytes with
      | some text => return .ok text
      | none => return .error .notText
  clear path := attempt (clearBelow path.text)
  write path text := attempt (writeText path text)

/-- The time of the machine. -/
def currentClock : IO Clock := do
  let now ← Std.Time.PlainDateTime.now
  return {
    time := now.format "HH:mm:ss"
    timestamp := now.format "uuuu-MM-dd'T'HH:mm:ss" }

end TableForge

def main (arguments : List String) : IO UInt32 := do
  let clock ← TableForge.currentClock
  let execution : TableForge.CommandLine.Execution ←
    TableForge.CommandLine.execute clock arguments
  let page := execution.failure.elim "" TableForge.CommandLine.Failure.page
  IO.eprint (execution.printed.err ++ page)
  IO.print execution.printed.out
  return execution.code
