import TableForge.FileTree.Operations

/-!
# What a run asks of a disk

A run reads its inputs, tests and clears the output folder and writes files. It is written against
these four requests, so that the same run works on the files of a machine and on a `FileTree`.
-/
namespace TableForge

class Disk (m : Type → Type) where
  /-- Whether a path leads to a folder. -/
  isFolder : Path → m Bool
  /-- The text of a file. -/
  readText : Path → m (Except FileFault String)
  /-- Removes every file below a folder, keeps the folders, and counts the files. -/
  clear : Path → m (Except FileFault Nat)
  /-- Writes a text file and makes the folders on the way to it. -/
  write : Path → String → m (Except FileFault Unit)

/-- A file tree serves as a disk; folders list their names in the order of the entries. -/
instance : Disk (StateM FileTree) where
  isFolder path := fun t => (t.isFolder path, t)
  readText path := fun t => (t.readText path, t)
  clear path := fun t => (t.clear (fun _ names => names) path).swap
  write path text := fun t => (t.write path text).swap

end TableForge
