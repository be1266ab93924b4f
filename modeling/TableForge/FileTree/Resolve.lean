import TableForge.FileTree.Basic

/-!
# Following paths

A path is followed one segment at a time, from the root or from the folder relative paths start
from. Every segment needs a folder to stand in; `..` goes up, and a symbolic link puts the segments
of its target in front of those that are left. The last name need not exist, and the caller says
what it asks for: the name itself, what it leads to, or a file to write.
-/
namespace TableForge.FileTree

/-- How many symbolic links one path may lead through. -/
def maxLinks : Nat := 40

/-- The longest name and the longest path, in bytes. -/
def maxNameBytes : Nat := 255
def maxPathBytes : Nat := 4095

/-- What the last name of a path stands for. -/
inductive LastName where
  /-- The name itself: a link there is not followed. -/
  | itself
  /-- What it leads to: a link there is followed. -/
  | target
  /-- A file to write: a link there is followed, and a slash behind the name, also behind that of a
  link's target, asks for a folder. -/
  | writable
deriving DecidableEq, Repr

/-- Checks what can be told from a path alone. -/
def checkPath (path : Path) : Except FileFault Unit :=
  if path.text.toList.contains '\x00' then .error .invalidPath
  else if path.text = "" then .error .notFound
  else if maxPathBytes < path.text.utf8ByteSize then .error .nameTooLong
  else .ok ()

/-- Whether a folder stands at a location, and the fault if not. -/
def needFolder (t : FileTree) (loc : Location) : Except FileFault Unit :=
  match t.node? loc with
  | some .folder => .ok ()
  | some _ => .error .notFolder
  | none => .error .notFound

/-- Follows segments from a location. What is left to do at a symbolic link, seen from the folder
that it stands in, is `follow`. -/
def walkSegments (t : FileTree) (last : LastName)
    (follow : Location → List String → Except FileFault Location) (loc : Location) :
    List String → Except FileFault Location
  | [] => .ok loc
  | segment :: rest => do
    t.needFolder loc
    if segment = "" ∨ segment = "." then t.walkSegments last follow loc rest
    else if segment = ".." then t.walkSegments last follow loc.dropLast rest
    else if last = .writable ∧ rest ≠ [] ∧ rest.all (· = "") then .error .isFolder
    else if maxNameBytes < segment.utf8ByteSize then .error .nameTooLong
    else
      let next := loc ++ [segment]
      match t.node? next with
      | some (.link target) =>
        if rest = [] ∧ last = .itself then .ok next
        else
          let path : Path := ⟨target⟩
          follow (if path.isAbsolute then [] else loc) (path.segments ++ rest)
      | _ => t.walkSegments last follow next rest

/-- Follows segments through at most `links` symbolic links. -/
def walk (t : FileTree) (last : LastName) :
    Nat → Location → List String → Except FileFault Location
  | 0 => t.walkSegments last fun _ _ => .error .endlessLinks
  | links + 1 => t.walkSegments last (t.walk last links)

/-- The location that a path leads to. -/
def resolve (t : FileTree) (last : LastName) (path : Path) : Except FileFault Location := do
  checkPath path
  t.walk last maxLinks (if path.isAbsolute then [] else t.here) path.segments

/-- The location that a path leads to, links followed, and what stands there. -/
def find (t : FileTree) (path : Path) : Except FileFault (Location × Node) := do
  let loc ← t.resolve .target path
  match t.node? loc with
  | some node => .ok (loc, node)
  | none => .error .notFound

/-- Whether a path leads to a folder. -/
def isFolder (t : FileTree) (path : Path) : Bool :=
  match t.find path with
  | .ok (_, .folder) => true
  | _ => false

/-- The path without the slashes at its end, if it has any and something else. -/
def withoutSlashes? (path : Path) : Option Path :=
  match path.segments.reverse with
  | "" :: more =>
    let kept := (more.dropWhile (· = "")).reverse
    if kept = [] then none else some (Path.ofSegments kept)
  | _ => none

end TableForge.FileTree
