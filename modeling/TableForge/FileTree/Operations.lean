import TableForge.FileTree.Resolve

/-!
# Reading, writing and clearing

The operations a run needs. Each either changes the tree as it says or fails with the reason, and a
single failing step leaves the tree as it was; operations that consist of several steps return the
tree as far as they came. Clearing removes files and links and keeps folders: links count as files
wherever they point, so nothing outside the cleared folder can be reached. Everything in the folder
is addressed by the path that was given for the folder; where that path leads through a link inside
the folder, clearing fails as soon as this link is gone and more is left to do.
-/
namespace TableForge.FileTree

/-- The bytes of the file at a path. -/
def readBytes (t : FileTree) (path : Path) : Except FileFault ByteArray := do
  match ← t.find path with
  | (_, .file content) => .ok content
  | _ => .error .isFolder

/-- The text of the file at a path. -/
def readText (t : FileTree) (path : Path) : Except FileFault String := do
  match String.fromUTF8? (← t.readBytes path) with
  | some text => .ok text
  | none => .error .notText

/-- Makes one folder in a folder that exists. -/
def makeFolder (t : FileTree) (path : Path) : Except FileFault FileTree := do
  let loc ← t.resolve .itself ((withoutSlashes? path).getD path)
  match t.node? loc with
  | some _ => .error .alreadyExists
  | none => .ok (t.put loc .folder)

/-- Makes the folders of a list, each inside the next one of the list, as far as they are missing.
The list ends with a path that needs no folder. -/
def makeMissing (t : FileTree) : List Path → FileTree × Except FileFault Unit
  | [] => (t, .ok ())
  | path :: outer =>
    if path.text = "" ∨ path.parent?.isNone then (t, .ok ())
    else
      match t.makeFolder path with
      | .ok t => (t, .ok ())
      | .error .notFound =>
        match t.makeMissing outer with
        | (t, .error fault) => (t, .error fault)
        | (t, .ok ()) =>
          match t.makeFolder path with
          | .ok t => (t, .ok ())
          | .error fault => (t, if t.isFolder path then .ok () else .error fault)
      | .error fault => (t, if t.isFolder path then .ok () else .error fault)

/-- A path, its parent, the parent of that, and so on; `fuel` bounds their number. -/
def outward : Nat → Path → List Path
  | 0, _ => []
  | fuel + 1, path => path :: (path.parent?.elim [] (outward fuel))

/-- Makes a folder and every missing folder on the way to it. -/
def makeFolders (t : FileTree) (path : Path) : FileTree × Except FileFault Unit :=
  t.makeMissing (outward (path.segments.length + 2) path)

/-- Puts content into the file at a path, which is made if it is missing; its folder must exist. -/
def overwrite (t : FileTree) (path : Path) (content : ByteArray) : Except FileFault FileTree := do
  let loc ← t.resolve .writable path
  match t.node? loc with
  | some .folder => .error .isFolder
  | _ => .ok (t.put loc (.file content))

/-- Writes a file, making the folders on the way to it. -/
def writeBytes (t : FileTree) (path : Path) (content : ByteArray) :
    FileTree × Except FileFault Unit :=
  match path.parent?.elim (t, .ok ()) t.makeFolders with
  | (t, .error fault) => (t, .error fault)
  | (t, .ok ()) =>
    match t.overwrite path content with
    | .ok t => (t, .ok ())
    | .error fault => (t, .error fault)

/-- Writes a text file, making the folders on the way to it. -/
def write (t : FileTree) (path : Path) (text : String) : FileTree × Except FileFault Unit :=
  t.writeBytes path text.toUTF8

/-- Makes a symbolic link. A path that ends in a slash can name what is there, but no link. -/
def makeLink (t : FileTree) (path : Path) (target : String) : Except FileFault FileTree := do
  if target.toList.contains '\x00' then .error .invalidPath
  else if target = "" then .error .notFound
  else
    let loc ← t.resolve .itself ((withoutSlashes? path).getD path)
    match t.node? loc, withoutSlashes? path with
    | some _, _ => .error .alreadyExists
    | none, some _ => .error .notFound
    | none, none => .ok (t.put loc (.link target))

/-- Removes a file or a link, or a folder with everything in it. -/
def remove (t : FileTree) (path : Path) : Except FileFault FileTree := do
  let loc ← t.resolve .itself path
  match t.node? loc with
  | none => .error .notFound
  | some _ => .ok { t with entries := t.entries.filter fun e => ¬ loc.isPrefixOf e.1 }

/-- Removes the file or link at a path. -/
def removeFile (t : FileTree) (path : Path) : Except FileFault FileTree := do
  let loc ← t.resolve .itself path
  match t.node? loc with
  | none => .error .notFound
  | some .folder => .error .isFolder
  | some _ => .ok (t.erase loc)

/-- Removes something for one name after another, up to the first failure, and adds up how many
files that were. -/
def removeEach (t : FileTree) (names : List String)
    (removeAt : FileTree → String → FileTree × Except FileFault Nat) :
    FileTree × Except FileFault Nat :=
  match names with
  | [] => (t, .ok 0)
  | name :: rest =>
    match removeAt t name with
    | (t, .error fault) => (t, .error fault)
    | (t, .ok removed) =>
      match t.removeEach rest removeAt with
      | (t, .error fault) => (t, .error fault)
      | (t, .ok more) => (t, .ok (removed + more))

/-- Removes every file and link below the folder at a path and counts them. `arrange` puts the names
of each folder into the order in which they come up, `depth` is how many levels of folders there are
at most. -/
def clearFolder (arrange : Location → List String → List String) :
    Nat → FileTree → Path → FileTree × Except FileFault Nat
  | 0, t, _ => (t, .ok 0)
  | depth + 1, t, path =>
    match t.find path with
    | .error fault => (t, .error fault)
    | .ok (folder, .folder) =>
      t.removeEach (arrange folder (t.names folder)) fun t name =>
        let inside := path.join ⟨name⟩
        if t.isFolderAt (folder ++ [name]) then clearFolder arrange depth t inside
        else
          match t.removeFile inside with
          | .error fault => (t, .error fault)
          | .ok t => (t, .ok 1)
    | .ok _ => (t, .error .notFolder)

/-- Removes every file and link below the folder at a path, keeps the folders, and tells how many
were removed. -/
def clear (arrange : Location → List String → List String) (t : FileTree) (path : Path) :
    FileTree × Except FileFault Nat :=
  clearFolder arrange (t.height + 1) t path

end TableForge.FileTree
