import TableForge.Text.Search

/-!
# Paths

A path is its text; nothing is normalised when it is stored or shown. What a path means is told by
its components: repeated slashes, slashes at the end and `.` inside count for nothing, a slash at
the start is the root, and a `.` is kept only as the first segment of a relative path. Joining puts
one path behind another with a slash between them; an absolute path swallows what stands before it.
-/
namespace TableForge

structure Path where
  text : String
deriving DecidableEq, Repr, Inhabited

namespace Path

inductive Component where
  | root
  | current
  | parent
  | normal (name : String)
deriving DecidableEq, Repr

/-- The texts between the slashes, at least one. -/
def segments (p : Path) : List String :=
  (Text.splitOn ['/'] p.text.toList).map String.ofList

def ofSegments (segments : List String) : Path :=
  ⟨"/".intercalate segments⟩

def isAbsolute (p : Path) : Bool :=
  p.text.toList.head? == some '/'

/-- The component that a segment beyond the start of a path stands for, if it counts. -/
def Component.ofSegment? (segment : String) : Option Component :=
  if segment = "" ∨ segment = "." then none
  else if segment = ".." then some .parent
  else some (.normal segment)

/-- What a path starts with (the root, the current folder or nothing) and its other segments. -/
def anchored (p : Path) : Option Component × List String :=
  if p.isAbsolute then (some .root, p.segments.tail)
  else if p.segments.head? = some "." then (some .current, p.segments.tail)
  else (none, p.segments)

def components (p : Path) : List Component :=
  p.anchored.1.toList ++ p.anchored.2.filterMap Component.ofSegment?

/-- Relative, not empty, and made of plain names only. -/
def isPlain (p : Path) : Bool :=
  p.components ≠ [] && p.components.all fun c => c matches .normal _

/-- `child` as seen from `base`. -/
def join (base child : Path) : Path :=
  if child.isAbsolute then child
  else if base.text = "" ∨ base.text.toList.getLast? = some '/' then ⟨base.text ++ child.text⟩
  else ⟨base.text ++ "/" ++ child.text⟩

/-- Joins the parts one after another. -/
def joinAll (parts : List String) : Path :=
  parts.foldl (fun path part => path.join ⟨part⟩) ⟨""⟩

/-- Segments without those at the end that count for nothing. -/
def trimSegments (segments : List String) : List String :=
  (segments.reverse.dropWhile fun s => s = "" || s = ".").reverse

/-- The path with the given start and further segments. -/
def ofAnchored (start : Option Component) (segments : List String) : Path :=
  match start with
  | some .root => ⟨"/" ++ (ofSegments segments).text⟩
  | some _ => ofSegments ("." :: segments)
  | none => ofSegments segments

/-- The path without its last component; the empty path and the root have no parent. -/
def parent? (p : Path) : Option Path :=
  let (start, segments) := p.anchored
  match trimSegments segments, start with
  | [], some .current => some ⟨""⟩
  | [], _ => none
  | segments, start => some (ofAnchored start (trimSegments segments.dropLast))

/-- The last component, if it is a plain name. -/
def fileName? (p : Path) : Option String :=
  match p.components.getLast? with
  | some (.normal name) => some name
  | _ => none

/-- What follows the last dot of the file name; a dot at its start opens no extension. -/
def extension? (p : Path) : Option String := do
  let name ← p.fileName?
  match (Text.splitOn ['.'] name.toList).reverse with
  | last :: before :: more => if before = [] ∧ more = [] then none else some (String.ofList last)
  | _ => none

/-- Takes the components `base` off the front of a list of segments. -/
def dropComponents : List Component → List String → Option (List String)
  | [], segments => some segments
  | _ :: _, [] => none
  | c :: cs, segment :: segments =>
    match Component.ofSegment? segment with
    | none => dropComponents (c :: cs) segments
    | some d => if c = d then dropComponents cs segments else none

/-- The part of `p` below `base`, if `p` starts with the components of `base`. -/
def relativeTo? (p base : Path) : Option Path :=
  let (start, segments) := p.anchored
  match base.components, start with
  | [], start => some (ofAnchored start (trimSegments segments))
  | c :: cs, some s =>
    if c = s then (dropComponents cs segments).map below else none
  | cs, none => (dropComponents cs segments).map below
where
  below (segments : List String) : Path :=
    ofSegments (trimSegments (segments.dropWhile fun s => s = "" || s = "."))

end Path

end TableForge
