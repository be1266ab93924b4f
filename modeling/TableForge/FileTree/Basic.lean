import TableForge.FileFault
import TableForge.OrderedMap
import TableForge.Path

/-!
# File trees

A file tree is a finite map from locations to nodes, together with the folder that relative paths
start from. A location lists the names on the way down from the root, which is a folder without an
entry of its own. The view of a tree is `node?`; the operations below are the changes of one entry,
which all others are made of; `node?_put` and `node?_erase` say what they do to the view.
-/
namespace TableForge

/-- The names from the root down. -/
abbrev Location := List String

/-- What stands at a location. -/
inductive Node where
  | folder
  | file (content : ByteArray)
  | link (target : String)

structure FileTree where
  /-- Every node but the root. -/
  entries : List (Location × Node)
  /-- Where relative paths start. -/
  here : Location

namespace FileTree

/-- The node at a location. -/
def node? (t : FileTree) (loc : Location) : Option Node :=
  if loc = [] then some .folder else t.entries.lookup loc

def isFolderAt (t : FileTree) (loc : Location) : Bool :=
  t.node? loc matches some .folder

/-- Puts a node at a location, in the place of the one that was there. -/
def put (t : FileTree) (loc : Location) (node : Node) : FileTree :=
  { t with entries := (t.entries.filter fun e => e.1 ≠ loc) ++ [(loc, node)] }

/-- Takes the node away from a location. -/
def erase (t : FileTree) (loc : Location) : FileTree :=
  { t with entries := t.entries.filter fun e => e.1 ≠ loc }

theorem lookup_filter_ne {κ α : Type} [BEq κ] [LawfulBEq κ] [DecidableEq κ] (key k : κ)
    (entries : List (κ × α)) :
    (entries.filter fun e => e.1 ≠ key).lookup k = if k = key then none else entries.lookup k := by
  induction entries with
  | nil => simp
  | cons e rest ih =>
    obtain ⟨k', v⟩ := e
    by_cases he : k' = key
    · subst he
      simp only [ne_eq, not_true, decide_false, Bool.false_eq_true, not_false_eq_true,
        List.filter_cons_of_neg, ih, lookup_cons_eq_ite]
      split <;> rfl
    · simp only [he, ne_eq, not_false_eq_true, decide_true, List.filter_cons_of_pos,
        lookup_cons_eq_ite, ih]
      by_cases hk : k = k'
      · subst hk
        simp [he]
      · simp [hk]

@[simp] theorem node?_root (t : FileTree) : t.node? [] = some .folder := rfl

theorem node?_put (t : FileTree) {loc : Location} (other : Location) (node : Node)
    (h : loc ≠ []) :
    (t.put loc node).node? other = if other = loc then some node else t.node? other := by
  by_cases h0 : other = []
  · simp [h0, Ne.symm h]
  · simp only [node?, h0, if_false, put, List.lookup_append, lookup_filter_ne, lookup_cons_eq_ite,
      List.lookup_nil]
    by_cases h1 : other = loc <;> simp [h1]

theorem node?_erase (t : FileTree) {loc : Location} (other : Location) (h : loc ≠ []) :
    (t.erase loc).node? other = if other = loc then none else t.node? other := by
  by_cases h0 : other = []
  · simp [h0, Ne.symm h]
  · simp only [node?, h0, if_false, erase, lookup_filter_ne]

/-- The names in a folder. -/
def names (t : FileTree) (folder : Location) : List String :=
  t.entries.filterMap fun (loc, _) =>
    if loc ≠ [] ∧ loc.dropLast = folder then loc.getLast? else none

/-- The length of the longest location. -/
def height (t : FileTree) : Nat :=
  (t.entries.map fun e => e.1.length).foldl max 0

end FileTree

end TableForge
