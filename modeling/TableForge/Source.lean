import TableForge.Text.Search

/-!
# Places in a source text

Errors point at the first place where a name stands between double quotes. Offsets and lengths
count UTF-8 bytes.
-/
namespace TableForge

/-- A stretch of a source text, in bytes. -/
structure Span where
  offset : Nat
  length : Nat
deriving DecidableEq, Repr

/-- The text of a file and the name under which it is reported. -/
structure Source where
  text : String
  fileName : String

/-- The length of a text in bytes. -/
def byteCount : List Char → Nat
  | [] => 0
  | c :: rest => c.utf8Size + byteCount rest

namespace Source

/-- The span of `name` where it first stands between double quotes in `text`, and the text from its
closing quote on. `offset` is where `text` begins in the source. -/
def quotedFrom (offset : Nat) (name text : List Char) : Option (Span × List Char) :=
  (Text.cut? ('"' :: name ++ ['"']) text).map fun (before, after) =>
    (⟨offset + byteCount before + 1, byteCount name⟩, '"' :: after)

/-- Where `name` first stands between double quotes. -/
def findQuoted (s : Source) (name : String) : Option Span :=
  (quotedFrom 0 name.toList s.text.toList).map (·.1)

/-- Where `name` first and next stands between double quotes. The closing quote of the first place
may open the second. -/
def findQuotedTwice (s : Source) (name : String) : Option Span × Option Span :=
  match quotedFrom 0 name.toList s.text.toList with
  | none => (none, none)
  | some (first, rest) =>
    (some first, (quotedFrom (first.offset + first.length) name.toList rest).map (·.1))

end Source

end TableForge
