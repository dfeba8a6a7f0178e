/-!
# Paths

A path is an anchor and the names after it. Names are never empty and never a single dot; two dots
stay as they are, since what they mean is for the file system to say. `join` puts one path after
another, and an absolute path replaces what it is put after.
-/

namespace SlideDeck

/-- Where a path starts. -/
inductive Anchor where
  | relative
  | root
  | doubleRoot
deriving DecidableEq, Repr

/-- A path. -/
structure Path where
  anchor : Anchor
  names : List String
deriving DecidableEq, Repr

/-- The pieces of a text between slashes. -/
def slashPieces (s : String) : List String :=
  (s.toList.splitOn '/').map String.ofList

/-- The anchor that a text has by the slashes it starts with. -/
def Anchor.ofChars : List Char → Anchor
  | '/' :: '/' :: '/' :: _ => .root
  | '/' :: '/' :: _ => .doubleRoot
  | '/' :: _ => .root
  | _ => .relative

/-- The slashes of an anchor. -/
def Anchor.text : Anchor → String
  | .relative => ""
  | .root => "/"
  | .doubleRoot => "//"

namespace Path

/-- Reads a path; empty names and single dots are left out. -/
def ofString (s : String) : Path :=
  ⟨Anchor.ofChars s.toList, (slashPieces s).filter fun name => name ≠ "" ∧ name ≠ "."⟩

/-- A path as text; the empty one is a dot. -/
def text (p : Path) : String :=
  if p.anchor = .relative ∧ p.names = [] then "."
  else p.anchor.text ++ "/".intercalate p.names

/-- The second path seen from the first. -/
def join (base p : Path) : Path :=
  if p.anchor = .relative then ⟨base.anchor, base.names ++ p.names⟩ else p

/-- The path without its last name, if it has one. -/
def parent (p : Path) : Path :=
  ⟨p.anchor, p.names.dropLast⟩

/-- The last name, empty if there is none. -/
def name (p : Path) : String :=
  p.names.getLast?.getD ""

end Path

end SlideDeck
