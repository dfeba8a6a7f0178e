import Std.Data.HashMap
import SlideDeck.Text.Encoding.Chart

/-!
# Two bytes to a character

What the East Asian sets have in common. Two bytes are a cell of a chart, or they are looked up by the
number that they make. Of what bytes begin with there are three kinds: characters, bytes at fault, and
too few bytes to tell.
-/

namespace SlideDeck.Text.EastAsian

/-- Characters by the number of their bytes. -/
abbrev Cells := Std.HashMap Nat Char

/-- Cells from the characters at numbers in a row, by the first number. -/
def Cells.ofRuns (runs : List (Nat × String)) : Cells :=
  Std.HashMap.ofList <| runs.flatMap fun (first, cs) =>
    cs.toList.zipIdx.map fun (c, i) => (first + i, c)

/-- The number that two bytes make. -/
def pairNumber (a b : Nat) : Nat :=
  256 * a + b

/-- The place of a trail byte among those from 64 on, of which 127 is left out. -/
def trailIndex? (b : Nat) : Option Nat :=
  if 0x40 ≤ b ∧ b ≤ 0x7e then some (b - 0x40)
  else if 0x80 ≤ b ∧ b ≤ 0xfe then some (b - 0x41)
  else none

/-- The cell of a chart whose row and cell both start at byte 161. -/
def cell? (c : Chart) (a b : Nat) : Option Char :=
  if 0xa1 ≤ a ∧ 0xa1 ≤ b then c.char? (a - 0xa1) (b - 0xa1) else none

/-- What bytes begin with. -/
inductive Start where
  /-- Characters, and how many bytes after the first one are part of them. -/
  | chars (cs : List Char) (more : Nat)
  /-- No character, and how many bytes after the first one are at fault with it. -/
  | illegal (more : Nat)
  | incomplete

/-- What bytes begin with if they are to be one character, of which the given number of bytes after
the first one are part. -/
def Start.ofChar? (c : Option Char) (more : Nat) : Start :=
  match c with
  | some c => .chars [c] more
  | none => .illegal 0

/-- What a lead byte begins, given what it and the next byte do. -/
def lead (start : Nat → Nat → Start) (a : UInt8) : List UInt8 → Start
  | [] => .incomplete
  | b :: _ => start a.toNat b.toNat

/-- What a lead byte begins, given the characters of two bytes. -/
def pair (pair? : Nat → Nat → Option Char) : UInt8 → List UInt8 → Start :=
  lead fun a b => .ofChar? (pair? a b) 1

end SlideDeck.Text.EastAsian
