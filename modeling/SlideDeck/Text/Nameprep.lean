import SlideDeck.Text.Nameprep.Folding
import SlideDeck.Text.Nameprep.Properties
import SlideDeck.Text.Normal

/-!
# Labels in their prepared form

Labels of names are compared in a prepared form, in which case, width and other differences of form do
not count. Some characters may not stand in it, and characters that run from right to left may not stand
together with others that run from left to right. A label is a list of code points, of which some may
stand for no character.
-/

namespace SlideDeck.Text.Nameprep

/-- Why a label has no prepared form. -/
inductive Fault where
  | prohibited (code : Nat)
  | bothDirections
  | endsOtherwise
deriving DecidableEq, Repr

/-- What stands for a code point, before it is taken apart. -/
def fold (code : Nat) : List Nat :=
  let single :=
    foldings.findSome? fun (first, cs) =>
      if first ≤ code then (cs.toList[code - first]?).map fun c => [c.toNat] else none
  let several :=
    expansions.findSome? fun (first, texts) =>
      if first ≤ code then
        ((texts.splitOn "|")[code - first]?).map fun s => s.toList.map Char.toNat
      else none
  if Normal.isIn ignored code then [] else (single <|> several).getD [code]

/-- The prepared form of a label. -/
def prepare (label : List Nat) : Except Fault (List Nat) :=
  let form := Normal.compose (Normal.order ((label.flatMap fold).flatMap Normal.decompose))
  match form.find? (Normal.isIn prohibited) with
  | some code => .error (.prohibited code)
  | none =>
    let back := form.map (Normal.isIn rightToLeft)
    if back.contains true then
      if form.any (Normal.isIn leftToRight) then .error .bothDirections
      else if back.head? = some true ∧ back.getLast? = some true then .ok form
      else .error .endsOtherwise
    else .ok form

end SlideDeck.Text.Nameprep
