import SlideDeck.Text.Normal.Table

/-!
# Composed texts

A text in which no character is composed has its marks in order of their classes; composing it puts
together what makes up one character. A text is a list of code points here, of which some may stand for
no character.
-/

namespace SlideDeck.Text.Normal

/-- Whether a code point is in one of some closed ranges. -/
def isIn (ranges : List (Nat × Nat)) (code : Nat) : Bool :=
  ranges.any fun (first, last) => first ≤ code ∧ code ≤ last

/-! ## Korean syllables -/

/-- The letters of a syllable. -/
def letters? (code : Nat) : Option (List Nat) :=
  if 0xac00 ≤ code ∧ code < 0xac00 + 11172 then
    let n := code - 0xac00
    let last := if n % 28 = 0 then [] else [0x11a7 + n % 28]
    some ([0x1100 + n / 588, 0x1161 + n % 588 / 28] ++ last)
  else none

/-- The syllable of two letters, or of a syllable of two letters and a third one. -/
def syllable? (a b : Nat) : Option Nat :=
  if 0x1100 ≤ a ∧ a < 0x1113 ∧ 0x1161 ≤ b ∧ b < 0x1176 then
    some (0xac00 + ((a - 0x1100) * 21 + (b - 0x1161)) * 28)
  else if 0xac00 ≤ a ∧ a < 0xac00 + 11172 ∧ (a - 0xac00) % 28 = 0 ∧ 0x11a8 ≤ b ∧ b < 0x11c3 then
    some (a + (b - 0x11a7))
  else none

/-! ## Characters and their parts -/

/-- The character of the same place in another text. -/
def opposite? (c : Char) (cs ds : List Char) : Option Char :=
  (cs.zip ds).lookup c

/-- The character of two parts. -/
def composite? (a b : Nat) : Option Nat :=
  let ofTable :=
    (composites.find? (·.1.toNat = b)).bind fun (_, firsts, wholes) =>
      (opposite? (Char.ofNat a) firsts.toList wholes.toList).map Char.toNat
  syllable? a b <|> (ofTable <|> lateComposites.lookup (a, b))

/-- The two parts of a character. -/
def parts? (code : Nat) : Option (Nat × Nat) :=
  composites.findSome? fun (second, firsts, wholes) =>
    (opposite? (Char.ofNat code) wholes.toList firsts.toList).map fun first =>
      (first.toNat, second.toNat)

/-- A character as the characters that it is composed of. The fuel bounds how often a first part is
composed in turn. -/
def apart : Nat → Nat → List Nat
  | 0, code => [code]
  | fuel + 1, code =>
    match parts? code with
    | some (first, second) => apart fuel first ++ [second]
    | none => [code]

/-- A character taken apart as far as that goes. -/
def decompose (code : Nat) : List Nat :=
  (letters? code).getD (apart 4 code)

/-! ## Marks -/

/-- The class of a mark; that of other characters is zero. -/
def markClass (code : Nat) : Nat :=
  ((markClasses.find? fun (_, ranges) => isIn ranges code).map (·.1)).getD 0

/-- Code points in reverse with one more; a mark goes before the marks of greater classes that come
right before it. -/
def insertMark (code : Nat) : List Nat → List Nat
  | [] => [code]
  | last :: codes =>
    if markClass code ≠ 0 ∧ markClass code < markClass last then last :: insertMark code codes
    else code :: last :: codes

/-- Code points with their marks in order. -/
def order (codes : List Nat) : List Nat :=
  (codes.foldl (fun back code => insertMark code back) []).reverse

/-! ## Composing -/

/-- A character with what may be put together with it of the code points after it, and those that are
left. The class is that of the last mark that was not put together with it. -/
def absorb (base last : Nat) : List Nat → Nat × List Nat
  | [] => (base, [])
  | code :: codes =>
    let mark := markClass code
    if last ≠ 0 ∧ mark = 0 then (base, code :: codes)
    else if last ≠ 0 ∧ mark ≤ last then
      let absorbed := absorb base last codes
      (absorbed.1, code :: absorbed.2)
    else
      match composite? base code with
      | some whole => absorb whole last codes
      | none =>
        if mark = 0 then (base, code :: codes)
        else
          let absorbed := absorb base mark codes
          (absorbed.1, code :: absorbed.2)

/-- Nothing is added to the code points that are left. -/
theorem length_absorb_le (base last : Nat) (codes : List Nat) :
    (absorb base last codes).2.length ≤ codes.length := by
  fun_induction absorb base last codes with
  | case1 | case2 | case5 => simp
  | case3 _ _ _ _ _ _ _ absorbed ih | case6 _ _ _ _ _ _ _ _ _ absorbed ih =>
    exact Nat.succ_le_succ ih
  | case4 _ _ _ _ _ _ _ _ _ ih => exact Nat.le_succ_of_le ih

/-- Code points, with their marks in order, put together. -/
def compose : List Nat → List Nat
  | [] => []
  | code :: codes =>
    let absorbed := absorb code 0 codes
    absorbed.1 :: compose absorbed.2
termination_by codes => codes.length
decreasing_by
  have := length_absorb_le code 0 codes
  simp only [List.length_cons]
  omega

end SlideDeck.Text.Normal
