import SlideDeck.Text.Encoding.EastAsian.Basic

/-!
# Korean sets

KS X 1001 with both bytes of a cell from 161 on. It has some of the syllables; the others are spelt
out, or put on the bytes that are left, or made from the letters in the bits of two bytes.
-/

namespace SlideDeck.Text.EastAsian

/-- The place of a trail byte of the syllables beyond KS X 1001: letters, and bytes from 129 on. -/
def syllableTrail? (b : Nat) : Option Nat :=
  if 0x41 ≤ b ∧ b ≤ 0x5a then some (b - 0x41)
  else if 0x61 ≤ b ∧ b ≤ 0x7a then some (b - 0x61 + 26)
  else if 0x81 ≤ b ∧ b ≤ 0xfe then some (b - 0x81 + 52)
  else none

/-- Two bytes of the syllables beyond KS X 1001. -/
def syllable? (a b : Nat) : Option Char :=
  (syllableTrail? b).bind fun trail =>
    if 0x81 ≤ a ∧ a ≤ 0xa0 then Chart.beyondKs[(a - 0x81) * 178 + trail]?
    else if 0xa1 ≤ a ∧ trail < 84 then Chart.beyondKs[5696 + (a - 0xa1) * 84 + trail]?
    else none

/-- The letters a syllable may begin with. -/
def initials : List Char := "ㄱㄲㄴㄷㄸㄹㅁㅂㅃㅅㅆㅇㅈㅉㅊㅋㅌㅍㅎ".toList

/-- The letters a syllable may end with. -/
def finals : List Char := "ㄱㄲㄳㄴㄵㄶㄷㄹㄺㄻㄼㄽㄾㄿㅀㅁㅂㅄㅅㅆㅇㅈㅊㅋㅌㅍㅎ".toList

/-- The letter of a trail byte in the row of letters. -/
def letter (n : Nat) : Char :=
  Char.ofNat (0x3131 + (n - 0xa1))

/-- The syllable of the trail bytes of its letters; a filler stands for a missing last letter. -/
def composed? (first middle last : Nat) : Option Char :=
  let last? := if last = 0xd4 then some 0 else (finals.idxOf? (letter last)).map (· + 1)
  match initials.idxOf? (letter first), last? with
  | some i, some l =>
    if 0xbf ≤ middle ∧ middle ≤ 0xd3 then
      some (Char.ofNat (0xac00 + i * 588 + (middle - 0xbf) * 28 + l))
    else none
  | _, _ => none

/-- What a byte from 128 on begins in KS X 1001: the filler comes before the letters of a syllable. -/
def ksStart (a : UInt8) (bytes : List UInt8) : Start :=
  if a = 0xa4 ∧ bytes.head? = some 0xd4 then
    match bytes with
    | _ :: p :: first :: q :: middle :: r :: last :: _ =>
      if [p, q, r] = [0xa4, 0xa4, 0xa4] then
        .ofChar? (composed? first.toNat middle.toNat last.toNat) 7
      else .illegal 0
    | _ => .incomplete
  else pair (cell? Chart.ks) a bytes

/-! ## Letters in bits

After the first bit, two bytes have five bits for each of the three letters of a syllable. In each of
the three places one code stands for no letter; the others are not all in use. -/

/-- The first letter of a code, by its place among those a syllable may begin with. -/
def initialOf? (code : Nat) : Option (Option Nat) :=
  if code = 1 then some none
  else if 2 ≤ code ∧ code ≤ 20 then some (some (code - 2))
  else none

/-- The middle letter of a code, by its place among the vowels. -/
def middleOf? (code : Nat) : Option (Option Nat) :=
  if code = 2 then some none
  else if 3 ≤ code ∧ code ≤ 29 ∧ 2 ≤ code % 8 then some (some (code - 3 - code / 8 * 2))
  else none

/-- The last letter of a code, by its place among those a syllable may end with. -/
def finalOf? (code : Nat) : Option (Option Nat) :=
  if code = 1 then some none
  else if 2 ≤ code ∧ code ≤ 17 then some (some (code - 2))
  else if 19 ≤ code ∧ code ≤ 29 then some (some (code - 3))
  else none

/-- The syllable of letters, or a letter on its own. -/
def ofLetters? : Option Nat → Option Nat → Option Nat → Option Char
  | none, none, none => some '\u3000'
  | some i, none, none => initials[i]?
  | none, some m, none => some (Char.ofNat (0x314f + m))
  | none, none, some l => finals[l]?
  | some i, some m, l =>
    some (Char.ofNat (0xac00 + i * 588 + m * 28 + (l.map (· + 1)).getD 0))
  | _, _, _ => none

/-- Two bytes with the letters of a syllable in their bits. -/
def lettersPair? (a b : Nat) : Option Char :=
  match initialOf? (a / 4 % 32), middleOf? (a % 4 * 8 + b / 32), finalOf? (b % 32) with
  | some i, some m, some l => ofLetters? i m l
  | _, _, _ => none

/-- The row and the cell of KS X 1001 that two bytes have beside the letters, two rows for each lead
byte. The letters of modern syllables are left out. -/
def symbolCell? (a b : Nat) : Option (Nat × Nat) :=
  let lead? :=
    if 0xd9 ≤ a ∧ a ≤ 0xde then some (2 * (a - 0xd9))
    else if 0xe0 ≤ a ∧ a ≤ 0xf9 then some (2 * (a - 0xe0) + 41)
    else none
  let trail? :=
    if 0x31 ≤ b ∧ b ≤ 0x7e then some (b - 0x31)
    else if 0x91 ≤ b ∧ b ≤ 0xfe then some (b - 0x91 + 78)
    else none
  match lead?, trail? with
  | some lead, some trail =>
    if a = 0xda ∧ 0xa1 ≤ b ∧ b ≤ 0xd3 then none else some (lead + trail / 94, trail % 94)
  | _, _ => none

/-- Two bytes in Johab, which spells the syllables and takes the rest from KS X 1001. -/
def johabPair? (a b : Nat) : Option Char :=
  if a < 0xd8 then lettersPair? a b
  else (symbolCell? a b).bind fun (row, cell) => Chart.ks.char? row cell

end SlideDeck.Text.EastAsian
