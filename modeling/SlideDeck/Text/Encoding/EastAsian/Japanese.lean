import SlideDeck.Text.Encoding.EastAsian.Basic

/-!
# Japanese sets

Shift JIS puts two rows of JIS X 0208 on each of its lead bytes, and has half-width characters in one
byte; EUC has both bytes of a cell from 161 on. Each of them also comes with the two planes of
JIS X 0213, of which there are two editions.
-/

namespace SlideDeck.Text.EastAsian

/-- What personal computers have in place of cells of JIS X 0208. -/
def pcJisCells : Cells :=
  .ofRuns
    [(0x8160, "～∥"), (0x817c, "－"), (0x8191, "￠￡"), (0x81ca, "￢")]

/-- The place of a lead byte of Shift JIS, which leaves out those of half-width characters. -/
def shiftLead? (a : Nat) : Option Nat :=
  if 0x81 ≤ a ∧ a ≤ 0x9f then some (a - 0x81)
  else if 0xe0 ≤ a ∧ a ≤ 0xfc then some (a - 0xc1)
  else none

/-- The row and the cell of two bytes in Shift JIS, two rows for each lead byte. -/
def shiftCell? (a b : Nat) : Option (Nat × Nat) :=
  match shiftLead? a, trailIndex? b with
  | some lead, some trail =>
    if trail < 188 then some (2 * lead + trail / 94, trail % 94) else none
  | _, _ => none

/-- Two bytes in Shift JIS. -/
def shiftJisPair? (a b : Nat) : Option Char :=
  (shiftCell? a b).bind fun (row, cell) => Chart.jis.char? row cell

/-- The rows that personal computers have beside JIS X 0208; from row 95 to row 114 the characters are
private. -/
def pcJisCell? (row cell : Nat) : Option Char :=
  if row = 12 then (Chart.ofRows [Chart.jisRow13]).char? 0 cell
  else if 88 ≤ row ∧ row ≤ 91 then (Chart.ofRows Chart.jisRows89).char? (row - 88) cell
  else if 94 ≤ row ∧ row ≤ 113 then some (Char.ofNat (0xe000 + (row - 94) * 94 + cell))
  else if 114 ≤ row then (Chart.ofRows Chart.jisRows115).char? (row - 114) cell
  else none

/-- Two bytes in Shift JIS on personal computers. -/
def pcShiftJisPair? (a b : Nat) : Option Char :=
  (pcJisCells[pairNumber a b]? <|> shiftJisPair? a b) <|>
    (shiftCell? a b).bind fun (row, cell) => pcJisCell? row cell

/-! ## JIS X 0213 -/

/-- An edition of JIS X 0213. -/
inductive Edition where
  | of2000
  | of2004
deriving DecidableEq, Repr

/-- Whether a cell of the first plane is one that the edition does not have yet. -/
def Edition.lacks (e : Edition) (number : Nat) : Bool :=
  e = .of2000 && Chart.jisLateCells.contains number

/-- The characters of the first plane beside JIS X 0208. -/
def jisExtendedCells : Cells :=
  .ofRuns Chart.jisExtendedRuns

/-- The characters of the second plane. -/
def jisSecondCells : Cells :=
  .ofRuns Chart.jisSecondRuns

/-- The characters of a cell of the first plane. -/
def firstPlane? (e : Edition) (a b : Nat) : Option (List Char) :=
  let n := pairNumber a b
  if e.lacks n then none
  else (cell? Chart.jis a b <|> jisExtendedCells[n]?).map ([·]) <|> Chart.jisSequences.lookup n

/-- What a cell of the first plane comes to in two bytes. -/
def firstPlane (e : Edition) (a b : Nat) : Start :=
  match firstPlane? e a b with
  | some cs => .chars cs 1
  | none => .illegal (if e.lacks (pairNumber a b) then 1 else 0)

/-- The character of a cell of the second plane, of which the first edition has another form in one
cell. -/
def secondPlane? (e : Edition) (a b : Nat) : Option Char :=
  let n := pairNumber a b
  if e = .of2000 ∧ n = 0xfdbb then some '鬝' else jisSecondCells[n]?

/-- The rows of the second plane, as Shift JIS has them after those of the first. -/
def shiftSecondRows : List Nat :=
  [1, 8, 3, 4, 5, 12, 13, 14, 15] ++ (List.range 17).map (78 + ·)

/-- Two bytes in Shift JIS with JIS X 0213. The backslash, which has no byte of its own, and the tilde
are not full-width. -/
def shiftExtendedPair (e : Edition) (a b : Nat) : Start :=
  if pairNumber a b = 0x815f then .chars ['\\'] 1
  else
    match shiftCell? a b with
    | none => .illegal 0
    | some (row, cell) =>
      if row < 94 then firstPlane e (0xa1 + row) (0xa1 + cell)
      else
        .ofChar?
          ((shiftSecondRows[row - 94]?).bind fun r => secondPlane? e (0xa0 + r) (0xa1 + cell)) 1

/-- Both bytes of a cell of the first plane in EUC, where the tilde is full-width. -/
def eucExtendedPair (e : Edition) (a b : Nat) : Start :=
  if pairNumber a b = 0xa2b2 then .chars ['～'] 1 else firstPlane e a b

/-- The character of a cell of the second plane, or that of a cell of JIS X 0212 where the plane has
none. -/
def secondOrSupplement? (e : Edition) (a b : Nat) : Option Char :=
  secondPlane? e a b <|> cell? Chart.jisSupplement a b

/-! ## Reading -/

/-- The half-width character of a byte. -/
def halfWidth? (n : Nat) : Option Char :=
  if 0xa1 ≤ n ∧ n ≤ 0xdf then some (Char.ofNat (0xff61 + (n - 0xa1))) else none

/-- What a byte from 128 on begins in Shift JIS. -/
def shiftStart (single? : Nat → Option Char) (last : Nat) (start : Nat → Nat → Start)
    (a : UInt8) (bytes : List UInt8) : Start :=
  let n := a.toNat
  match halfWidth? n <|> single? n with
  | some c => .chars [c] 0
  | none => if (shiftLead? n).isSome ∧ n ≤ last then lead start a bytes else .illegal 0

/-- The bytes that personal computers have beside those of Shift JIS. -/
def pcSingle? (n : Nat) : Option Char :=
  if n = 0x80 then some '\u0080'
  else if n = 0xa0 then some '\uf8f0'
  else if 0xfd ≤ n then some (Char.ofNat (0xf8f1 + (n - 0xfd)))
  else none

/-- What a byte from 128 on begins in EUC: byte 142 comes before a half-width character, and byte 143
before a character of a second chart. -/
def eucStart (start : Nat → Nat → Start) (second? : Nat → Nat → Option Char)
    (a : UInt8) : List UInt8 → Start
  | [] => .incomplete
  | b :: bytes =>
    if a = 0x8e then .ofChar? (halfWidth? b.toNat) 1
    else if a = 0x8f then
      match bytes with
      | [] => .incomplete
      | c :: _ => .ofChar? (second? b.toNat c.toNat) 2
    else start a.toNat b.toNat

end SlideDeck.Text.EastAsian
