import SlideDeck.Text.Encoding.EastAsian.Basic

/-!
# Chinese sets

GB 2312 with both bytes of a cell from 161 on, and the sets that fill what it leaves of the pairs of
bytes; and Big5, with what personal computers and Hong Kong add to it.
-/

namespace SlideDeck.Text.EastAsian

/-! ## GB 2312 and its extensions -/

/-- What GBK has in place of cells of GB 2312, and beside them. -/
def gbkCells : Cells :=
  .ofRuns
    [(0xa1a4, "·"), (0xa1aa, "—"), (0xa2a1, "ⅰⅱⅲⅳⅴⅵⅶⅷⅸⅹ"), (0xa6e0, "︵︶︹︺︿﹀︽︾﹁﹂﹃﹄"),
     (0xa6ee, "︻︼︷︸︱"), (0xa6f4, "︳︴"),
     (0xa840, "ˊˋ˙–―‥‵℅℉↖↗↘↙∕∟∣≒≦≧⊿═║╒╓╔╕╖╗╘╙╚╛╜╝╞╟╠╡╢╣╤╥╦╧╨╩╪╫╬╭╮╯╰╱╲╳▁▂▃▄▅▆▇"),
     (0xa880, "█▉▊▋▌▍▎▏▓▔▕▼▽◢◣◤◥☉⊕〒〝〞"), (0xa8bb, "ɑ"), (0xa8bd, "ńň"), (0xa8c0, "ɡ"),
     (0xa940, "〡〢〣〤〥〦〧〨〩㊣㎎㎏㎜㎝㎞㎡㏄㏎㏑㏒㏕︰￢￤"), (0xa959, "℡㈱"), (0xa95c, "‐"),
     (0xa960, "ー゛゜ヽヾ〆ゝゞ﹉﹊﹋﹌﹍﹎﹏﹐﹑﹒﹔﹕﹖﹗﹙﹚﹛﹜﹝﹞﹟﹠﹡"), (0xa980, "﹢﹣﹤﹥﹦﹨﹩﹪﹫"),
     (0xa996, "〇")]

/-- The ideographs of GBK after those that GB 2312 lacks. -/
def gbkLast : List Char :=
  ("\uf92c\uf979\uf995\uf9e7\uf9f1\ufa0c\ufa0d\ufa0e\ufa0f\ufa11\ufa13" ++
    "\ufa14\ufa18\ufa1f\ufa20\ufa21\ufa23\ufa24\ufa27\ufa28\ufa29").toList

/-- What GB 18030 has in two bytes beside GBK and the private characters. -/
def gb18030Cells : Cells :=
  .ofRuns
    [(0xa2e3, "€"), (0xa8bf, "ǹ"), (0xa989, "〾⿰⿱⿲⿳⿴⿵⿶⿷⿸⿹⿺⿻"), (0xfe50, "⺁"), (0xfe54, "⺄㑳㑇⺈⺋"),
     (0xfe5a, "㖞㘚㘎⺌⺗㥮㤘"), (0xfe62, "㧏㧟㩳㧐"), (0xfe68, "㭎㱮㳠⺧"), (0xfe6e, "⺪䁖䅟⺮䌷⺳⺶⺷"),
     (0xfe77, "䎱䎬⺻䏝䓖䙡䙌"), (0xfe80, "䜣䜩䝼䞍⻊䥇䥺䥽䦂䦃䦅䦆䦟䦛䦷䦶"), (0xfe92, "䲣䲟䲠䲡䱷䲢䴓䴔䴕䴖䴗䴘䴙䶮")]

/-- The place in the rest of the unified ideographs that two bytes of GBK have: first all trail bytes
of the leads up to 160, then those up to 160 of the leads from 170 on. -/
def gbkIndex? (a b : Nat) : Option Nat :=
  (trailIndex? b).bind fun trail =>
    if 0x81 ≤ a ∧ a ≤ 0xa0 then some ((a - 0x81) * 190 + trail)
    else if 0xaa ≤ a ∧ a ≤ 0xfe ∧ trail < 96 then some (6080 + (a - 0xaa) * 96 + trail)
    else none

/-- Two bytes in GBK. -/
def gbkPair? (a b : Nat) : Option Char :=
  (gbkCells[pairNumber a b]? <|> cell? Chart.gb a b) <|>
    (gbkIndex? a b).bind fun i =>
      Chart.beyondGb[i]? <|> gbkLast[i - Chart.beyondGb.size]?

/-- The private character of two bytes in the three areas that GB 18030 keeps for them. -/
def gbPrivate? (a b : Nat) : Option Char :=
  if 0xaa ≤ a ∧ a ≤ 0xaf ∧ 0xa1 ≤ b ∧ b ≤ 0xfe then
    some (Char.ofNat (0xe000 + (a - 0xaa) * 94 + (b - 0xa1)))
  else if 0xf8 ≤ a ∧ a ≤ 0xfe ∧ 0xa1 ≤ b ∧ b ≤ 0xfe then
    some (Char.ofNat (0xe234 + (a - 0xf8) * 94 + (b - 0xa1)))
  else if 0xa1 ≤ a ∧ a ≤ 0xa7 ∧ b ≤ 0xa0 then
    (trailIndex? b).map fun trail => Char.ofNat (0xe4c6 + (a - 0xa1) * 96 + trail)
  else none

/-- All pairs of a lead byte and a trail byte, in order. -/
def gbPairs : List (Nat × Nat) :=
  (List.range 126).flatMap fun a =>
    ((List.range 191).filter (· ≠ 0x3f)).map fun b => (a + 0x81, b + 0x40)

/-- The private characters of the pairs that GBK and the three areas leave over, in order. -/
def gbSpareCells : Cells :=
  let spare := gbPairs.filter fun (a, b) => (gbkPair? a b <|> gbPrivate? a b).isNone
  Std.HashMap.ofList <| spare.zipIdx.map fun ((a, b), i) => (pairNumber a b, Char.ofNat (0xe766 + i))

/-- Two bytes in GB 18030. -/
def gb18030Pair? (a b : Nat) : Option Char :=
  (gb18030Cells[pairNumber a b]? <|> gbkPair? a b) <|>
    (gbPrivate? a b <|> gbSpareCells[pairNumber a b]?)

/-- The characters below U+10000 that GB 18030 does not have in one or two bytes. -/
def gb18030Rest : Array Char :=
  Chart.lacking (Chart.span 0x80 (0xd800 - 0x80) ++ Chart.span 0xe000 0x2000)
    (gbPairs.filterMap fun (a, b) => gb18030Pair? a b)

/-- The character of four bytes in GB 18030. -/
def gb18030Four? (a b c d : Nat) : Option Char :=
  if 0x81 ≤ a ∧ a ≤ 0xfe ∧ 0x81 ≤ c ∧ c ≤ 0xfe ∧ 0x30 ≤ d ∧ d ≤ 0x39 then
    let n := ((a - 0x81) * 10 + (b - 0x30)) * 1260 + (c - 0x81) * 10 + (d - 0x30)
    if n < 189000 then gb18030Rest[n]?
    else if n < 189000 + 0x100000 then some (Char.ofNat (0x10000 + (n - 189000)))
    else none
  else none

/-- What a byte from 128 on begins in GB 18030: before a digit it is the first of four bytes. -/
def gb18030Start (a : UInt8) : List UInt8 → Start
  | [] => .incomplete
  | b :: bytes =>
    if 0x30 ≤ b.toNat ∧ b.toNat ≤ 0x39 then
      match bytes with
      | c :: d :: _ => .ofChar? (gb18030Four? a.toNat b.toNat c.toNat d.toNat) 3
      | _ => .incomplete
    else pair gb18030Pair? a (b :: bytes)

/-! ## Big5 -/

/-- Two bytes in Big5. -/
def big5Pair? (a b : Nat) : Option Char :=
  if a < 0xa1 then none
  else if 0x40 ≤ b ∧ b ≤ 0x7e then Chart.big5.char? (2 * (a - 0xa1)) (b - 0x40)
  else if 0xa1 ≤ b then Chart.big5.char? (2 * (a - 0xa1) + 1) (b - 0xa1)
  else none

/-- What personal computers have in place of cells of Big5, and beside them. -/
def pcBig5Cells : Cells :=
  .ofRuns
    [(0xa145, "‧"), (0xa14e, "﹑"), (0xa1c2, "¯"), (0xa1e3, "～"), (0xa1f2, "⊕⊙"), (0xa241, "∕﹨"),
     (0xa244, "￥"), (0xa246, "￠￡"), (0xa3e1, "€"),
     (0xf9d6, "碁銹裏墻恒粧嫺╔╦╗╠╬╣╚╩╝╒╤╕╞╪╡╘╧╛╓╥╖╟╫╢╙╨╜║═╭╮╰╯▓")]

/-- Two bytes in Big5 on personal computers. -/
def pcBig5Pair? (a b : Nat) : Option Char :=
  pcBig5Cells[pairNumber a b]? <|> big5Pair? a b

/-- The cells that Hong Kong has of its own. -/
def hongKongCells : Cells :=
  (Cells.ofRuns Chart.hongKongRuns).insertMany
    (Chart.hongKongCompatible.map fun (n, code) => (n, Char.ofNat code))

/-- Two bytes in Big5 with the characters of Hong Kong. -/
def hongKongPair? (a b : Nat) : Option (List Char) :=
  let n := pairNumber a b
  if Chart.hongKongEmpty.contains n then none
  else Chart.hongKongSequences.lookup n <|> (hongKongCells[n]? <|> big5Pair? a b).map ([·])

end SlideDeck.Text.EastAsian
