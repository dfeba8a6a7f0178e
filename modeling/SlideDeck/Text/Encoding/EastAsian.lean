import SlideDeck.Text.Encoding.EastAsian.Chinese
import SlideDeck.Text.Encoding.EastAsian.Japanese
import SlideDeck.Text.Encoding.EastAsian.Korean
import SlideDeck.Text.Encoding.Fault

/-!
# East Asian sets

Sets in which a byte below 128 is a character on its own and two bytes from another one on are one
cell of a chart. Some have cells that differ from their chart or lie outside it; these are listed by
the number that the two bytes make. Where bytes begin with no character, the first of them is at fault,
and rarely the second too; where they end too early, all of them are.
-/

namespace SlideDeck.Text

/-- A set of characters of one and two bytes, and of more in a few of them. -/
inductive EastAsian where
  | shiftJis
  | pcShiftJis
  | extendedShiftJis (edition : EastAsian.Edition)
  /-- JIS X 0208 with both bytes from 161 on, and JIS X 0212 in three bytes. -/
  | eucJis
  | extendedEucJis (edition : EastAsian.Edition)
  | gb
  /-- GB 2312 and what it lacks of the unified ideographs. -/
  | gbk
  /-- All characters, those of GBK in two bytes and the others in four. -/
  | gb18030
  | big5
  | pcBig5
  | hongKong
  /-- KS X 1001 with both bytes from 161 on, and its other syllables spelt out in eight bytes. -/
  | ks
  | allSyllables
  /-- Syllables by their letters, and the rest of KS X 1001. -/
  | johab
deriving DecidableEq, Repr

namespace EastAsian

/-- The character of a byte below 128. -/
def basic (s : EastAsian) (a : UInt8) : Char :=
  match s with
  | .extendedShiftJis _ =>
    if a = 0x5c then '¥' else if a = 0x7e then '‾' else Char.ofNat a.toNat
  | _ => Char.ofNat a.toNat

/-- What a byte and those after it begin with. -/
def start (s : EastAsian) (a : UInt8) (bytes : List UInt8) : Start :=
  if a.toNat < 0x80 then .chars [s.basic a] 0
  else
    let none _ := none
    match s with
    | .shiftJis => shiftStart none 0xea (fun a b => .ofChar? (shiftJisPair? a b) 1) a bytes
    | .pcShiftJis =>
      shiftStart pcSingle? 0xfc (fun a b => .ofChar? (pcShiftJisPair? a b) 1) a bytes
    | .extendedShiftJis e => shiftStart none 0xfc (shiftExtendedPair e) a bytes
    | .eucJis =>
      eucStart (fun a b => .ofChar? (cell? Chart.jis a b) 1) (cell? Chart.jisSupplement) a bytes
    | .extendedEucJis e => eucStart (eucExtendedPair e) (secondOrSupplement? e) a bytes
    | .gb => pair (cell? Chart.gb) a bytes
    | .gbk => pair gbkPair? a bytes
    | .gb18030 => gb18030Start a bytes
    | .big5 => pair big5Pair? a bytes
    | .pcBig5 => pair pcBig5Pair? a bytes
    | .hongKong =>
      lead (fun a b => ((hongKongPair? a b).map (Start.chars · 1)).getD (.illegal 0)) a bytes
    | .ks => ksStart a bytes
    | .allSyllables => pair (fun a b => cell? Chart.ks a b <|> syllable? a b) a bytes
    | .johab => pair johabPair? a bytes

/-- The characters of bytes, the first of which has the given place. -/
def decodeFrom (s : EastAsian) (codec : String) (place : Nat) :
    List UInt8 → Except DecodeFault (List Char)
  | [] => .ok []
  | a :: bytes =>
    match s.start a bytes with
    | .chars cs more =>
      (decodeFrom s codec (place + 1 + more) (bytes.drop more)).map (cs ++ ·)
    | .illegal more => .error ⟨codec, a, place, 1 + more, "illegal multibyte sequence"⟩
    | .incomplete =>
      .error ⟨codec, a, place, bytes.length + 1, "incomplete multibyte sequence"⟩
termination_by bytes => bytes.length
decreasing_by simp only [List.length_drop, List.length_cons]; omega

/-- The characters of bytes in a set, which faults call by the given name. -/
def decode (s : EastAsian) (codec : String) (bytes : List UInt8) :
    Except DecodeFault (List Char) :=
  decodeFrom s codec 0 bytes

end EastAsian

end SlideDeck.Text
