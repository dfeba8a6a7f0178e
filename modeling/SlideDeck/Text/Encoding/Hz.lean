import SlideDeck.Text.Encoding.EastAsian.Basic
import SlideDeck.Text.Encoding.Fault

/-!
# HZ

GB 2312 in bytes below 128. A tilde starts an escape: an opening brace after it turns the bytes into
pairs of the chart, a closing one turns them back, another tilde stands for itself, and a line end is
left out.
-/

namespace SlideDeck.Text

/-- The characters of bytes, the first of which has the given place; `paired` says whether bytes are
pairs of the chart. -/
def hzFrom (paired : Bool) (place : Nat) : List UInt8 → Except DecodeFault (List Char)
  | [] => .ok []
  | [a] =>
    if 0x80 ≤ a.toNat then .error ⟨"hz", a, place, 1, "illegal multibyte sequence"⟩
    else if paired ∨ a = 0x7e then .error ⟨"hz", a, place, 1, "incomplete multibyte sequence"⟩
    else .ok [Char.ofNat a.toNat]
  | a :: b :: bytes =>
    let illegal := .error ⟨"hz", a, place, 1, "illegal multibyte sequence"⟩
    if a = 0x7e then
      match paired, b with
      | false, 0x7e => (hzFrom false (place + 2) bytes).map ('~' :: ·)
      | false, 0x7b => hzFrom true (place + 2) bytes
      | false, 0x0a => hzFrom false (place + 2) bytes
      | true, 0x7d => hzFrom false (place + 2) bytes
      | _, _ => illegal
    else if 0x80 ≤ a.toNat then illegal
    else if paired then
      match EastAsian.cell? Chart.gb (a.toNat + 0x80) (b.toNat + 0x80) with
      | some c => (hzFrom true (place + 2) bytes).map (c :: ·)
      | none => illegal
    else (hzFrom false (place + 1) (b :: bytes)).map (Char.ofNat a.toNat :: ·)

/-- The characters of bytes in HZ. -/
def decodeHz (bytes : List UInt8) : Except DecodeFault (List Char) :=
  hzFrom false 0 bytes

end SlideDeck.Text
