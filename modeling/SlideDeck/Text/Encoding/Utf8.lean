import SlideDeck.Text.Encoding.Fault

/-!
# UTF-8

UTF-8 admits exactly the shortest form of each character: a lead byte fixes how many bytes follow and
the range of the first of them.
-/

namespace SlideDeck.Text

/-- What follows a lead byte: the bits it holds, the range of the next byte, and how many further
bytes of the common range come after that one. -/
structure Lead where
  bits : Nat
  low : Nat
  high : Nat
  more : Nat

/-- The lead bytes of characters of two, three and four bytes. -/
def lead? (b : Nat) : Option Lead :=
  if 0xc2 ≤ b ∧ b ≤ 0xdf then some ⟨b - 0xc0, 0x80, 0xbf, 0⟩
  else if b = 0xe0 then some ⟨0, 0xa0, 0xbf, 1⟩
  else if b = 0xed then some ⟨0xd, 0x80, 0x9f, 1⟩
  else if 0xe1 ≤ b ∧ b ≤ 0xef then some ⟨b - 0xe0, 0x80, 0xbf, 1⟩
  else if b = 0xf0 then some ⟨0, 0x90, 0xbf, 2⟩
  else if 0xf1 ≤ b ∧ b ≤ 0xf3 then some ⟨b - 0xf0, 0x80, 0xbf, 2⟩
  else if b = 0xf4 then some ⟨4, 0x80, 0x8f, 2⟩
  else none

/-- How a character of several bytes ends. -/
inductive Tail where
  | read (code : Nat) (rest : List UInt8)
  | endsAfter (count : Nat)
  /-- After this many bytes of the character comes one that cannot go on. -/
  | breaksAfter (count : Nat)

/-- The further bytes of a character, all of the common range, after `count` bytes that read
`code`. -/
def readMore : Nat → Nat → Nat → List UInt8 → Tail
  | 0, _, code, bytes => .read code bytes
  | _ + 1, count, _, [] => .endsAfter count
  | more + 1, count, code, b :: bytes =>
    if 0x80 ≤ b.toNat ∧ b.toNat ≤ 0xbf then
      readMore more (count + 1) (64 * code + (b.toNat - 0x80)) bytes
    else .breaksAfter count

/-- The bytes of a character after its lead byte. -/
def readTail (lead : Lead) : List UInt8 → Tail
  | [] => .endsAfter 1
  | b :: bytes =>
    if lead.low ≤ b.toNat ∧ b.toNat ≤ lead.high then
      readMore lead.more 2 (64 * lead.bits + (b.toNat - 0x80)) bytes
    else .breaksAfter 1

/-- The characters of UTF-8 bytes, the first of which has the given place; the fuel bounds the count
of characters. -/
def utf8From : Nat → Nat → List UInt8 → Except DecodeFault (List Char)
  | _, _, [] => .ok []
  | 0, _, _ :: _ => .ok []
  | fuel + 1, place, b :: bytes =>
    if b.toNat < 0x80 then
      (utf8From fuel (place + 1) bytes).map (Char.ofNat b.toNat :: ·)
    else
      match lead? b.toNat with
      | none => .error ⟨"utf-8", b, place, 1, "invalid start byte"⟩
      | some lead =>
        match readTail lead bytes with
        | .read code rest =>
          (utf8From fuel (place + 2 + lead.more) rest).map (Char.ofNat code :: ·)
        | .endsAfter count => .error ⟨"utf-8", b, place, count, "unexpected end of data"⟩
        | .breaksAfter count => .error ⟨"utf-8", b, place, count, "invalid continuation byte"⟩

/-- The characters of UTF-8 bytes. -/
def decodeUtf8 (bytes : List UInt8) : Except DecodeFault (List Char) :=
  utf8From bytes.length 0 bytes

/-- The characters of UTF-8 bytes after an optional byte-order mark; places are counted after it. A
beginning of the mark and nothing else is no text, and no fault. -/
def decodeMarkedUtf8 : List UInt8 → Except DecodeFault (List Char)
  | [0xef] => .ok []
  | [0xef, 0xbb] => .ok []
  | 0xef :: 0xbb :: 0xbf :: bytes => decodeUtf8 bytes
  | bytes => decodeUtf8 bytes

end SlideDeck.Text
