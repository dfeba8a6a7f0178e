import SlideDeck.Text.Encoding.Wide

/-!
# UTF-7

Text in bytes below 128. A plus sign starts a section of base-64 digits, which hold units of UTF-16
bit after bit; the first byte that is no digit ends the section, and a minus sign there is dropped. A
plus sign before a minus sign stands for itself. A half of a pair may stand without the other one.
-/

namespace SlideDeck.Text

/-- The value of a base-64 digit. -/
def base64Digit? (b : UInt8) : Option Nat :=
  let n := b.toNat
  if 0x41 ≤ n ∧ n ≤ 0x5a then some (n - 0x41)
  else if 0x61 ≤ n ∧ n ≤ 0x7a then some (n - 0x61 + 26)
  else if 0x30 ≤ n ∧ n ≤ 0x39 then some (n - 0x30 + 52)
  else if n = 0x2b then some 62
  else if n = 0x2f then some 63
  else none

/-- A section of base-64 digits, as far as it is read. -/
structure Base64Section where
  start : Nat
  /-- How many bits are left over from the units so far. -/
  width : Nat := 0
  bits : Nat := 0
  /-- The first half of a pair that waits for the second one. -/
  high : Option Nat := none

namespace Base64Section

/-- A section after one more unit, and the code points that are complete with it. -/
def unit (s : Base64Section) (n : Nat) : Base64Section × List Nat :=
  match s.high with
  | some high =>
    if isLowHalf n then ({ s with high := none }, [(ofHalves high n).toNat])
    else if isHighHalf n then ({ s with high := some n }, [high])
    else ({ s with high := none }, [high, n])
  | none =>
    if isHighHalf n then ({ s with high := some n }, [])
    else (s, [n])

/-- A section after one more digit, and the code points that are complete with it. -/
def digit (s : Base64Section) (d : Nat) : Base64Section × List Nat :=
  let bits := 64 * s.bits + d
  let width := s.width + 6
  if width < 16 then ({ s with width, bits }, [])
  else
    let scale := Nat.pow 2 (width - 16)
    unit { s with width := width - 16, bits := bits % scale } (bits / scale)

/-- The fault of a section that reaches to the given place. -/
def fault (s : Base64Section) (stop : Nat) (reason : String) : DecodeFault :=
  ⟨"utf7", 0x2b, s.start, stop - s.start, reason⟩

end Base64Section

/-- The code points of UTF-7 bytes, the first of which has the given place, in or after a section. -/
def utf7From : Option Base64Section → Nat → List UInt8 → Except DecodeFault (List Nat)
  | none, _, [] => .ok []
  | some s, place, [] =>
    if s.high.isSome ∨ 6 ≤ s.width ∨ s.bits ≠ 0 then
      .error (s.fault place "unterminated shift sequence")
    else .ok []
  | none, place, 0x2b :: 0x2d :: bytes => (utf7From none (place + 2) bytes).map (0x2b :: ·)
  | none, place, b :: bytes =>
    if b = 0x2b then
      if bytes.head?.any fun c => (base64Digit? c).isNone then
        .error ⟨"utf7", b, place, 2, "ill-formed sequence"⟩
      else utf7From (some { start := place }) (place + 1) bytes
    else if b.toNat < 0x80 then
      (utf7From none (place + 1) bytes).map (b.toNat :: ·)
    else .error ⟨"utf7", b, place, 1, "unexpected special character"⟩
  | some s, place, b :: bytes =>
    match base64Digit? b with
    | some d =>
      (utf7From (some (s.digit d).1) (place + 1) bytes).map ((s.digit d).2 ++ ·)
    | none =>
      if 6 ≤ s.width then .error (s.fault (place + 1) "partial character in shift sequence")
      else if s.bits ≠ 0 then
        .error (s.fault (place + 1) "non-zero padding bits in shift sequence")
      else if b.toNat < 0x80 then
        let kept := if b = 0x2d then [] else [b.toNat]
        (utf7From none (place + 1) bytes).map (s.high.toList ++ kept ++ ·)
      else .error ⟨"utf7", b, place, 1, "unexpected special character"⟩

/-- The characters of UTF-7 bytes. -/
def decodeUtf7 (bytes : List UInt8) : Except Undecodable (List Char) :=
  ((utf7From none 0 bytes).mapError .bytes).bind characters

end SlideDeck.Text
