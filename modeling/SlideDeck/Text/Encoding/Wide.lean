import SlideDeck.Text.Encoding.Fault

/-!
# UTF-16 and UTF-32

Units of two and of four bytes, in one of two orders. Where the order is not known, a byte-order mark
at the start gives it.
-/

namespace SlideDeck.Text

/-- The order of the bytes of a unit. -/
inductive ByteOrder where
  | little
  | big
deriving DecidableEq, Repr

namespace ByteOrder

/-- The name in faults of an encoding with units of this many bits. -/
def codec (order : ByteOrder) (width : Nat) : String :=
  "utf-" ++ toString width ++ match order with
    | .little => "-le"
    | .big => "-be"

/-- A unit from its bytes as they come. -/
def unit (order : ByteOrder) (bytes : List UInt8) : Nat :=
  match order with
  | .little => bytes.foldr (fun b n => b.toNat + 256 * n) 0
  | .big => bytes.foldl (fun n b => 256 * n + b.toNat) 0

end ByteOrder

/-- The character of a pair. -/
def ofHalves (high low : Nat) : Char :=
  Char.ofNat (0x10000 + (high - 0xd800) * 0x400 + (low - 0xdc00))

/-- The characters of two-byte units, the first of which has the given place. -/
def utf16From (order : ByteOrder) : Nat → List UInt8 → Except DecodeFault (List Char)
  | _, [] => .ok []
  | place, [a] => .error ⟨order.codec 16, a, place, 1, "truncated data"⟩
  | place, a :: b :: bytes =>
    let high := order.unit [a, b]
    if isLowHalf high then .error ⟨order.codec 16, a, place, 2, "illegal encoding"⟩
    else if isHighHalf high then
      match bytes with
      | [] => .error ⟨order.codec 16, a, place, 2, "unexpected end of data"⟩
      | [_] => .error ⟨order.codec 16, a, place, 3, "unexpected end of data"⟩
      | c :: d :: bytes =>
        let low := order.unit [c, d]
        if isLowHalf low then
          (utf16From order (place + 4) bytes).map (ofHalves high low :: ·)
        else .error ⟨order.codec 16, a, place, 2, "illegal UTF-16 surrogate"⟩
    else (utf16From order (place + 2) bytes).map (Char.ofNat high :: ·)

/-- The characters of two-byte units, in the order that the byte-order mark at their start gives.
Units without a mark must be well-formed in the little order to be found without a mark. -/
def decodeUtf16 : List UInt8 → Except Undecodable (List Char)
  | [] => .ok []
  | 0xff :: 0xfe :: bytes => (utf16From .little 2 bytes).mapError .bytes
  | 0xfe :: 0xff :: bytes => (utf16From .big 2 bytes).mapError .bytes
  | bytes =>
    match utf16From .little 0 bytes with
    | .error fault => .error (.bytes fault)
    | .ok _ => .error (.noByteOrderMark 16)

/-- The characters of four-byte units, the first of which has the given place. -/
def utf32From (order : ByteOrder) : Nat → List UInt8 → Except DecodeFault (List Char)
  | _, [] => .ok []
  | place, a :: b :: c :: d :: bytes =>
    let n := order.unit [a, b, c, d]
    if isHighHalf n || isLowHalf n then
      .error ⟨order.codec 32, a, place, 4,
        "code point in surrogate code point range(0xd800, 0xe000)"⟩
    else if 0x110000 ≤ n then
      .error ⟨order.codec 32, a, place, 4, "code point not in range(0x110000)"⟩
    else (utf32From order (place + 4) bytes).map (Char.ofNat n :: ·)
  | place, a :: bytes => .error ⟨order.codec 32, a, place, bytes.length + 1, "truncated data"⟩

/-- The characters of four-byte units, in the order that the byte-order mark at their start gives.
Units without a mark must be well-formed in the little order to be found without a mark. -/
def decodeUtf32 : List UInt8 → Except Undecodable (List Char)
  | [] => .ok []
  | 0xff :: 0xfe :: 0x00 :: 0x00 :: bytes => (utf32From .little 4 bytes).mapError .bytes
  | 0x00 :: 0x00 :: 0xfe :: 0xff :: bytes => (utf32From .big 4 bytes).mapError .bytes
  | bytes =>
    match utf32From .little 0 bytes with
    | .error fault => .error (.bytes fault)
    | .ok _ => .error (.noByteOrderMark 32)

end SlideDeck.Text
