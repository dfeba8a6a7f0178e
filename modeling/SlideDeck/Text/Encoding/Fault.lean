import SlideDeck.Text.Nameprep
import SlideDeck.Text.Quoted

/-!
# Bytes that are no text

What keeps bytes from being read in an encoding: some of them may be at fault, or all of them. What
is wrong is said in words, with the place of the bytes at fault.
-/

namespace SlideDeck.Text

/-- Bytes at fault. -/
structure DecodeFault where
  codec : String
  first : UInt8
  start : Nat
  count : Nat
  reason : String
deriving DecidableEq, Repr

/-- A byte in two lower-case hexadecimal digits. -/
def byteHex (b : UInt8) : String :=
  String.ofList (hexDigits 2 b.toNat)

/-- A decoding fault in words. -/
def DecodeFault.message (f : DecodeFault) : String :=
  let bytes :=
    if f.count ≤ 1 then "byte 0x" ++ byteHex f.first ++ " in position " ++ toString f.start
    else
      "bytes in position " ++ toString f.start ++ "-" ++ toString (f.start + f.count - 1)
  "'" ++ f.codec ++ "' codec can't decode " ++ bytes ++ ": " ++ f.reason

/-- Why bytes are no text of an encoding. -/
inductive Undecodable where
  | bytes (fault : DecodeFault)
  | noByteOrderMark (width : Nat)
  | never
  | noDigit (c : Char)
  | endsInNumber
  | noSet
  | beyondUnicode (code : Nat)
  /-- A half of a pair, at this place in its line, and so many more after it. -/
  | half (code place more : Nat)
  | inLabel (why : Undecodable)
  | labelLength
  | labelMark
  | unprepared (why : Nameprep.Fault)
  | unlikeLabel (label written : String)
deriving DecidableEq, Repr

/-- A code point in quotes. -/
def quotedPoint (code : Nat) : String :=
  if code.isValidChar then quoted (Char.ofNat code).toString
  else "'\\u" ++ String.ofList (hexDigits 4 code) ++ "'"

/-- In words, why a label has no prepared form. -/
def Nameprep.Fault.message : Nameprep.Fault → String
  | .prohibited code => "Invalid character " ++ quotedPoint code
  | .bothDirections => "Violation of BIDI requirement 2"
  | .endsOtherwise => "Violation of BIDI requirement 3"

/-- In words, why bytes are no text. -/
def Undecodable.message : Undecodable → String
  | .bytes fault => fault.message
  | .noByteOrderMark width =>
    "UTF-" ++ toString width ++ " stream does not start with BOM"
  | .never => "undefined encoding"
  | .noSet => "internal codec error"
  | .noDigit c => "Invalid extended code point '" ++ c.toString ++ "'"
  | .endsInNumber => "incomplete punicode string"
  | .beyondUnicode code => "Invalid character U+" ++ String.ofList (Nat.toDigits 16 code)
  | .half code place more =>
    let which :=
      if more = 0 then " " ++ quotedPoint code ++ " in position " ++ toString place
      else "s in position " ++ toString place ++ "-" ++ toString (place + more)
    "'utf-8' codec can't encode character" ++ which ++ ": surrogates not allowed"
  | .inLabel why =>
    "decoding with 'punycode' codec failed (UnicodeError: " ++ why.message ++ ")"
  | .labelLength => "label empty or too long"
  | .labelMark => "Label starts with ACE prefix"
  | .unprepared why => why.message
  | .unlikeLabel label written =>
    "('IDNA does not round-trip', b" ++ quoted label ++ ", b" ++ quoted written ++ ")"

/-! ## Halves of pairs -/

/-- Whether a unit of two bytes is the first half of a pair. -/
def isHighHalf (n : Nat) : Bool :=
  0xd800 ≤ n && n ≤ 0xdbff

/-- Whether a unit of two bytes is the second half of a pair. -/
def isLowHalf (n : Nat) : Bool :=
  0xdc00 ≤ n && n ≤ 0xdfff

/-- Whether a code point is one of those that only halves of pairs have. -/
def isHalf (code : Nat) : Bool :=
  isHighHalf code || isLowHalf code

/-- The first half among code points and its place in the line, and how many halves more come right
after it. Before the code points, so many places of the line are left out. -/
def firstHalf? (place : Nat) : List Nat → Option (Nat × Nat × Nat)
  | [] => none
  | code :: codes =>
    if isHalf code then some (code, place, (codes.takeWhile isHalf).length)
    else firstHalf? (if code = 0x0a ∨ code = 0x0d then 0 else place + 1) codes

/-- The characters of code points. A half of a pair is no character. -/
def characters (codes : List Nat) : Except Undecodable (List Char) :=
  match firstHalf? 0 codes with
  | some (code, place, more) => .error (.half code place more)
  | none => .ok (codes.map Char.ofNat)

/-! ## One byte to a character -/

/-- The characters of bytes that stand for one each, the first of which has the given place. A byte
that stands for nothing is at fault. -/
def decodeSingles (codec reason : String) (char? : UInt8 → Option Char) :
    Nat → List UInt8 → Except DecodeFault (List Char)
  | _, [] => .ok []
  | place, b :: bytes =>
    match char? b with
    | some c => (decodeSingles codec reason char? (place + 1) bytes).map (c :: ·)
    | none => .error ⟨codec, b, place, 1, reason⟩

/-- The characters of bytes below 128. -/
def decodeAscii (bytes : List UInt8) : Except DecodeFault (List Char) :=
  let char? b := if b.toNat < 0x80 then some (Char.ofNat b.toNat) else none
  decodeSingles "ascii" "ordinal not in range(128)" char? 0 bytes

/-- Every byte as the character of that code point. -/
def decodeLatin1 (bytes : List UInt8) : List Char :=
  bytes.map fun b => Char.ofNat b.toNat

end SlideDeck.Text
