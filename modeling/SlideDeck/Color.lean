import SlideDeck.Text.Lower
import SlideDeck.Text.Quoted

/-!
# Colors

A color has four channels of one byte. A word names one as `#` and eight hexadecimal digits, two per
channel, or by a name of the web-safe palette in any case. Main operations: `ofHex`, `ofName`,
`parse` (which of the two), and `toHex`, the written form that decks use.
-/

namespace SlideDeck

open SlideDeck.Text

/-- A color with its opacity, one byte per channel. -/
structure Color where
  r : UInt8
  g : UInt8
  b : UInt8
  a : UInt8
deriving DecidableEq, Repr

/-- A color without opacity, as drawings have it. -/
structure Rgb where
  r : UInt8
  g : UInt8
  b : UInt8
deriving DecidableEq, Repr

/-- Why a word is no color. -/
inductive ColorError where
  | notHex (word : String)
  | wrongLength (word : String)
  | unknownName (word : String)
deriving DecidableEq, Repr

/-- The text of a color error. -/
def ColorError.message : ColorError → String
  | .notHex word => "only hexadecimal characters are allowed, got " ++ quoted word
  | .wrongLength word => "hex colors must look like #rrggbbaa, got " ++ quoted word
  | .unknownName word => quoted word ++ " is not a known color name"

namespace Color

/-- The value of an ASCII hexadecimal digit of either case. -/
def hexValue? (c : Char) : Option Nat :=
  if '0' ≤ c ∧ c ≤ '9' then some (c.toNat - '0'.toNat)
  else if 'a' ≤ c ∧ c ≤ 'f' then some (c.toNat - 'a'.toNat + 10)
  else if 'A' ≤ c ∧ c ≤ 'F' then some (c.toNat - 'A'.toNat + 10)
  else none

/-- A channel from its two hexadecimal digits. -/
def channelOf (high low : Nat) : UInt8 :=
  UInt8.ofNat (16 * high + low)

/-- The two lower-case hexadecimal digits of a channel. -/
def channelHex (c : UInt8) : List Char :=
  hexDigits 2 c.toNat

/-- The color of eight digit values. -/
def ofHexValues? : List Nat → Option Color
  | [r, r', g, g', b, b', a, a'] =>
    some ⟨channelOf r r', channelOf g g', channelOf b b', channelOf a a'⟩
  | _ => none

/-- A text without the one number sign that may start it. -/
def dropNumberSign : List Char → List Char
  | '#' :: cs => cs
  | cs => cs

/-- The color that eight hexadecimal digits write, with or without a number sign before them. -/
def ofHex (word : String) : Except ColorError Color :=
  match (dropNumberSign word.toList).mapM hexValue? with
  | none => .error (.notHex word)
  | some values =>
    match ofHexValues? values with
    | none => .error (.wrongLength word)
    | some c => .ok c

/-- The web-safe palette. -/
def palette : List (String × Color) :=
  [("acqua", ⟨0x00, 0xff, 0xff, 0xff⟩),
   ("black", ⟨0x00, 0x00, 0x00, 0xff⟩),
   ("blue", ⟨0x00, 0x00, 0xff, 0xff⟩),
   ("fuchsia", ⟨0xff, 0x00, 0xff, 0xff⟩),
   ("gray", ⟨0x80, 0x80, 0x80, 0xff⟩),
   ("green", ⟨0x00, 0x80, 0x00, 0xff⟩),
   ("lime", ⟨0x00, 0xff, 0x00, 0xff⟩),
   ("maroon", ⟨0x80, 0x00, 0x00, 0xff⟩),
   ("navy", ⟨0x00, 0x00, 0x80, 0xff⟩),
   ("olive", ⟨0x80, 0x80, 0x00, 0xff⟩),
   ("purple", ⟨0x80, 0x00, 0x80, 0xff⟩),
   ("red", ⟨0xff, 0x00, 0x00, 0xff⟩),
   ("silver", ⟨0xc0, 0xc0, 0xc0, 0xff⟩),
   ("teal", ⟨0x00, 0x80, 0x80, 0xff⟩),
   ("white", ⟨0xff, 0xff, 0xff, 0xff⟩),
   ("yellow", ⟨0xff, 0xff, 0x00, 0xff⟩)]

/-- The color of a name, in any case. -/
def ofName (name : String) : Except ColorError Color :=
  match palette.lookup (lower name) with
  | none => .error (.unknownName name)
  | some c => .ok c

/-- The color of a word: after a number sign its digits, else a name. -/
def parse (word : String) : Except ColorError Color :=
  match word.toList with
  | '#' :: _ => ofHex word
  | _ => ofName word

/-- The written form of a color. -/
def toHex (c : Color) : String :=
  String.ofList ('#' :: channelHex c.r ++ channelHex c.g ++ channelHex c.b ++ channelHex c.a)

/-- A color without its opacity. -/
def toRgb (c : Color) : Rgb :=
  ⟨c.r, c.g, c.b⟩

/-- Opaque white. -/
def white : Color := ⟨0xff, 0xff, 0xff, 0xff⟩

/-- Opaque black. -/
def black : Color := ⟨0x00, 0x00, 0x00, 0xff⟩

end Color

/-- The six upper-case hexadecimal digits of a color without opacity. -/
def Rgb.text (c : Rgb) : String :=
  String.ofList
    ((Color.channelHex c.r ++ Color.channelHex c.g ++ Color.channelHex c.b).map Char.toUpper)

end SlideDeck
