import SlideDeck.Color
import SlideDeck.Drawing.Units

/-!
# Drawings

A drawing is what a slideshow becomes on paper: pages of one size, each with its background and the
shapes on it, from the lowest to the topmost. A shape is a box with one line of text or a picture.
-/

namespace SlideDeck

/-- A box, in units of length from the upper left corner of its page. -/
structure Box where
  left : Int
  top : Int
  width : Int
  height : Int
deriving DecidableEq, Repr

/-- A box with text. Its text is not wrapped, and starts at the box's edges. -/
structure TextShape where
  box : Box
  text : String
  size : Int
  color : Option Rgb
  font : Option String
deriving DecidableEq, Repr

/-- A box with an image. -/
structure PictureShape where
  box : Box
  image : String
  rotation : Int
deriving DecidableEq, Repr

/-- A shape on a page. -/
inductive Shape where
  | text (shape : TextShape)
  | picture (shape : PictureShape)
deriving DecidableEq, Repr

/-- A page. -/
structure Page where
  background : Rgb
  shapes : List Shape
deriving DecidableEq, Repr

/-- A drawing. -/
structure Drawing where
  width : Int
  height : Int
  pages : List Page
deriving DecidableEq, Repr

/-! ## Text in shapes -/

/-- A line break inside a text. -/
def lineBreakMark : Char := '\x0b'

/-- A character as a drawing holds it: breaks of lines become one mark, and the other control
characters are spelt out. -/
def drawnChar (c : Char) : List Char :=
  if c = '\n' ∨ c = lineBreakMark then [lineBreakMark]
  else if c = '\t' then ['\t']
  else if c.toNat < 0x20 then
    "_x".toList ++ (Text.hexDigits 4 c.toNat).map Char.toUpper ++ ['_']
  else [c]

/-- The characters that no drawing can hold. -/
def isUndrawable (c : Char) : Bool :=
  c.toNat == 0xfffe || c.toNat == 0xffff

/-- A text as a drawing holds it. -/
def drawnText (cs : List Char) : Except DrawingError String :=
  if cs.any isUndrawable then .error .unprintable else .ok (String.ofList (cs.flatMap drawnChar))

/-- The name of a font as a drawing holds it; an empty name is none. -/
def drawnFont (name : String) : Except DrawingError (Option String) :=
  if name = "" then .ok none
  else if name.toList.any fun c =>
      isUndrawable c || (c.toNat < 0x20 && ! ['\t', '\n', '\r'].contains c) then
    .error .unprintable
  else .ok (some name)

end SlideDeck
