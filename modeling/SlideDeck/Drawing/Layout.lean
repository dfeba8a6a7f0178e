import SlideDeck.Drawing.Image
import SlideDeck.Drawing.Shape
import SlideDeck.Files.Tree
import SlideDeck.Slideshow

/-!
# From slideshows to drawings

Every slide becomes a page. A figure becomes a picture, or a text in its place if its file is no
image; of that a warning tells. A text becomes one shape per line that is not empty. A text with a
place has its lines below each other from there, and all others go down the page from its margin:
each line drawn, wherever it stands, takes the height of its cell from what is left.

`Slideshow.draw` stops at the first thing that cannot be drawn, and keeps the warnings up to there.
-/

namespace SlideDeck

open Drawing

/-- What a slideshow leaves open: the measures of pages, the last defaults, and which files hold images. -/
structure Style where
  width : Float := 13.333
  height : Float := 7.5
  font : String := "Courier New"
  cell : Vec2 := ⟨0.018, 0.08⟩
  margin : Float := 0.01
  background : Color := Color.white
  fontColor : Color := Color.black
  figurePosition : Vec2 := ⟨0.01, 0.01⟩
  figureSize : Vec2 := ⟨0.1, 0.1⟩
  images : Image.Formats := .common

/-- A warning: the file of a figure is no image. -/
structure Warning where
  path : String
deriving DecidableEq, Repr

/-- A warning in words. -/
def Warning.message (w : Warning) : String :=
  "Image not found: " ++ w.path ++ ", using placeholder"

/-- What came of drawing something: the warnings on the way, and the result or what prevents it. -/
structure Drawn (α : Type) where
  warnings : List Warning
  result : Except DrawingError α

namespace Drawn

/-- A result without warnings. -/
def ofResult {α : Type} (r : Except DrawingError α) : Drawn α :=
  ⟨[], r⟩

/-- Goes on from a result, if there is one. -/
def bind {α β : Type} (d : Drawn α) (f : α → Drawn β) : Drawn β :=
  match d.result with
  | .error e => ⟨d.warnings, .error e⟩
  | .ok a => ⟨d.warnings ++ (f a).warnings, (f a).result⟩

/-- Changes a result, if there is one. -/
def map {α β : Type} (f : α → β) (d : Drawn α) : Drawn β :=
  ⟨d.warnings, d.result.map f⟩

end Drawn

/-- A part of a page, in inches. -/
structure Area where
  left : Float
  top : Float
  width : Float
  height : Float
deriving DecidableEq

namespace Area

/-- The area at a place of a page, of a size; both are fractions of the page. -/
def ofPage (style : Style) (position size : Vec2) : Area :=
  ⟨position.x * style.width, position.y * style.height, size.x * style.width,
    size.y * style.height⟩

/-- The box of an area. -/
def box (a : Area) : Except DrawingError Box := do
  let left ← lengthOfInches a.left
  let top ← lengthOfInches a.top
  let width ← lengthOfInches a.width
  let height ← lengthOfInches a.height
  return ⟨left, top, width, height⟩

end Area

/-- Points to the inch. -/
def pointsPerInch : Float := 72.0

/-- A text in an area, with its font size in points. -/
def drawText (style : Style) (a : Area) (text : List Char) (points : Float)
    (color : Option Rgb) : Except DrawingError TextShape := do
  let box ← a.box
  let text ← drawnText text
  let size ← fontSizeOfPoints points
  let font ← drawnFont style.font
  return ⟨box, text, size, color, font⟩

/-! ## Figures -/

/-- Why an image cannot be placed. -/
inductive PlacingError where
  | unreadable
  | drawing (error : DrawingError)
deriving DecidableEq, Repr

/-- How a drawing error appears in placing an image. -/
def PlacingError.ofDrawing : DrawingError → PlacingError
  | .infinite => .drawing .infinite
  | .tooManyPixels count greatest => .drawing (.tooManyPixels count greatest)
  | _ => .unreadable

/-- The box of an image in an area. The area is looked at before the file. -/
def placeImage (images : Image.Formats) (files : FileSystem) (path : String) (a : Area) :
    Except PlacingError Box := do
  let box ← a.box.mapError PlacingError.ofDrawing
  let bytes ← (files.bytesAt path).mapError fun _ => .unreadable
  match ← (images.load bytes).mapError PlacingError.ofDrawing with
  | none => .error .unreadable
  | some image =>
    let (width, height) ← (image.fit box.width box.height).mapError PlacingError.ofDrawing
    return { box with width, height }

/-- The area of a figure. -/
def figureArea (style : Style) (s : Section) : Area :=
  Area.ofPage style (s.position.getD style.figurePosition) (s.size.getD style.figureSize)

/-- The text that stands for an image. -/
def placeholderText (path : String) : List Char :=
  ("[Image: " ++ (Path.ofString path).name ++ "]").toList

/-- The text in the place of an image. Its letters have a quarter of the area's height. -/
def drawPlaceholder (style : Style) (a : Area) (path : String) : Except DrawingError TextShape :=
  drawText style a (placeholderText path) (a.height * pointsPerInch / 4.0) none

/-- A figure. -/
def drawFigure (style : Style) (files : FileSystem) (s : Section) (b : FigureBody) :
    Drawn Shape :=
  let a := figureArea style s
  match placeImage style.images files b.path a with
  | .error .unreadable => ⟨[⟨b.path⟩], (drawPlaceholder style a b.path).map Shape.text⟩
  | .error (.drawing e) => Drawn.ofResult (.error e)
  | .ok box =>
    Drawn.ofResult ((angleOfDegrees b.rotation).map fun r => .picture ⟨box, b.path, r⟩)

/-! ## Texts -/

/-- How the lines of a text are drawn. -/
structure LineLooks where
  position : Option Vec2
  cell : Vec2
  color : Rgb
deriving DecidableEq

/-- The place of a line: below the place of its text, or at the margin on the height that is next. -/
def linePosition (style : Style) (looks : LineLooks) (index : Nat) (next : Float) : Vec2 :=
  match looks.position with
  | some p => ⟨p.x, p.y + looks.cell.y * Float.ofNat index⟩
  | none => ⟨style.margin, next⟩

/-- One line; its box is as wide as its letters. -/
def drawLine (style : Style) (looks : LineLooks) (index : Nat) (next : Float) (line : List Char) :
    Except DrawingError TextShape :=
  let a := Area.ofPage style (linePosition style looks index next)
    ⟨Float.ofNat line.length * looks.cell.x, looks.cell.y⟩
  drawText style a line (a.height * pointsPerInch) (some looks.color)

/-- Lines from the one with the given index on, and the height that is next after them. Empty lines
count for the index and for nothing else. -/
def drawLines (style : Style) (looks : LineLooks) :
    Nat → Float → List (List Char) → Except DrawingError (List Shape × Float)
  | _, next, [] => .ok ([], next)
  | index, next, [] :: rest => drawLines style looks (index + 1) next rest
  | index, next, (c :: cs) :: rest => do
    let shape ← drawLine style looks index next (c :: cs)
    let (shapes, next) ← drawLines style looks (index + 1) (next + looks.cell.y) rest
    return (.text shape :: shapes, next)

/-! ## Slides -/

/-- What the sections of a slide fall back on. -/
structure Fallback where
  cell : Vec2
  color : Color
deriving DecidableEq

/-- What the sections of a slideshow fall back on: its defaults, then those of the style. -/
def Slideshow.fallback (s : Slideshow) (style : Style) : Fallback :=
  ⟨s.fontSize.getD style.cell, s.fontColor.getD style.fontColor⟩

/-- The background of a slide: its own, the slideshow's, or the style's. -/
def Slideshow.backgroundOf (s : Slideshow) (style : Style) (slide : Slide) : Color :=
  (slide.background.orElse fun _ => s.background).getD style.background

/-- A section, and the height that is next after it. -/
def drawSection (style : Style) (files : FileSystem) (fallback : Fallback) (next : Float)
    (s : Section) : Drawn (List Shape × Float) :=
  match s.body with
  | .figure b => (drawFigure style files s b).map fun shape => ([shape], next)
  | .text b =>
    let looks : LineLooks :=
      ⟨s.position, s.size.getD fallback.cell, (b.color.getD fallback.color).toRgb⟩
    Drawn.ofResult (drawLines style looks 0 next (b.text.toList.splitOn '\n'))

/-- Sections one after the other. -/
def drawSections (style : Style) (files : FileSystem) (fallback : Fallback) :
    Float → List Section → Drawn (List Shape)
  | _, [] => Drawn.ofResult (.ok [])
  | next, s :: rest =>
    (drawSection style files fallback next s).bind fun (shapes, next) =>
      (drawSections style files fallback next rest).map (shapes ++ ·)

/-- A slide of a slideshow. -/
def drawSlide (style : Style) (files : FileSystem) (s : Slideshow) (slide : Slide) : Drawn Page :=
  (drawSections style files (s.fallback style) style.margin slide.sections).map fun shapes =>
    ⟨(s.backgroundOf style slide).toRgb, shapes⟩

/-- Slides one after the other. -/
def drawSlides (style : Style) (files : FileSystem) (s : Slideshow) : List Slide → Drawn (List Page)
  | [] => Drawn.ofResult (.ok [])
  | slide :: rest =>
    (drawSlide style files s slide).bind fun page =>
      (drawSlides style files s rest).map (page :: ·)

/-- A slideshow as a drawing. -/
def Slideshow.draw (style : Style) (files : FileSystem) (s : Slideshow) : Drawn Drawing :=
  (Drawn.ofResult (pageSizeOfInches style.width)).bind fun width =>
    (Drawn.ofResult (pageSizeOfInches style.height)).bind fun height =>
      (drawSlides style files s s.slides).map fun pages => ⟨width, height, pages⟩

end SlideDeck
