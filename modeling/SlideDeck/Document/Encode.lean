import SlideDeck.Document.Decode

/-!
# Slideshows as documents

`Slideshow.toJson` gives the document that `Slideshow.ofJson` reads as the slideshow. Every member of
the model is there, in the order of the model; what is missing from the slideshow is null.
-/

namespace SlideDeck

/-- An optional value, null if it is missing. -/
def Json.ofOption {α : Type} (f : α → Json) : Option α → Json
  | none => .null
  | some a => f a

/-- A pair as a document. -/
def Vec2.toJson (v : Vec2) : Json :=
  .object [("x", .real v.x), ("y", .real v.y)]

/-- A color as a document. -/
def Color.toJson (c : Color) : Json :=
  .object [("r", .integer c.r.toNat), ("g", .integer c.g.toNat), ("b", .integer c.b.toNat),
    ("a", .integer c.a.toNat)]

/-- A text as a document, without its tag. -/
def TextBody.toJson (b : TextBody) : Json :=
  .object [("text", .string b.text), ("color", .ofOption Color.toJson b.color),
    ("font", .ofOption Json.string b.font)]

/-- A figure as a document, without its tag. -/
def FigureBody.toJson (b : FigureBody) : Json :=
  .object [("path", .string b.path), ("rotation", .real b.rotation)]

/-- A body as a document, under its tag. -/
def Body.toJson : Body → Json
  | .text b => .object [(textTag, b.toJson)]
  | .figure b => .object [(figureTag, b.toJson)]

/-- A section as a document. -/
def Section.toJson (s : Section) : Json :=
  .object [("size", .ofOption Vec2.toJson s.size), ("position", .ofOption Vec2.toJson s.position),
    ("sec_main", s.body.toJson)]

/-- A slide as a document. -/
def Slide.toJson (s : Slide) : Json :=
  .object [("bg_color", .ofOption Color.toJson s.background),
    ("sections", .array (s.sections.map Section.toJson))]

/-- A font table as a document. -/
def FontTable.toJson (t : FontTable) : Json :=
  .object (t.entries.map fun e => (e.1, .string e.2))

/-- A slideshow as a document. -/
def Slideshow.toJson (s : Slideshow) : Json :=
  .object [("slides", .array (s.slides.map Slide.toJson)), ("fonts", s.fonts.toJson),
    ("bg_col", .ofOption Color.toJson s.background),
    ("font_col", .ofOption Color.toJson s.fontColor),
    ("font_size", .ofOption Vec2.toJson s.fontSize)]

end SlideDeck
