import SlideDeck.Drawing.Shape
import SlideDeck.Json.Writer

/-!
# Descriptions of drawings

A drawing is kept in a file as the JSON text of its pages and shapes.
-/

namespace SlideDeck

/-- An optional string, null if it is missing. -/
def Json.ofText : Option String → Json
  | none => .null
  | some s => .string s

/-- A box as a list of its four numbers. -/
def Box.toJson (b : Box) : Json :=
  .array [.integer b.left, .integer b.top, .integer b.width, .integer b.height]

/-- A shape as an object. -/
def Shape.toJson : Shape → Json
  | .text s =>
    .object [("kind", .string "text"), ("box", s.box.toJson), ("text", .string s.text),
      ("size", .integer s.size), ("color", .ofText (s.color.map Rgb.text)),
      ("font", .ofText s.font)]
  | .picture s =>
    .object [("kind", .string "picture"), ("box", s.box.toJson), ("image", .string s.image),
      ("rotation", .integer s.rotation)]

/-- A page as an object. -/
def Page.toJson (p : Page) : Json :=
  .object [("background", .string p.background.text),
    ("shapes", .array (p.shapes.map Shape.toJson))]

namespace Drawing

/-- A drawing as an object. -/
def toJson (d : Drawing) : Json :=
  .object [("width", .integer d.width), ("height", .integer d.height),
    ("pages", .array (d.pages.map Page.toJson))]

/-- The text of the file that holds a drawing. -/
def fileText (d : Drawing) : String :=
  d.toJson.write (some 2) ++ "\n"

end Drawing

end SlideDeck
