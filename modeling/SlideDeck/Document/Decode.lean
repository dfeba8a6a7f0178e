import SlideDeck.Document.Check
import SlideDeck.Slideshow

/-!
# Documents as slideshows

The document of a slideshow is an object per slide, section, color and pair. The body of a section
stands in an object whose one member is tagged `Figure` or `Text`. Members that no model names count
for nothing, and a section whose body is null is left out. Sections are taken as values wherever the
document comes from.

`Slideshow.ofJson` reads a document. Its problems come in the order of the model's fields.
-/

namespace SlideDeck

open Check

/-- A pair from its members. -/
def Vec2.ofMembers (origin : Origin) (ms : List (String × Json)) : Checked Vec2 :=
  Checked.apply ((required ms "x" (number origin)).map Vec2.mk) (required ms "y" (number origin))

/-- A pair. -/
def Vec2.ofJson (origin : Origin) : Json → Checked Vec2 :=
  model "Vec2" (Vec2.ofMembers origin)

/-- A color from checked channels. -/
def Color.ofChannels (r g b a : Checked UInt8) : Checked Color :=
  Checked.apply (Checked.apply (Checked.apply (r.map Color.mk) g) b) a

/-- A color from its members. -/
def Color.ofMembers (ms : List (String × Json)) : Checked Color :=
  Color.ofChannels (required ms "r" channel) (required ms "g" channel) (required ms "b" channel)
    (required ms "a" channel)

/-- A color. -/
def Color.ofJson : Json → Checked Color :=
  model "Color" Color.ofMembers

/-- Why a list of values is no color. -/
inductive ColorListError where
  | tooFew (count : Nat)
  | tooMany
  | invalid (problems : List Problem)
deriving DecidableEq, Repr

/-- A wrong count of values in words. -/
def ColorListError.message? : ColorListError → Option String
  | .tooFew count => some ("not enough values to unpack (expected 4, got " ++ toString count ++ ")")
  | .tooMany => some "too many values to unpack (expected 4)"
  | .invalid _ => none

/-- The color of four channels in a list. -/
def Color.ofList : List Json → Except ColorListError Color
  | [r, g, b, a] =>
    match Color.ofMembers [("r", r), ("g", g), ("b", b), ("a", a)] with
    | .ok c => .ok c
    | .error problems => .error (.invalid problems)
  | vs => .error (if vs.length < 4 then .tooFew vs.length else .tooMany)

/-- The tag of figures. -/
def figureTag : String := "Figure"

/-- The tag of texts. -/
def textTag : String := "Text"

/-- A member that repeats the tag of a body. -/
def repeatedTag (ms : List (String × Json)) (tag : String) : Checked Unit :=
  optional ms "kind" () fun
    | .string s => if s = tag then .ok () else Checked.complain (.wrongTag tag)
    | _ => Checked.complain (.wrongTag tag)

/-- A text from its members. -/
def TextBody.ofMembers (ms : List (String × Json)) : Checked TextBody :=
  Checked.apply
    (Checked.apply ((optional ms "text" "" string).map TextBody.mk)
      (optional ms "color" none (nullable Color.ofJson)))
    (optional ms "font" none (nullable string))

/-- A figure from its members. -/
def FigureBody.ofMembers (ms : List (String × Json)) : Checked FigureBody :=
  Checked.apply ((required ms "path" string).map FigureBody.mk)
    (optional ms "rotation" 0.0 (number .value))

/-- A text that stands alone; it may repeat its tag. -/
def TextBody.ofJson : Json → Checked TextBody :=
  model "SectionText" fun ms =>
    Checked.apply ((repeatedTag ms textTag).map fun _ b => b) (TextBody.ofMembers ms)

/-- A figure that stands alone; it may repeat its tag. -/
def FigureBody.ofJson : Json → Checked FigureBody :=
  model "SectionFigure" fun ms =>
    Checked.apply ((repeatedTag ms figureTag).map fun _ b => b) (FigureBody.ofMembers ms)

/-- A tagged body. -/
def Body.ofJson : Json → Checked Body
  | .object [(tag, .object ms)] =>
    if tag = figureTag then ((FigureBody.ofMembers ms).under (.key tag)).map Body.figure
    else if tag = textTag then ((TextBody.ofMembers ms).under (.key tag)).map Body.text
    else Checked.complain .untagged
  | _ => Checked.complain .untagged

/-- A section from its members. -/
def Section.ofMembers (ms : List (String × Json)) : Checked Section :=
  Checked.apply
    (Checked.apply ((optional ms "size" none (nullable (Vec2.ofJson .value))).map Section.mk)
      (optional ms "position" none (nullable (Vec2.ofJson .value))))
    (required ms "sec_main" Body.ofJson)

/-- A section. -/
def Section.ofJson : Json → Checked Section :=
  model "Section" Section.ofMembers

/-- Whether a value is a section that shows nothing, because its body is null. -/
def hasNullBody (v : Json) : Bool :=
  match v.member? "sec_main" with
  | some .null => true
  | _ => false

/-- The sections of a slide, without those that show nothing; the others are counted. -/
def Slide.sectionsOfJson (v : Json) : Checked (List Section) :=
  match v.settled with
  | .array vs => items Section.ofJson (.array (vs.filter fun v => ! hasNullBody v))
  | v => items Section.ofJson v

/-- A slide from its members. -/
def Slide.ofMembers (ms : List (String × Json)) : Checked Slide :=
  Checked.apply ((optional ms "bg_color" none (nullable Color.ofJson)).map Slide.mk)
    (optional ms "sections" [] Slide.sectionsOfJson)

/-- A slide. -/
def Slide.ofJson : Json → Checked Slide :=
  model "Slide" Slide.ofMembers

/-- A font table. -/
def FontTable.ofJson (v : Json) : Checked FontTable :=
  (table string v).map FontTable.ofList

/-- A slideshow from its members. -/
def Slideshow.ofMembers (origin : Origin) (ms : List (String × Json)) : Checked Slideshow :=
  Checked.apply
    (Checked.apply
      (Checked.apply
        (Checked.apply ((optional ms "slides" [] (items Slide.ofJson)).map Slideshow.mk)
          (optional ms "fonts" {} FontTable.ofJson))
        (optional ms "bg_col" none (nullable Color.ofJson)))
      (optional ms "font_col" none (nullable Color.ofJson)))
    (optional ms "font_size" none (nullable (Vec2.ofJson origin)))

/-- A slideshow. -/
def Slideshow.ofJson (origin : Origin) : Json → Checked Slideshow :=
  model "Slideshow" (Slideshow.ofMembers origin)

end SlideDeck
