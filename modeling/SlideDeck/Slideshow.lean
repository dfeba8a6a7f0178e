import SlideDeck.Color
import SlideDeck.Entries

/-!
# Slideshows

A slideshow is a list of slides with the defaults that hold for all of them. A slide holds sections
in drawing order, and a section a body, text or figure, at an optional place and size. Places and
sizes are fractions of the slide, from its upper left corner.
-/

namespace SlideDeck

/-- A pair of numbers: a place or a size. -/
structure Vec2 where
  x : Float
  y : Float
deriving DecidableEq

/-- Text with its looks. Its lines end in newlines. -/
structure TextBody where
  text : String := ""
  color : Option Color := none
  font : Option String := none
deriving DecidableEq

/-- An image. -/
structure FigureBody where
  path : String
  rotation : Float := 0.0
deriving DecidableEq

/-- What a section shows. -/
inductive Body where
  | text (body : TextBody)
  | figure (body : FigureBody)
deriving DecidableEq

/-- A body with its place and size. -/
structure Section where
  size : Option Vec2 := none
  position : Option Vec2 := none
  body : Body
deriving DecidableEq

/-- A slide. -/
structure Slide where
  background : Option Color := none
  sections : List Section := []
deriving DecidableEq

/-- Fonts by name, in the order in which the names were first given. -/
structure FontTable where
  entries : List (String × String) := []
  nodup : (entries.map Prod.fst).Nodup := by exact List.nodup_nil
deriving DecidableEq

namespace FontTable

/-- The table with a font file under a name. -/
def insert (t : FontTable) (name file : String) : FontTable where
  entries := insertEntry name file t.entries
  nodup := nodup_insertEntry name file t.entries t.nodup

/-- The table of some entries; of entries with one name the last counts, in the first one's place. -/
def ofList (es : List (String × String)) : FontTable :=
  es.foldl (fun t e => t.insert e.1 e.2) {}

end FontTable

/-- A document: slides and their defaults. -/
structure Slideshow where
  slides : List Slide := []
  fonts : FontTable := {}
  background : Option Color := none
  fontColor : Option Color := none
  /-- The size of the cell of one letter, for texts that have none. -/
  fontSize : Option Vec2 := none
deriving DecidableEq

/-- Whether a body is text. -/
def Body.isText : Body → Bool
  | .text _ => true
  | .figure _ => false

/-- Whether a body is a figure. -/
def Body.isFigure : Body → Bool
  | .text _ => false
  | .figure _ => true

/-! ## Agreement

Two slideshows agree if their numbers are equal as numbers and all else is the same: a zero agrees
with its negative, and what is not a number agrees with nothing, itself included. -/

/-- Two optional values both missing, or both there and related. -/
def agreeOption {α : Type} (agree : α → α → Bool) : Option α → Option α → Bool
  | none, none => true
  | some a, some b => agree a b
  | _, _ => false

/-- Two lists of one length whose members are related in order. -/
def agreeList {α : Type} (agree : α → α → Bool) : List α → List α → Bool
  | [], [] => true
  | a :: as, b :: bs => agree a b && agreeList agree as bs
  | _, _ => false

/-- Pairs agree number by number. -/
def Vec2.agrees (v w : Vec2) : Bool :=
  v.x == w.x && v.y == w.y

/-- Bodies agree if they are of one kind and their rotations are equal as numbers. -/
def Body.agrees : Body → Body → Bool
  | .text b, .text c => decide (b = c)
  | .figure b, .figure c => decide (b.path = c.path) && b.rotation == c.rotation
  | _, _ => false

/-- Sections agree part by part. -/
def Section.agrees (s t : Section) : Bool :=
  agreeOption Vec2.agrees s.size t.size && agreeOption Vec2.agrees s.position t.position &&
    s.body.agrees t.body

/-- Slides agree section by section. -/
def Slide.agrees (s t : Slide) : Bool :=
  decide (s.background = t.background) && agreeList Section.agrees s.sections t.sections

/-- Slideshows agree slide by slide and in their defaults. -/
def Slideshow.agrees (s t : Slideshow) : Bool :=
  agreeList Slide.agrees s.slides t.slides &&
    s.fonts.entries.all (fun e => t.fonts.entries.contains e) &&
    t.fonts.entries.all (fun e => s.fonts.entries.contains e) &&
    decide (s.background = t.background) && decide (s.fontColor = t.fontColor) &&
    agreeOption Vec2.agrees s.fontSize t.fontSize

end SlideDeck
