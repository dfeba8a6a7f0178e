import SlideDeck.Slideshow
import SlideDeck.DeckError
import SlideDeck.Token.Scan

/-!
# Slideshows as decks

`Slideshow.toDeck` writes a slideshow in the deck language: a line of defaults if there are any, then
for each slide its line and the lines of its sections. Colors are written with digits and sizes as
pairs. The language has no word for fonts, so these are left out; a figure path that is not one plain
word, and a line of text that would be read as something else, are errors.
-/

namespace SlideDeck

open SlideDeck.Text

/-- A number in a deck. -/
def numberWord (x : Float) : String :=
  Number.plain.text x

/-- A directive and the two numbers of a pair. -/
def pairWords (d : Directive) (v : Vec2) : List String :=
  [d.mnemonic, numberWord v.x, numberWord v.y]

/-- A directive and a color. -/
def colorWords (d : Directive) (c : Color) : List String :=
  [d.mnemonic, c.toHex]

/-- The words of a setting that may be missing. -/
def settingWords {α : Type} (words : α → List String) : Option α → List String
  | none => []
  | some a => words a

/-- Words on a line. -/
def lineOf (words : List String) : String :=
  " ".intercalate words

/-- Lines as a text, each with its newline. -/
def textOf (lines : List String) : String :=
  String.join (lines.map fun line => line ++ "\n")

/-- A figure path as it is written: one word, which is read back as a plain word. -/
def pathWord (path : String) : Except DeckError String :=
  if path.isEmpty || path.toList.any isBlank then .error (.pathWithBlank path)
  else
    match Lexeme.ofWord path.toList with
    | .word _ => .ok path
    | _ => .error (.pathNotPlain path)

/-- A line of text as it is written, its colons escaped. -/
def textLine (line : List Char) : Except DeckError String :=
  let written := String.ofList line
  if holdsEscape line then .error (.escapeInLine written)
  else if line.getLast? = some '\r' then .error (.returnInLine written)
  else if line.head? = some '#' then .error (.commentLine written)
  else .ok (String.ofList (escape line))

/-- The lines of a text body. -/
def bodyLines (text : String) : Except DeckError (List String) :=
  if text.isEmpty then .ok []
  else ((dropFinalNewline text.toList).splitOn '\n').mapM textLine

/-- Whether a rotation is written: a zero is not, of either sign. -/
def isWritten (rotation : Float) : Bool :=
  !(rotation == 0.0)

/-- The lines of a section. -/
def Section.toLines (s : Section) : Except DeckError (List String) :=
  let geometry :=
    settingWords (pairWords .position) s.position ++ settingWords (pairWords .size) s.size
  match s.body with
  | .figure b => do
    let path ← pathWord b.path
    let rotation :=
      if isWritten b.rotation then [Directive.rotation.mnemonic, numberWord b.rotation] else []
    return [lineOf (Directive.figure.mnemonic :: path :: geometry ++ rotation)]
  | .text b => do
    let head :=
      Directive.text.mnemonic :: geometry ++ settingWords (colorWords .fontColor) b.color
    let lines ← bodyLines b.text
    return lineOf head :: lines

/-- The lines of a slide. -/
def Slide.toLines (s : Slide) : Except DeckError (List String) := do
  let sections ← s.sections.mapM Section.toLines
  return lineOf (Directive.slide.mnemonic :: settingWords (colorWords .background) s.background) ::
    sections.flatten

/-- The line of the defaults, if there are any. -/
def Slideshow.defaultLines (s : Slideshow) : List String :=
  let words :=
    settingWords (colorWords .background) s.background ++
      settingWords (colorWords .fontColor) s.fontColor ++
      settingWords (pairWords .size) s.fontSize
  if words.isEmpty then [] else [lineOf (Directive.defaults.mnemonic :: words)]

/-- A slide as a deck. -/
def Slide.toDeck (s : Slide) : Except DeckError String :=
  s.toLines.map textOf

/-- A slideshow as a deck. -/
def Slideshow.toDeck (s : Slideshow) : Except DeckError String := do
  let slides ← s.slides.mapM Slide.toLines
  return textOf (s.defaultLines ++ slides.flatten)

end SlideDeck
