import SlideDeck.Document.File
import SlideDeck.Log
import SlideDeck.Reader.Deck

/-!
# What reading tells

The events of reading a deck follow the reading itself: the draft goes through the same tokens, and
at each of them the draft before it decides on what there is to tell. A failure ends the events
where it ends the reading.
-/

namespace SlideDeck

namespace Draft

/-- The event of closing the open slide, if there is one. -/
def flushEvents (d : Draft) : List Event :=
  match d.slide with
  | none => []
  | some s => [.slideClosed d.slideshow.slides.length s.sections.length]

/-- The events of an import, given those of reading the other deck. -/
def importEvents (around : Surroundings) (nested : Path → List Event) (d : Draft)
    (window : List Lexeme) : List Event :=
  match Argument.path window "an import" with
  | .error _ => []
  | .ok written =>
    let path := around.base.join (Path.ofString written)
    d.flushEvents ++ nested path ++
      match around.load path with
      | .error _ => []
      | .ok other => [.spliced other.slides.length written]

/-- The events of one lexeme. -/
def lexemeEvents (around : Surroundings) (nested : Path → List Event) (d : Draft) (l : Lexeme)
    (window : List Lexeme) : List Event :=
  match l with
  | .directive .slide => d.flushEvents
  | .directive .importDeck => d.importEvents around nested window
  | _ => []

/-- The events of going through tokens, the first of which are arguments already taken, and of closing
the last slide. -/
def eventsFrom (around : Surroundings) (nested : Path → List Event) :
    Nat → Draft → List Token → List Event
  | _, d, [] => d.flushEvents
  | taken + 1, d, _ :: rest => eventsFrom around nested taken d rest
  | 0, d, t :: rest =>
    let window := (rest.take windowSize).map Token.lexeme
    d.lexemeEvents around nested t.lexeme window ++
      match apply around d t.lexeme window with
      | (_, .error _) => []
      | (d, .ok taken) => eventsFrom around nested taken d rest

end Draft

namespace Deck

/-- The events of reading the deck in a file, given how imports are read and what that tells. -/
def fileEvents (options : ReadOptions) (files : FileSystem)
    (load : Path → Except Failure Slideshow) (nested : Path → List Event) (path : Path) :
    List Event :=
  match files.isFile path, readText files options.encoding path with
  | .ok true, .ok chars =>
    Draft.eventsFrom ⟨files, path.parent, load⟩ nested 0 {}
        (Token.tokenize (String.ofList chars) 0) ++
      match parseFileWith options files load path with
      | .error _ => []
      | .ok s => [.deckRead path s.slides.length]
  | _, _ => []

/-- The events of reading a deck for an import, with as many further imports as the number says. -/
def importEvents (options : ReadOptions) (files : FileSystem) :
    Nat → List Path → Path → List Event
  | 0, _, _ => []
  | budget + 1, way, path =>
    match files.resolve path with
    | .error _ => []
    | .ok found =>
      if options.detectCycles && way.contains found then []
      else
        .importing found ::
          fileEvents options files (importDeck options files budget (way ++ [found]))
            (importEvents options files budget (way ++ [found])) found

/-- The events of reading the deck in a file. -/
def parseFileEvents (options : ReadOptions) (files : FileSystem) (path : Path) : List Event :=
  match files.resolveLenient path with
  | .error _ => []
  | .ok found =>
    fileEvents options files (loader options files [found])
      (importEvents options files (importBudget options [found]) [found]) path

end Deck

/-- The events of reading the document in a file. -/
def Document.loadEvents (files : FileSystem) (path : Path) : List Event :=
  match Document.load files path with
  | .error _ => []
  | .ok s => [.documentRead path s.slides.length]

end SlideDeck
