import SlideDeck.Reader.Argument
import SlideDeck.Files.Resolve
import SlideDeck.Text.Escape
import SlideDeck.Text.Blank

/-!
# Reading a deck

A draft is a slideshow under construction: the slides that are closed, the open slide, and the
context that the last directive has put the reader in. `apply` carries out one lexeme; `read` goes
through a list of tokens, and stops at the first failure with the draft as it is then. Nothing that
was read before is taken back.

A directive checks everything before it changes the draft. The one exception is the import, which
closes the open slide before the other deck is read, so that a failing import leaves it closed.
-/

namespace SlideDeck

/-- A slideshow under construction. -/
structure Draft where
  slideshow : Slideshow := {}
  slide : Option Slide := none
  context : Context := .start
deriving DecidableEq

/-- What a deck is read in. -/
structure Surroundings where
  files : FileSystem
  base : Path
  load : Path → Except Failure Slideshow

/-- The most tokens that a directive looks at. -/
def windowSize : Nat := 4

namespace Draft

/-! ## Parts of a draft -/

/-- The draft in another context. -/
def enter (d : Draft) (c : Context) : Draft :=
  { d with context := c }

/-- The draft with its open slide closed. -/
def flush (d : Draft) : Draft :=
  match d.slide with
  | none => d
  | some s =>
    { d with slideshow := { d.slideshow with slides := d.slideshow.slides ++ [s] }, slide := none }

/-- The draft with a new open slide. -/
def openSlide (d : Draft) : Draft :=
  { d.flush with slide := some {} }

/-- The open slide. -/
def currentSlide (d : Draft) : Except DeckError Slide :=
  match d.slide with
  | none => .error .noSlide
  | some s => .ok s

/-- The last section of the open slide. -/
def lastSection (d : Draft) : Except DeckError Section :=
  match d.currentSlide with
  | .error e => .error e
  | .ok s =>
    match s.sections.getLast? with
    | none => .error .noSection
    | some last => .ok last

/-- The text of the last section, in a text section. -/
def lastText (d : Draft) : Except DeckError TextBody :=
  match d.lastSection with
  | .error e => .error e
  | .ok s =>
    match s.body with
    | .text b => .ok b
    | .figure _ => .error .lastNotText

/-- The figure of the last section, in a figure section. -/
def lastFigure (d : Draft) : Except DeckError FigureBody :=
  match d.lastSection with
  | .error e => .error e
  | .ok s =>
    match s.body with
    | .figure b => .ok b
    | .text _ => .error .lastNotFigure

/-- The draft with its open slide changed. -/
def changeSlide (d : Draft) (f : Slide → Slide) : Draft :=
  { d with slide := d.slide.map f }

/-- The draft with the last section of its open slide changed. -/
def changeSection (d : Draft) (f : Section → Section) : Draft :=
  d.changeSlide fun s => { s with sections := s.sections.modify (s.sections.length - 1) f }

/-- The draft with its defaults changed. -/
def changeDefaults (d : Draft) (f : Slideshow → Slideshow) : Draft :=
  { d with slideshow := f d.slideshow }

/-- The draft with a new section on its open slide. -/
def pushSection (d : Draft) (b : Body) : Except DeckError Draft :=
  match d.currentSlide with
  | .error e => .error e
  | .ok _ => .ok (d.changeSlide fun s => { s with sections := s.sections ++ [⟨none, none, b⟩] })

/-- The slideshow, the open slide closed. -/
def take (d : Draft) : Slideshow :=
  d.flush.slideshow

/-! ## Directives

Each gives the changed draft and how many of the tokens after it it takes. -/

/-- Refuses a directive outside of the contexts where it makes sense. -/
def requireContext (d : Draft) (directive : Directive) (allowed : List Context) :
    Except DeckError Unit :=
  if allowed.contains d.context then .ok () else .error (.misplaced directive d.context)

/-- A new slide. -/
def applySlide (d : Draft) : Draft :=
  d.openSlide.enter .slide

/-- A new text section. -/
def applyText (d : Draft) : Except DeckError (Draft × Nat) :=
  match d.pushSection (.text {}) with
  | .error e => .error e
  | .ok d => .ok (d.enter .text, 0)

/-- A new figure section. Its file must be there, and its path becomes canonical. -/
def applyFigure (around : Surroundings) (d : Draft) (window : List Lexeme) :
    Except Failure (Draft × Nat) :=
  match d.currentSlide with
  | .error e => .error (.ofError e)
  | .ok _ =>
    match Argument.path window "a figure" with
    | .error e => .error (.ofError e)
    | .ok written =>
      match around.files.resolve (around.base.join (Path.ofString written)) with
      | .error (.linkLoop path) => .error (.fault (.linkLoop path))
      | .error fault => .error (.ofError (.figureNotFound written around.base fault))
      | .ok found =>
        match d.pushSection (.figure ⟨found.text, 0.0⟩) with
        | .error e => .error (.ofError e)
        | .ok d => .ok (d.enter .figure, 1)

/-- The place of the last section. -/
def applyPosition (d : Draft) (window : List Lexeme) : Except DeckError (Draft × Nat) := do
  d.requireContext .position [.text, .figure]
  let _ ← d.lastSection
  let x ← Argument.number window 0 "position"
  let y ← Argument.number window 1 "position"
  return (d.changeSection fun s => { s with position := some ⟨x, y⟩ }, 2)

/-- The size of the last section, or the default size. -/
def applySize (d : Draft) (window : List Lexeme) : Except DeckError (Draft × Nat) := do
  d.requireContext .size [.defaults, .text, .figure]
  if d.context = .defaults then
    let (size, count) ← Argument.size window
    return (d.changeDefaults fun s => { s with fontSize := some size }, count)
  else
    let _ ← d.lastSection
    let (size, count) ← Argument.size window
    return (d.changeSection fun s => { s with size := some size }, count)

/-- The rotation of the last section. -/
def applyRotation (d : Draft) (window : List Lexeme) : Except DeckError (Draft × Nat) := do
  d.requireContext .rotation [.figure]
  let body ← d.lastFigure
  let degrees ← Argument.number window 0 "rotation"
  return (d.changeSection fun s => { s with body := .figure { body with rotation := degrees } }, 1)

/-- The color of the last section's letters, or the default one. -/
def applyFontColor (d : Draft) (window : List Lexeme) : Except DeckError (Draft × Nat) := do
  d.requireContext .fontColor [.defaults, .text]
  if d.context = .defaults then
    let (color, count) ← Argument.color window
    return (d.changeDefaults fun s => { s with fontColor := some color }, count)
  else
    let body ← d.lastText
    let (color, count) ← Argument.color window
    return (d.changeSection fun s => { s with body := .text { body with color := some color } },
      count)

/-- The background of the open slide, or the default one. -/
def applyBackground (d : Draft) (window : List Lexeme) : Except DeckError (Draft × Nat) := do
  d.requireContext .background [.defaults, .slide]
  if d.context = .defaults then
    let (color, count) ← Argument.color window
    return (d.changeDefaults fun s => { s with background := some color }, count)
  else
    let _ ← d.currentSlide
    let (color, count) ← Argument.color window
    return (d.changeSlide fun s => { s with background := some color }, count)

/-- A line of text: one more line of the last section, its escaped colons read as colons. Blank lines
may stand anywhere. -/
def applyTextLine (d : Draft) (line : String) : Except DeckError (Draft × Nat) :=
  if d.context = .text then
    match d.lastText with
    | .error e => .error e
    | .ok body =>
      let more := String.ofList (Text.unescape line.toList ++ ['\n'])
      .ok (d.changeSection fun s => { s with body := .text { body with text := body.text ++ more } },
        0)
  else if Text.isBlankLine line.toList then .ok (d, 0)
  else .error .strayText

/-- The slides of another deck, after the open slide, which is closed even if the deck cannot be
read. -/
def applyImport (around : Surroundings) (d : Draft) (window : List Lexeme) :
    Draft × Except Failure Nat :=
  match Argument.path window "an import" with
  | .error e => (d, .error (.ofError e))
  | .ok written =>
    let d := d.flush
    match around.load (around.base.join (Path.ofString written)) with
    | .error failure => (d, .error failure)
    | .ok other =>
      ((d.changeDefaults fun s => { s with slides := s.slides ++ other.slides }).enter .imported,
        .ok 1)

/-- The outcome of a step that changes nothing when it fails. -/
def attempt (d : Draft) (outcome : Except Failure (Draft × Nat)) : Draft × Except Failure Nat :=
  match outcome with
  | .error failure => (d, .error failure)
  | .ok (d, count) => (d, .ok count)

/-- The outcome of a step whose failures are all errors of the deck. -/
def attemptDeck (d : Draft) (outcome : Except DeckError (Draft × Nat)) :
    Draft × Except Failure Nat :=
  match outcome with
  | .error e => (d, .error (.ofError e))
  | .ok (d, count) => (d, .ok count)

/-- Carries out one lexeme, given the lexemes after it. Words and numbers are only good as arguments
of the directive before them. -/
def apply (around : Surroundings) (d : Draft) (l : Lexeme) (window : List Lexeme) :
    Draft × Except Failure Nat :=
  match l with
  | .directive .defaults => (d.enter .defaults, .ok 0)
  | .directive .slide => (d.applySlide, .ok 0)
  | .directive .text => d.attemptDeck d.applyText
  | .directive .figure => d.attempt (applyFigure around d window)
  | .directive .position => d.attemptDeck (d.applyPosition window)
  | .directive .size => d.attemptDeck (d.applySize window)
  | .directive .rotation => d.attemptDeck (d.applyRotation window)
  | .directive .fontColor => d.attemptDeck (d.applyFontColor window)
  | .directive .background => d.attemptDeck (d.applyBackground window)
  | .directive .importDeck => applyImport around d window
  | .textLine line => d.attemptDeck (d.applyTextLine line)
  | .comment _ => (d, .ok 0)
  | .word _ => (d, .error (.ofError .strayArgument))
  | .number _ => (d, .error (.ofError .strayArgument))

/-! ## Token lists -/

/-- Goes through tokens, the first of which are arguments already taken. -/
def readFrom (around : Surroundings) : Nat → Draft → List Token → Draft × Except Failure Unit
  | _, d, [] => (d, .ok ())
  | taken + 1, d, _ :: rest => readFrom around taken d rest
  | 0, d, t :: rest =>
    match apply around d t.lexeme ((rest.take windowSize).map Token.lexeme) with
    | (d, .error failure) => (d, .error (failure.attach t))
    | (d, .ok taken) => readFrom around taken d rest

/-- Goes through tokens from left to right, up to the first failure, which gets the token that it
came from. -/
def read (around : Surroundings) (d : Draft) (tokens : List Token) : Draft × Except Failure Unit :=
  readFrom around 0 d tokens

end Draft

end SlideDeck
