import SlideDeck.Drawing.Layout
import SlideDeck.Files.Path

/-!
# Events

What a run has to tell besides its results. An event has a level and a source, and is told as a line
if its level is at or above the chosen one.
-/

namespace SlideDeck

/-- How urgent an event is. -/
inductive Level where
  | debug
  | info
  | warning
  | error
deriving DecidableEq, Repr

namespace Level

/-- The name of a level. -/
def name : Level → String
  | debug => "DEBUG"
  | info => "INFO"
  | warning => "WARNING"
  | error => "ERROR"

/-- The rank of a level. -/
def rank : Level → Nat
  | debug => 0
  | info => 1
  | warning => 2
  | error => 3

/-- The levels from the least urgent on. -/
def all : List Level :=
  [debug, info, warning, error]

/-- The level of a name. -/
def ofName? (name : String) : Option Level :=
  all.find? fun l => l.name = name

end Level

/-- Something that happens in a run. -/
inductive Event where
  | slideClosed (position sections : Nat)
  | importing (path : Path)
  | spliced (slides : Nat) (written : String)
  | deckRead (path : Path) (slides : Nat)
  | documentRead (path : Path) (slides : Nat)
  | fontsDropped (count : Nat)
  | imageMissing (warning : Warning)
  | drawn (slides : Nat) (path : Path)
deriving DecidableEq

namespace Event

/-- The level of an event. -/
def level : Event → Level
  | imageMissing _ => .warning
  | drawn .. => .info
  | _ => .debug

/-- The part of the program that an event comes from. -/
def source : Event → String
  | slideClosed .. | importing _ => "slidy.dsl.lexer"
  | spliced .. => "slidy.dsl.handlers"
  | deckRead .. => "slidy.dsl.parser"
  | documentRead .. => "slidy.dsl.interchange"
  | fontsDropped _ => "slidy.dsl.serializer"
  | imageMissing _ | drawn .. => "slidy.renderer.pptx_renderer"

/-- An event in words. -/
def message : Event → String
  | slideClosed position sections =>
    "Pushing slide " ++ toString position ++ " (" ++ toString sections ++ " sections)"
  | importing path => "Importing " ++ path.text
  | spliced slides written =>
    "Splicing " ++ toString slides ++ " imported slide(s) from " ++ written
  | deckRead path slides => "Parsed " ++ path.text ++ ": " ++ toString slides ++ " slides"
  | documentRead path slides => "Loaded " ++ path.text ++ ": " ++ toString slides ++ " slides"
  | fontsDropped count => "Dropping " ++ toString count ++ " font table entries"
  | imageMissing w => w.message
  | drawn slides path => "Rendered " ++ toString slides ++ " slides to " ++ path.text

/-- An event as a line. -/
def line (e : Event) : String :=
  e.level.name ++ " " ++ e.source ++ ": " ++ e.message ++ "\n"

end Event

/-- The lines of the events at or above a level. -/
def logLines (threshold : Level) (events : List Event) : String :=
  String.join ((events.filter fun e => threshold.rank ≤ e.level.rank).map Event.line)

end SlideDeck
