import SlideDeck.Color
import SlideDeck.Token.Basic
import SlideDeck.Files.Path
import SlideDeck.Files.Fault
import SlideDeck.Document.Problem

/-!
# Errors of decks and documents

`DeckError` lists the causes; `message` gives each its wording and `kind` its class. An error is
reported with the token that was being read, if there was one: `Located` holds the two, and the
first token attached stays. A fault of the surroundings that no deck error wraps passes through as
it is (`Failure`).
-/

namespace SlideDeck

/-- Where the last directive has put the reader of a deck. -/
inductive Context where
  | start
  | defaults
  | slide
  | figure
  | text
  | imported
deriving DecidableEq, Repr

/-- The name of a context in messages. -/
def Context.label : Context → String
  | .start => "none"
  | .defaults => "general"
  | .slide => "slide"
  | .figure => "figure"
  | .text => "text"
  | .imported => "import"

/-- The context of a name. -/
def Context.ofLabel? (name : String) : Option Context :=
  [Context.start, .defaults, .slide, .figure, .text, .imported].find? fun c => c.label = name

/-- Where a directive makes sense, in words. -/
def Directive.rule : Directive → String
  | .position => "position only makes sense for text and figures"
  | .size => "size only makes sense in general, text and figure sections"
  | .rotation => "rotation only makes sense in a figure section"
  | .fontColor => "font color only makes sense in general and text sections"
  | .background => "background color only makes sense in general and slide sections"
  | d => d.label

/-- Why a lexeme is no color channel. -/
inductive ChannelError where
  | notNumber (found : Lexeme)
  | outOfRange (value : Float)
deriving DecidableEq

/-- A channel error in words. -/
def ChannelError.message : ChannelError → String
  | .notNumber found => "expected a color channel, found " ++ found.text
  | .outOfRange value =>
    "color channels are integers in [0, 255], found " ++ Number.plain.text value

/-- The classes of errors. -/
inductive ErrorKind where
  | any
  | state
  | arity
  | channelRange
  | colorResolution
  | deckIO
  | recursiveParse
  | importCycle
  | interchange
  | serialization
deriving DecidableEq, Repr

/-- The class that a class of errors belongs to. -/
def ErrorKind.parent? : ErrorKind → Option ErrorKind
  | .any => none
  | .channelRange => some .arity
  | .importCycle => some .recursiveParse
  | _ => some .any

/-- What is wrong with a deck, a document or a slideshow. -/
inductive DeckError where
  | noSlide
  | noSection
  | strayText
  | lastNotText
  | lastNotFigure
  | misplaced (directive : Directive) (context : Context)
  | strayArgument
  | numberMissing (what : String)
  | numberExpected (what : String) (found : Lexeme)
  | sizeMissing
  | pathExpected (what : String) (found : Option Lexeme)
  | channel (error : ChannelError)
  | colorMissing
  | badColorWord (channels : Option ChannelError) (word : ColorError)
  | notColor (channels : Option ChannelError) (first : Lexeme)
  | color (error : ColorError)
  | figureNotFound (path : String) (base : Path) (fault : Fault)
  | importNotFound (path : Path) (fault : Fault)
  | notFile (path : Path)
  | unreadable (path : Path) (fault : Fault)
  | importCycle (way : List Path) (path : Path)
  | importTooDeep (limit : Int) (path : Path)
  | inImport (path : Path) (error : DeckError) (token : Option Token)
  | invalidDocument (problems : List Problem)
  | pathWithBlank (path : String)
  | pathNotPlain (path : String)
  | escapeInLine (line : String)
  | returnInLine (line : String)
  | commentLine (line : String)
deriving DecidableEq

namespace DeckError

/-- The class of an error. An error in an imported deck is an import cycle if it is one there. -/
def kind : DeckError → ErrorKind
  | noSlide | noSection | strayText | lastNotText | lastNotFigure | misplaced .. => .state
  | strayArgument | numberMissing _ | numberExpected .. | sizeMissing | pathExpected ..
  | colorMissing => .arity
  | channel (.notNumber _) => .arity
  | channel (.outOfRange _) => .channelRange
  | badColorWord .. | color _ => .colorResolution
  | notColor (some (.outOfRange _)) _ => .channelRange
  | notColor _ _ => .arity
  | figureNotFound .. | importNotFound .. | notFile _ | unreadable .. => .deckIO
  | importCycle .. => .importCycle
  | importTooDeep .. => .recursiveParse
  | inImport _ error _ => if error.kind = .importCycle then .importCycle else .recursiveParse
  | invalidDocument _ => .interchange
  | pathWithBlank _ | pathNotPlain _ | escapeInLine _ | returnInLine _ | commentLine _ =>
    .serialization

/-- The file that an error of an import is about. -/
def path? : DeckError → Option Path
  | importCycle _ path | importTooDeep _ path | inImport path _ _ => some path
  | _ => none

end DeckError

/-! ## Places of errors -/

/-- Something with the token that it is about, if it is known. -/
structure Located (α : Type) where
  cause : α
  token : Option Token := none
deriving DecidableEq

namespace Located

/-- Attaches a token, unless there is one already. -/
def attach {α : Type} (e : Located α) (t : Token) : Located α :=
  { e with token := e.token.orElse fun _ => some t }

/-- The line of the token, counted from one. -/
def line? {α : Type} (e : Located α) : Option Int :=
  e.token.map fun t => t.span.line + 1

end Located

/-- A message after the place of a token. -/
def placed (token : Option Token) (message : String) : String :=
  match token with
  | none => message
  | some t =>
    "line " ++ toString (t.span.line + 1) ++ ", columns " ++ toString t.span.start ++ "-" ++
      toString t.span.stop ++ " (" ++ t.lexeme.label ++ "): " ++ message

/-- The messages that a color has collected, with the one of its channels first. -/
def withChannels (channels : Option ChannelError) (message : String) : String :=
  match channels with
  | none => message
  | some e => "4 tokens found, but " ++ e.message ++ "; " ++ message

/-- An error in words, without its place. -/
def DeckError.message : DeckError → String
  | noSlide => "please create a slide first (:sl)"
  | noSection => "no section in the current slide yet (:tb or :fg)"
  | strayText => "a text line only makes sense inside a text section (:tb)"
  | lastNotText => "in a text section, but the last section is not a text"
  | lastNotFigure => "in a figure section, but the last section is not a figure"
  | misplaced d c => d.rule ++ " (current state: " ++ c.label ++ ")"
  | strayArgument => "found a literal that no directive claims as its argument"
  | numberMissing what => what ++ " is missing a number argument"
  | numberExpected what found => what ++ " expects a number, found " ++ found.text
  | sizeMissing => "size must be followed by 1 or 2 numbers"
  | pathExpected what found =>
    what ++ " must be followed by a path, found " ++ (found.map Lexeme.text).getD "nothing"
  | channel e => e.message
  | colorMissing => "not enough tokens to read a color"
  | badColorWord channels e =>
    withChannels channels ("unable to read a color out of a string: " ++ e.message)
  | notColor channels first => withChannels channels (first.text ++ " is not a color string")
  | color e => e.message
  | figureNotFound path base fault =>
    "figure " ++ Text.quoted path ++ " not found in " ++ base.text ++ ": " ++ fault.message
  | importNotFound path fault => "unable to import " ++ path.text ++ ": " ++ fault.message
  | notFile path => "`" ++ path.text ++ "` is not a file, please provide one"
  | unreadable path fault => "unable to read " ++ path.text ++ ": " ++ fault.message
  | importCycle way _ => "import cycle: " ++ " -> ".intercalate (way.map Path.text)
  | importTooDeep limit _ => "imports nested deeper than " ++ toString limit ++ " levels"
  | inImport path error token =>
    "while importing " ++ path.text ++ ": " ++ placed token error.message
  | invalidDocument problems =>
    "invalid slideshow document: " ++ problemCount problems ++ " for Slideshow"
  | pathWithBlank path => "figure path " ++ Text.quoted path ++ " contains whitespace"
  | pathNotPlain path =>
    "figure path " ++ Text.quoted path ++ " would not read back as a path"
  | escapeInLine line => "text line " ++ Text.quoted line ++ " holds a literal '\\:'"
  | returnInLine line => "text line " ++ Text.quoted line ++ " ends with a carriage return"
  | commentLine line => "text line " ++ Text.quoted line ++ " would read back as a comment"

/-- What stops the library: an error of its own, or a fault of the surroundings. -/
inductive Failure where
  | deck (error : Located DeckError)
  | fault (fault : Fault)
deriving DecidableEq

namespace Failure

/-- The failure of an error that no token is known for yet. -/
def ofError (e : DeckError) : Failure :=
  .deck ⟨e, none⟩

/-- Attaches a token to an error of the deck, unless it has one. -/
def attach (t : Token) : Failure → Failure
  | .deck e => .deck (e.attach t)
  | .fault f => .fault f

/-- A failure in words. -/
def message : Failure → String
  | .deck e => placed e.token e.cause.message
  | .fault f => f.message

end Failure

end SlideDeck
