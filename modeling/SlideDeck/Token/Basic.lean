import SlideDeck.Text.Quoted
import SlideDeck.Number.Layout

/-!
# Tokens

What the reader of a deck sees: directives, the words and numbers that are their arguments, and
whole lines, each with the place it came from.
-/

namespace SlideDeck

/-- The directives of the deck language. -/
inductive Directive where
  | defaults
  | fontColor
  | background
  | slide
  | size
  | text
  | position
  | figure
  | rotation
  | importDeck
deriving DecidableEq, Repr

/-- What a token says. -/
inductive Lexeme where
  | directive (d : Directive)
  | textLine (line : String)
  | comment (line : String)
  | word (text : String)
  | number (value : Float)
deriving DecidableEq

/-- A place in a deck: a line and a half-open range of its bytes. Which number the first line of a
text has is for the caller to say; in a deck it is zero. -/
structure Span where
  line : Int
  start : Nat
  stop : Nat
deriving DecidableEq, Repr

/-- A lexeme and its place. -/
structure Token where
  lexeme : Lexeme
  span : Span
deriving DecidableEq

/-- The three characters of a directive in a deck. -/
def Directive.mnemonic : Directive → String
  | .defaults => ":ge"
  | .fontColor => ":fc"
  | .background => ":bc"
  | .slide => ":sl"
  | .size => ":sz"
  | .text => ":tb"
  | .position => ":ps"
  | .figure => ":fg"
  | .rotation => ":rt"
  | .importDeck => ":im"

/-- All directives. -/
def Directive.all : List Directive :=
  [.defaults, .fontColor, .background, .slide, .size, .text, .position, .figure, .rotation,
    .importDeck]

/-- The directive that a word writes. -/
def Directive.ofWord? (word : String) : Option Directive :=
  Directive.all.find? fun d => d.mnemonic = word

/-- The name of a directive in messages. -/
def Directive.label : Directive → String
  | .defaults => "generic"
  | .fontColor => "font_color"
  | .background => "background_color"
  | .slide => "slide"
  | .size => "size"
  | .text => "text_buffer"
  | .position => "position"
  | .figure => "figure"
  | .rotation => "rotation"
  | .importDeck => "import"

namespace Lexeme

/-- The name of a kind of lexeme in messages. -/
def label : Lexeme → String
  | .directive d => d.label
  | .textLine _ => "text_line"
  | .comment _ => "comment"
  | .word _ => "string"
  | .number _ => "number"

/-- A lexeme in messages: its kind, and in brackets what it carries. -/
def text : Lexeme → String
  | .directive d => d.label
  | .textLine line => "text_line(" ++ Text.quoted line ++ ")"
  | .comment line => "comment(" ++ Text.quoted line ++ ")"
  | .word w => "string(" ++ Text.quoted w ++ ")"
  | .number x => "number(" ++ Number.plain.text x ++ ")"

/-- Whether a lexeme is a directive. -/
def isDirective : Lexeme → Bool
  | .directive _ => true
  | _ => false

/-- Whether a lexeme is an argument: a word or a number. -/
def isArgument : Lexeme → Bool
  | .word _ => true
  | .number _ => true
  | _ => false

end Lexeme

end SlideDeck
