import SlideDeck.Token.Basic
import SlideDeck.Text.Lines
import SlideDeck.Text.Words
import SlideDeck.Text.Escape
import SlideDeck.Number.Numeral

/-!
# From text to tokens

A line without a marker is one token: a comment if it starts with a number sign, text otherwise. A
line with a marker is cut into words, and each word is a directive, a number or a plain word.
-/

namespace SlideDeck

open SlideDeck.Text

/-- What a word says: a directive, else a number, else itself. A word with an underscore is never a
number. -/
def Lexeme.ofWord (cs : List Char) : Lexeme :=
  match Directive.ofWord? (String.ofList cs) with
  | some d => .directive d
  | none =>
    match if cs.contains '_' then none else Number.read? cs with
    | some x => .number x
    | none => .word (String.ofList cs)

/-- What a line without a marker says. -/
def Lexeme.ofLine (cs : List Char) : Lexeme :=
  match cs with
  | '#' :: _ => .comment (String.ofList cs)
  | _ => .textLine (String.ofList cs)

namespace Token

/-- The token of a word on a line. -/
def ofWord (line : Int) (w : Word) : Token :=
  ⟨Lexeme.ofWord w.chars, ⟨line, w.start, w.stop⟩⟩

/-- The tokens of a line. -/
def ofLine (cs : List Char) (line : Int) : List Token :=
  if hasMarker cs then (words cs).map (ofWord line)
  else [⟨Lexeme.ofLine cs, ⟨line, 0, byteSize cs⟩⟩]

/-- The tokens of lines, the first of which has the given number. -/
def ofLines (first : Int) : List (List Char) → List Token
  | [] => []
  | l :: ls => ofLine l first ++ ofLines (first + 1) ls

/-- The tokens of a text whose first line has the given number. -/
def tokenize (text : String) (first : Int) : List Token :=
  ofLines first (splitLines text.toList)

end Token

end SlideDeck
