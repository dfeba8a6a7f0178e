/-!
# Lines of a text

A line ends at a newline; what follows the last newline is a line only if it is not empty, and one
carriage return at the end of a line is not part of it. Reading a file as text first turns every
carriage return, alone or before a newline, into a newline (`universalNewlines`).
-/

namespace SlideDeck.Text

/-- Puts a character in front of the first line, which is empty if there is none. -/
def consLine (c : Char) : List (List Char) → List (List Char)
  | [] => [[c]]
  | line :: rest => (c :: line) :: rest

/-- The lines of a text with their carriage returns; a final newline opens no further line. -/
def rawLines : List Char → List (List Char)
  | [] => []
  | c :: cs => if c = '\n' then [] :: rawLines cs else consLine c (rawLines cs)

/-- A line without the one carriage return that may end it. -/
def dropReturn : List Char → List Char
  | [] => []
  | ['\r'] => []
  | c :: cs => c :: dropReturn cs

/-- A text without the one newline that may end it. -/
def dropFinalNewline : List Char → List Char
  | [] => []
  | ['\n'] => []
  | c :: cs => c :: dropFinalNewline cs

/-- The lines of a text. -/
def splitLines (cs : List Char) : List (List Char) :=
  (rawLines cs).map dropReturn

/-- Every line end, however written, as one newline. -/
def universalNewlines : List Char → List Char
  | [] => []
  | '\r' :: '\n' :: cs => '\n' :: universalNewlines cs
  | '\r' :: cs => '\n' :: universalNewlines cs
  | c :: cs => c :: universalNewlines cs

theorem rawLines_cons_newline (cs : List Char) : rawLines ('\n' :: cs) = [] :: rawLines cs := by
  simp [rawLines]

end SlideDeck.Text
