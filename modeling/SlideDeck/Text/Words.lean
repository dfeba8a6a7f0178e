import SlideDeck.Text.Blank

/-!
# Words of a line

A word is a longest run of characters that are not blank. Its place is counted in bytes of the UTF-8
form, as a half-open span.
-/

namespace SlideDeck.Text

/-- A word with the byte columns where it starts and stops. -/
structure Word where
  start : Nat
  stop : Nat
  chars : List Char
deriving DecidableEq, Repr

/-- The number of bytes of a text in UTF-8. -/
def byteSize (cs : List Char) : Nat :=
  cs.foldl (fun n c => n + c.utf8Size) 0

/-- The words of a line whose first character stands at the given byte column. A character that is
not blank extends the word that starts right after it, and is a word of its own where none does. -/
def wordsFrom (column : Nat) : List Char → List Word
  | [] => []
  | c :: cs =>
    let next := column + c.utf8Size
    if isBlank c then wordsFrom next cs
    else
      match wordsFrom next cs with
      | [] => [⟨column, next, [c]⟩]
      | w :: ws =>
        if w.start = next then ⟨column, w.stop, c :: w.chars⟩ :: ws
        else ⟨column, next, [c]⟩ :: w :: ws

/-- The words of a line. -/
def words (cs : List Char) : List Word :=
  wordsFrom 0 cs

end SlideDeck.Text
