/-!
# Markers and escaped colons

A colon marks a directive unless a backslash stands right before it. `escape` writes a backslash
before every colon, `unescape` takes the backslash of each escaped colon away, from left to right.
-/

namespace SlideDeck.Text

/-- Whether a colon without a backslash before it occurs; the first argument tells whether the
character before the text is a backslash. -/
def markedAfter : Bool → List Char → Bool
  | _, [] => false
  | escaped, c :: cs => (c == ':' && !escaped) || markedAfter (c == '\\') cs

/-- A line that holds a marker: a colon at its start, or after a character that is no backslash. -/
def hasMarker (cs : List Char) : Bool :=
  markedAfter false cs

/-- A backslash before every colon. -/
def escape : List Char → List Char
  | [] => []
  | c :: cs => if c = ':' then '\\' :: ':' :: escape cs else c :: escape cs

/-- Every escaped colon as a colon. -/
def unescape : List Char → List Char
  | [] => []
  | '\\' :: ':' :: cs => ':' :: unescape cs
  | c :: cs => c :: unescape cs

/-- A text in which a backslash stands right before a colon. -/
def holdsEscape : List Char → Bool
  | [] => false
  | '\\' :: ':' :: _ => true
  | _ :: cs => holdsEscape cs

end SlideDeck.Text
