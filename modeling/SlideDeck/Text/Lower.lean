/-!
# Lower case

Words that are compared with ASCII words are lowered first. Of the characters beyond ASCII only the
Kelvin sign has a lower case that is ASCII, so no other one can make a word equal to an ASCII word,
and all others stay as they are.
-/

namespace SlideDeck.Text

/-- A character in lower case, as far as a comparison with ASCII characters can tell. -/
def lowerChar (c : Char) : Char :=
  if c.toNat = 0x212a then 'k' else c.toLower

/-- A word in lower case, as far as a comparison with ASCII words can tell. -/
def lower (word : String) : String :=
  String.ofList (word.toList.map lowerChar)

end SlideDeck.Text
