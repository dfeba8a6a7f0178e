import SlideDeck.Token.Scan

/-!
# What a deck mentions

The paths of the figures and of the decks that a deck mentions, as they are written. A deck that can
be read needs no other files than these, and those that the decks among them mention.
-/

namespace SlideDeck

/-- A path written in a deck. -/
inductive Mention where
  | figure (written : String)
  | deck (written : String)
deriving DecidableEq, Repr

/-- What a list of tokens mentions. -/
def mentions : List Token → List Mention
  | a :: b :: rest =>
    match a.lexeme, b.lexeme with
    | .directive .figure, .word p => .figure p :: mentions (b :: rest)
    | .directive .importDeck, .word p => .deck p :: mentions (b :: rest)
    | _, _ => mentions (b :: rest)
  | _ => []

end SlideDeck
