import SlideDeck.Slideshow
import SlideDeck.DeckError

/-!
# Arguments of directives

A directive looks at the tokens after it. A number, a path, a size and a color are each read from
the start of that window, with the count of tokens they take. A size is two numbers, or one that
gives the height of letters in tenths of a standard cell; a color is four channels, or a word.
-/

namespace SlideDeck.Argument

/-- The number at a place of the window. -/
def number (window : List Lexeme) (place : Nat) (what : String) : Except DeckError Float :=
  match window[place]? with
  | none => .error (.numberMissing what)
  | some (.number x) => .ok x
  | some found => .error (.numberExpected what found)

/-- The path at the start of the window. -/
def path (window : List Lexeme) (what : String) : Except DeckError String :=
  match window with
  | .word p :: _ => .ok p
  | found :: _ => .error (.pathExpected what (some found))
  | [] => .error (.pathExpected what none)

/-- The letter size whose cell is the standard one. -/
def standardSize : Float := 10.0

/-- The cell of a letter of the standard size. -/
def standardCell : Vec2 := ⟨0.012, 0.06⟩

/-- The cell of a letter of the given size. -/
def cellOfSize (size : Float) : Vec2 :=
  let scale := size / standardSize
  ⟨scale * standardCell.x, scale * standardCell.y⟩

/-- The size at the start of the window, and how many tokens it takes. -/
def size (window : List Lexeme) : Except DeckError (Vec2 × Nat) :=
  match window with
  | [] => .error .sizeMissing
  | .number x :: .number y :: _ => .ok (⟨x, y⟩, 2)
  | .number x :: _ => .ok (cellOfSize x, 1)
  | found :: _ => .error (.numberExpected "size" found)

/-- The whole number from 0 to 255 that a number is. -/
def channelOfNumber? (x : Float) : Option UInt8 :=
  match Number.parts x with
  | .finite negative mantissa exponent =>
    let n := Number.signed negative (Number.wholePart mantissa exponent)
    if Number.isWhole mantissa exponent ∧ 0 ≤ n ∧ n ≤ 255 then some (UInt8.ofNat n.toNat) else none
  | _ => none

/-- The color channel that a lexeme gives. -/
def channel (l : Lexeme) : Except ChannelError UInt8 :=
  match l with
  | .number x =>
    match channelOfNumber? x with
    | some c => .ok c
    | none => .error (.outOfRange x)
  | found => .error (.notNumber found)

/-- The color of four channels; the first that is none decides on the error. -/
def channels (r g b a : Lexeme) : Except ChannelError Color :=
  match channel r with
  | .error e => .error e
  | .ok r =>
    match channel g with
    | .error e => .error e
    | .ok g =>
      match channel b with
      | .error e => .error e
      | .ok b =>
        match channel a with
        | .error e => .error e
        | .ok a => .ok ⟨r, g, b, a⟩

/-- The color of one lexeme, after its window has failed to be four channels, or is too short. -/
def colorWord (failed : Option ChannelError) (first : Lexeme) : Except DeckError Color :=
  match first with
  | .word w =>
    match Color.parse w with
    | .ok c => .ok c
    | .error e => .error (.badColorWord failed e)
  | found => .error (.notColor failed found)

/-- The color at the start of the window, and how many tokens it takes. -/
def color (window : List Lexeme) : Except DeckError (Color × Nat) :=
  match window with
  | [] => .error .colorMissing
  | r :: g :: b :: a :: _ =>
    match channels r g b a with
    | .ok c => .ok (c, 4)
    | .error e => (colorWord (some e) r).map (·, 1)
  | first :: _ => (colorWord none first).map (·, 1)

end SlideDeck.Argument
