import SlideDeck.Text.Blank
import SlideDeck.Text.Digit
import SlideDeck.Number.Shortest

/-!
# Reading numerals

A numeral is an optional sign before digits with at most one point among or around them, and an
optional power of ten; or before one of the words `inf`, `infinity` and `nan` in any case. Which
characters are digits is a parameter: decks admit the digits of every script, documents those of
ASCII. The value is the binary number nearest to the numeral's.
-/

namespace SlideDeck.Number

open SlideDeck.Text

/-- The digits at the start of a text, as values, and the rest. -/
def takeDigits (digit? : Char → Option Nat) : List Char → List Nat × List Char
  | [] => ([], [])
  | c :: cs =>
    match digit? c with
    | none => ([], c :: cs)
    | some d => let (ds, rest) := takeDigits digit? cs; (d :: ds, rest)

/-- Digits as a whole number. -/
def ofDigits (ds : List Nat) : Nat :=
  ds.foldl (fun n d => 10 * n + d) 0

/-- The greatest count of digits that a whole number may be written with. -/
def digitLimit : Nat := 4300

/-- Takes a sign off a text; true for a minus sign. -/
def takeSign : List Char → Bool × List Char
  | '-' :: cs => (true, cs)
  | '+' :: cs => (false, cs)
  | cs => (false, cs)

/-- The power of ten that ends a numeral: none, or `e`, an optional sign and digits. -/
def exponent? (digit? : Char → Option Nat) : List Char → Option Int
  | [] => some 0
  | c :: cs =>
    if c = 'e' ∨ c = 'E' then
      let (negative, rest) := takeSign cs
      match takeDigits digit? rest with
      | ([], _) => none
      | (ds, []) => some (signed negative (ofDigits ds))
      | _ => none
    else none

/-- The number `digits * 10 ^ exponent` as the nearest binary number. From 10 ^ 310 on that is the
infinity, and below 10 ^ -330 it is zero. -/
def ofDecimal (digits : Nat) (exponent : Int) : Float :=
  let power := exponent + digitCount digits
  if digits = 0 ∨ power < -330 then 0.0
  else if 310 < power then infinity
  else Float.ofScientific digits (exponent < 0) exponent.natAbs

/-- An unsigned decimal numeral. -/
def decimal? (digit? : Char → Option Nat) (cs : List Char) : Option Float :=
  let (whole, rest) := takeDigits digit? cs
  let (fraction, rest) :=
    match rest with
    | '.' :: rest => takeDigits digit? rest
    | rest => ([], rest)
  if whole.isEmpty && fraction.isEmpty then none
  else
    (exponent? digit? rest).map fun e =>
      ofDecimal (ofDigits (whole ++ fraction)) (e - fraction.length)

/-- An unsigned numeral in words. -/
def special? (cs : List Char) : Option Float :=
  let word := cs.map Char.toLower
  if word = "inf".toList ∨ word = "infinity".toList then some infinity
  else if word = "nan".toList then some nan
  else none

/-- A numeral without padding. -/
def numeral? (digit? : Char → Option Nat) (cs : List Char) : Option Float :=
  let (negative, rest) := takeSign cs
  ((special? rest).orElse fun _ => decimal? digit? rest).map fun x => if negative then -x else x

/-- A numeral of a deck, padding aside. -/
def read? (cs : List Char) : Option Float :=
  numeral? decimalDigit? (unpad cs)

end SlideDeck.Number
