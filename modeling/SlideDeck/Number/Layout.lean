import SlideDeck.Number.Shortest

/-!
# Numbers as text

A number is written with its shortest digits, either in full, with at least one digit on each side
of the point, or as a mantissa and a power of ten. Where the one gives way to the other is a
decision of each written format, held in a `Layout`.
-/

namespace SlideDeck.Number

/-- The decisions of a format that writes numbers. -/
structure Layout where
  /-- The least power of ten of a first digit that is written in full. -/
  fullFrom : Int
  /-- The first power of ten that is too large to be written in full. -/
  fullBelow : Int
  /-- The least count of digits of a written power of ten. -/
  exponentWidth : Nat
  nan : String
  infinity : String
  negativeInfinity : String

/-- Decks and messages write numbers in full from 0.0001 up to sixteen digits before the point. -/
def plain : Layout :=
  ⟨-4, 16, 2, "nan", "inf", "-inf"⟩

/-- Documents write numbers in full from 0.00001 on, and have no text for what is not finite. -/
def document : Layout :=
  ⟨-5, 16, 1, "null", "null", "null"⟩

/-- A number in decimal digits, with zeros in front up to the given width. -/
def paddedDigits (width n : Nat) : List Char :=
  let ds := Nat.toDigits 10 n
  List.replicate (width - ds.length) '0' ++ ds

/-- Digits in full: the first digit has the given power of ten. -/
def full (digits : List Char) (power : Int) : List Char :=
  match power with
  | .ofNat p =>
    let before := digits.take (p + 1)
    let after := digits.drop (p + 1)
    before ++ List.replicate (p + 1 - before.length) '0' ++
      '.' :: (if after.isEmpty then ['0'] else after)
  | .negSucc p => '0' :: '.' :: List.replicate p '0' ++ digits

/-- Digits as a mantissa and a power of ten. -/
def scientific (width : Nat) (digits : List Char) (power : Int) : List Char :=
  let fraction := digits.drop 1
  digits.take 1 ++ (if fraction.isEmpty then [] else '.' :: fraction) ++
    'e' :: (if power < 0 then '-' else '+') :: paddedDigits width power.natAbs

/-- A decimal in the given layout, without a sign. -/
def Layout.decimal (l : Layout) (d : Decimal) : List Char :=
  let digits := Nat.toDigits 10 d.digits
  let power := d.exponent + (digits.length - 1 : Nat)
  if d.digits = 0 ∨ (l.fullFrom ≤ power ∧ power < l.fullBelow) then full digits power
  else scientific l.exponentWidth digits power

/-- A number in the given layout. -/
def Layout.text (l : Layout) (x : Float) : String :=
  match parts x with
  | .nan => l.nan
  | .infinite negative => if negative then l.negativeInfinity else l.infinity
  | .finite negative mantissa exponent =>
    String.ofList ((if negative then ['-'] else []) ++ l.decimal (shortest mantissa exponent))

end SlideDeck.Number
