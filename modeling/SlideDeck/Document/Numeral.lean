import SlideDeck.Number.Numeral

/-!
# Numerals in documents

A document may give a number as a string. Such a numeral is read leniently: padding is allowed
around it, and single underscores in it. A whole number may also start with zeros, among which
underscores count for nothing, and end with a point and zeros.

`wholeNumeral?` first clears a numeral of all this (`clearWhole?`) and then asks for the plain form of
a whole number (`plainWhole?`).
-/

namespace SlideDeck.Check

open SlideDeck.Text SlideDeck.Number

/-- A text without the underscores in it, if there are any, none of them stands at an end, and no two
stand together. -/
def dropUnderscores? (cs : List Char) : Option (List Char) :=
  if cs.contains '_' ∧ cs.head? ≠ some '_' ∧ cs.getLast? ≠ some '_' ∧
      (cs.zip cs.tail).all fun (c, next) => c ≠ '_' ∨ next ≠ '_' then
    some (cs.filter (· ≠ '_'))
  else none

/-- The number of a numeral: padding is allowed around it, or else underscores in it. -/
def numeral? (cs : List Char) : Option Float :=
  (Number.numeral? asciiDigit? (unpad cs)).orElse fun _ =>
    (dropUnderscores? cs).bind (Number.numeral? asciiDigit?)

/-! ## Whole numbers -/

/-- A text without the minus sign that may start it, and whether there was one. -/
def takeMinus : List Char → Bool × List Char
  | '-' :: cs => (true, cs)
  | cs => (false, cs)

/-- The whole number of its plain form: digits after an optional minus sign, not too many of them, and
no zero before another digit. -/
def plainWhole? (cs : List Char) : Option Int :=
  let (negative, digits) := takeMinus cs
  match digits.mapM asciiDigit? with
  | none | some [] => none
  | some [d] => some (signed negative d)
  | some (0 :: _) => none
  | some ds => if digitLimit < ds.length then none else some (signed negative (ofDigits ds))

/-- Whether a text starts as the plain form of a whole number and has too many digits. -/
def startsTooLong (cs : List Char) : Bool :=
  let (_, digits) := takeMinus cs
  digits.head? ≠ some '0' && decide (digitLimit < (takeDigits asciiDigit? digits).1.length)

/-- The text from the first character on that is no zero and no underscore, which must be a digit or a
minus sign. A point keeps the zero or underscore before it, which is given, and so does the end. -/
def dropZerosAfter? : Char → List Char → Option (List Char)
  | last, [] => some [last]
  | last, c :: cs =>
    if c = '0' ∨ c = '_' then dropZerosAfter? c cs
    else if c = '.' then some (last :: c :: cs)
    else if c = '-' ∨ (asciiDigit? c).isSome then some (c :: cs)
    else none

/-- A text that starts with a digit or a minus sign, without the zeros it starts with. -/
def dropZeros? : List Char → Option (List Char)
  | [] => none
  | c :: cs =>
    if c = '0' then dropZerosAfter? c cs
    else if c = '-' ∨ (asciiDigit? c).isSome then some (c :: cs)
    else none

/-- A text without the point and the zeros that may end it. -/
def dropPointZeros (cs : List Char) : List Char :=
  match cs.dropWhile (· ≠ '.') with
  | '.' :: z :: zs => if (z :: zs).all (· = '0') then cs.takeWhile (· ≠ '.') else cs
  | _ => cs

/-- The digits of a numeral without what may be left out. -/
def clearDigits? (cs : List Char) : Option (List Char) :=
  (dropZeros? cs).map fun cs =>
    let cs := dropPointZeros cs
    (dropUnderscores? cs).getD cs

/-- A numeral of a whole number without what may be left out. -/
def clearWhole? (cs : List Char) : Option (List Char) :=
  match unpad cs with
  | '+' :: '-' :: _ => none
  | '+' :: cs => clearDigits? cs
  | '-' :: cs => (clearDigits? cs).map ('-' :: ·)
  | cs => clearDigits? cs

/-- The whole number of a numeral. -/
def wholeNumeral? (cs : List Char) : Option Int :=
  (clearWhole? cs).bind plainWhole?

end SlideDeck.Check
