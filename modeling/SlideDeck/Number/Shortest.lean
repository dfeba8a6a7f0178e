import SlideDeck.Number.Binary

/-!
# The shortest decimal that reads back

The reals that round to a binary number form an interval around it, with its ends if the mantissa is
even. On the grid of decimals with one digit, with two, and so on up to seventeen, the two
neighbours of the number are tried; the first grid that has one in the interval wins, of two the
nearer, and of two equally near the even one.
-/

namespace SlideDeck.Number

/-- The decimal number `digits * 10 ^ exponent`. -/
structure Decimal where
  digits : Nat
  exponent : Int
deriving DecidableEq, Repr

/-- The count of decimal digits of a number; zero has one. -/
def digitCount (n : Nat) : Nat :=
  (Nat.toDigits 10 n).length

/-- A positive binary number as a fraction, with the interval of reals that round to it: all four
are numerators over one denominator. -/
structure Neighbourhood where
  value : Nat
  low : Nat
  high : Nat
  den : Nat
  closed : Bool

/-- The neighbourhood of `mantissa * 2 ^ exponent`. The gap below a power of two is half the gap
above it, except at the smallest normal number. -/
def neighbourhood (mantissa : Nat) (exponent : Int) : Neighbourhood :=
  let unit := Nat.pow 2 exponent.toNat
  let den := Nat.pow 2 (-exponent).toNat
  let gapBelow := if mantissa = Nat.pow 2 52 ∧ -1074 < exponent then 1 else 2
  { value := 4 * mantissa * unit
    low := (4 * mantissa - gapBelow) * unit
    high := (4 * mantissa + 2) * unit
    den := 4 * den
    closed := mantissa % 2 == 0 }

namespace Neighbourhood

/-- Numerators of `count * 10 ^ exponent` and of `of`, over one denominator. -/
def scale (n : Neighbourhood) (exponent : Int) (count of : Nat) : Nat × Nat :=
  (count * Nat.pow 10 exponent.toNat * n.den, of * Nat.pow 10 (-exponent).toNat)

/-- Whether `count * 10 ^ exponent` rounds to the number. -/
def holds (n : Neighbourhood) (exponent : Int) (count : Nat) : Bool :=
  let below := n.scale exponent count n.low
  let above := n.scale exponent count n.high
  if n.closed then below.2 ≤ below.1 && above.1 ≤ above.2
  else below.2 < below.1 && above.1 < above.2

/-- The power of ten of the number's first digit. -/
def magnitude (n : Neighbourhood) : Int :=
  let guess : Int := (digitCount n.value : Int) - digitCount n.den
  let (power, value) := n.scale guess 1 n.value
  if power ≤ value then guess else guess - 1

/-- The decimal on the grid of `10 ^ exponent` that rounds to the number, if there is one: the
nearer of the number's two neighbours, and the even one if they are equally near. -/
def onGrid? (n : Neighbourhood) (exponent : Int) : Option Nat :=
  let (step, value) := n.scale exponent 1 n.value
  let below := value / step
  let above := below + 1
  let toBelow := value - below * step
  let toAbove := above * step - value
  match n.holds exponent below, n.holds exponent above with
  | false, false => none
  | true, false => some below
  | false, true => some above
  | true, true =>
    if toBelow < toAbove then some below
    else if toAbove < toBelow then some above
    else some (below + below % 2)

/-- The first decimal found on the grids from the given exponent downwards. -/
def search (n : Neighbourhood) : Nat → Int → Decimal
  | 0, exponent => ⟨(n.onGrid? exponent).getD 0, exponent⟩
  | grids + 1, exponent =>
    match n.onGrid? exponent with
    | some count => ⟨count, exponent⟩
    | none => n.search grids (exponent - 1)

end Neighbourhood

/-- A decimal without trailing zeros; the fuel bounds how many are taken away. -/
def Decimal.trim : Nat → Decimal → Decimal
  | 0, d => d
  | fuel + 1, d =>
    if d.digits ≠ 0 ∧ d.digits % 10 = 0 then Decimal.trim fuel ⟨d.digits / 10, d.exponent + 1⟩ else d

/-- The shortest decimal that reads back as `mantissa * 2 ^ exponent`. -/
def shortest (mantissa : Nat) (exponent : Int) : Decimal :=
  if mantissa = 0 then ⟨0, 0⟩
  else
    let n := neighbourhood mantissa exponent
    Decimal.trim 17 (n.search 17 n.magnitude)

end SlideDeck.Number
