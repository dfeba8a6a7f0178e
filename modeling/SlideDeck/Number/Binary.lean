/-!
# Binary numbers taken apart

A binary64 number is a signed whole number times a power of two, an infinity, or not a number.
`parts` reads this off the bits; whole parts and roundings are then taken in exact integer
arithmetic.
-/

namespace SlideDeck.Number

/-- What a binary64 number is. -/
inductive Parts where
  | nan
  | infinite (negative : Bool)
  /-- The number `mantissa * 2 ^ exponent`, with its sign. -/
  | finite (negative : Bool) (mantissa : Nat) (exponent : Int)
deriving DecidableEq, Repr

/-- The parts of a number, from its sign bit, its eleven exponent bits and its 52 fraction bits. -/
def parts (x : Float) : Parts :=
  let bits : Nat := x.toBits.toNat
  let negative := Nat.pow 2 63 ≤ bits
  let exponent : Nat := bits / Nat.pow 2 52 % Nat.pow 2 11
  let fraction := bits % Nat.pow 2 52
  if exponent = 2047 then if fraction = 0 then .infinite negative else .nan
  else if exponent = 0 then .finite negative fraction (-1074)
  else .finite negative (Nat.pow 2 52 + fraction) (exponent - 1075)

/-- Not a number. -/
def nan : Float := 0.0 / 0.0

/-- The positive infinity. -/
def infinity : Float := 1.0 / 0.0

/-- Puts a sign before a number. -/
def signed (negative : Bool) (n : Nat) : Int :=
  if negative then -n else n

/-- The whole part of `mantissa * 2 ^ exponent`. -/
def wholePart (mantissa : Nat) (exponent : Int) : Nat :=
  match exponent with
  | .ofNat e => mantissa * Nat.pow 2 e
  | .negSucc e => mantissa / Nat.pow 2 (e + 1)

/-- The whole number next to `mantissa * 2 ^ exponent`, the even one of two that are equally near. -/
def nearestWhole (mantissa : Nat) (exponent : Int) : Nat :=
  match exponent with
  | .ofNat e => mantissa * Nat.pow 2 e
  | .negSucc e =>
    let unit := Nat.pow 2 (e + 1)
    let below := mantissa / unit
    let rest := mantissa % unit
    if 2 * rest < unit then below
    else if unit < 2 * rest then below + 1
    else below + below % 2

/-- A number without a fraction. -/
def isWhole (mantissa : Nat) (exponent : Int) : Bool :=
  match exponent with
  | .ofNat _ => true
  | .negSucc e => mantissa % Nat.pow 2 (e + 1) == 0

end SlideDeck.Number
