import SlideDeck.Document.Problem
import SlideDeck.Document.Numeral
import SlideDeck.Json.Basic

/-!
# Checking values

A check turns a value into what it stands for, or lists all that is wrong with it. Problems of the
parts of a value are collected in the order of the parts (`Checked.apply`), and each is placed by the
steps to its part (`Checked.under`), so the place of a problem leads to the value it is about.

The checks of scalars are lenient: a numeral in a string counts as a number, and a truth value as
one or zero.
-/

namespace SlideDeck

open SlideDeck.Text SlideDeck.Number

/-- What a value stands for, or what is wrong with it. -/
abbrev Checked (α : Type) := Except (List Problem) α

namespace Checked

/-- A complaint about the value itself. -/
def complain {α : Type} (c : Complaint) : Checked α :=
  .error [⟨c, []⟩]

/-- Applies a checked function to a checked value, and collects the problems of both. -/
def apply {α β : Type} : Checked (α → β) → Checked α → Checked β
  | .ok f, .ok a => .ok (f a)
  | .ok _, .error problems => .error problems
  | .error problems, .ok _ => .error problems
  | .error problems, .error more => .error (problems ++ more)

/-- The problems as seen from one step further out. -/
def under {α : Type} (step : Step) : Checked α → Checked α
  | .ok a => .ok a
  | .error problems => .error (problems.map fun p => { p with place := step :: p.place })

end Checked

namespace Check

/-! ## Scalars -/

/-- A string. -/
def string : Json → Checked String
  | .string s => .ok s
  | _ => Checked.complain .notString

/-- A whole number as the nearest binary one. Beyond the greatest of them it is the infinity in a
document's text, and no number in a value. -/
def binary (origin : Origin) (i : Int) : Checked Float :=
  let x := Float.ofInt i
  match origin, parts x with
  | .value, .infinite _ => Checked.complain .notNumber
  | _, _ => .ok x

/-- A number, as itself, as a truth value or as a numeral. -/
def number (origin : Origin) : Json → Checked Float
  | .integer i => binary origin i
  | .real x => .ok x
  | .bool true => .ok 1.0
  | .bool false => .ok 0.0
  | .string s =>
    match numeral? s.toList with
    | some x => .ok x
    | none => Checked.complain .notNumeral
  | _ => Checked.complain .notNumber

/-- The whole number of a numeral. -/
def wholeNumeral (cs : List Char) : Checked Int :=
  if startsTooLong cs then Checked.complain .integerTooLong
  else
    match wholeNumeral? cs with
    | none => Checked.complain .notIntegerNumeral
    | some i => .ok i

/-- The whole number that a number is. -/
def wholeNumber (x : Float) : Checked Int :=
  match parts x with
  | .nan | .infinite _ => Checked.complain .notFinite
  | .finite negative mantissa exponent =>
    if ! isWhole mantissa exponent then Checked.complain .fractional
    else if Nat.pow 2 63 ≤ wholePart mantissa exponent then Checked.complain .integerTooLong
    else .ok (signed negative (wholePart mantissa exponent))

/-- A whole number, as itself, as a truth value, as a number without fraction or as a numeral. -/
def integer : Json → Checked Int
  | .integer i => .ok i
  | .real x => wholeNumber x
  | .bool true => .ok 1
  | .bool false => .ok 0
  | .string s => wholeNumeral s.toList
  | _ => Checked.complain .notInteger

/-- A whole number from 0 to 255. -/
def channel (v : Json) : Checked UInt8 :=
  match integer v with
  | .error problems => .error problems
  | .ok i =>
    if i < 0 then Checked.complain (.below 0)
    else if 255 < i then Checked.complain (.above 255)
    else .ok (UInt8.ofNat i.toNat)

/-! ## Parts -/

/-- A value that may be null. -/
def nullable {α : Type} (check : Json → Checked α) : Json → Checked (Option α)
  | .null => .ok none
  | v => (check v).map some

/-- A member that must be there. -/
def required {α : Type} (members : List (String × Json)) (name : String)
    (check : Json → Checked α) : Checked α :=
  match lastNamed? name members with
  | none => Checked.under (.key name) (Checked.complain .missing)
  | some v => Checked.under (.key name) (check v)

/-- A member with a default. -/
def optional {α : Type} (members : List (String × Json)) (name : String) (default : α)
    (check : Json → Checked α) : Checked α :=
  match lastNamed? name members with
  | none => .ok default
  | some v => Checked.under (.key name) (check v)

/-- The items of a list, counted from a number on. -/
def itemsFrom {α : Type} (check : Json → Checked α) : Nat → List Json → Checked (List α)
  | _, [] => .ok []
  | position, v :: vs =>
    Checked.apply (((check v).under (.index position)).map List.cons)
      (itemsFrom check (position + 1) vs)

/-- The items of an array. -/
def items {α : Type} (check : Json → Checked α) : Json → Checked (List α)
  | .array vs => itemsFrom check 0 vs
  | _ => Checked.complain .notList

/-- Named values, every one of them even where names occur more than once. -/
def entries {α : Type} (check : Json → Checked α) :
    List (String × Json) → Checked (List (String × α))
  | [] => .ok []
  | (name, v) :: rest =>
    Checked.apply (((check v).under (.key name)).map fun a => List.cons (name, a))
      (entries check rest)

/-- The entries of an object that serves as a table. -/
def table {α : Type} (check : Json → Checked α) : Json → Checked (List (String × α))
  | .object members => entries check members
  | _ => Checked.complain .notTable

/-- The members of an object that describes the named model. -/
def model {α : Type} (name : String) (check : List (String × Json) → Checked α) :
    Json → Checked α
  | .object members => check members
  | _ => Checked.complain (.notModel name)

end Check

end SlideDeck
