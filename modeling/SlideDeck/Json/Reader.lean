import SlideDeck.Json.Basic
import SlideDeck.Number.Numeral

/-!
# Reading JSON

The grammar is the usual one, with the words `NaN`, `Infinity` and `-Infinity` as further numbers.
Arrays and objects may be nested up to a limit, for which empty ones do not count, and whole numbers
have a greatest count of digits, as has what stands before the point of another number. Escapes of
code units must pair up, and no character below U+0020 may stand in a string. Members of one name
are all kept. `parse` reads a whole text; its recursion is bounded by the length of the text, since
every step takes a character.
-/

namespace SlideDeck.Json

open SlideDeck.Text SlideDeck.Number

/-- The characters that may stand between tokens. -/
def isGap (c : Char) : Bool :=
  c == ' ' || c == '\t' || c == '\n' || c == '\r'

/-- A text without the gap at its start. -/
def skipGap (cs : List Char) : List Char :=
  cs.dropWhile isGap

/-- Takes the given characters off the start of a text. -/
def take? : List Char → List Char → Option (List Char)
  | [], cs => some cs
  | p :: ps, c :: cs => if p = c then take? ps cs else none
  | _ :: _, [] => none

/-! ## Strings -/

/-- The value of a hexadecimal digit. -/
def hexDigit? (c : Char) : Option Nat :=
  if '0' ≤ c ∧ c ≤ '9' then some (c.toNat - '0'.toNat)
  else if 'a' ≤ c ∧ c ≤ 'f' then some (c.toNat - 'a'.toNat + 10)
  else if 'A' ≤ c ∧ c ≤ 'F' then some (c.toNat - 'A'.toNat + 10)
  else none

/-- The code unit of four hexadecimal digits. -/
def codeUnit? (a b c d : Char) : Option Nat := do
  let a ← hexDigit? a
  let b ← hexDigit? b
  let c ← hexDigit? c
  let d ← hexDigit? d
  return 4096 * a + 256 * b + 16 * c + d

/-- The character of a one-letter escape. -/
def escaped? (c : Char) : Option Char :=
  match c with
  | '"' => some '"'
  | '\\' => some '\\'
  | '/' => some '/'
  | 'b' => some '\x08'
  | 'f' => some '\x0c'
  | 'n' => some '\n'
  | 'r' => some '\r'
  | 't' => some '\t'
  | _ => none

/-- The characters of a string after its opening quote, and the text after its closing one. -/
def stringBody : List Char → Option (List Char × List Char)
  | [] => none
  | '"' :: rest => some ([], rest)
  | '\\' :: 'u' :: a :: b :: c :: d :: rest =>
    match codeUnit? a b c d with
    | none => none
    | some high =>
      if 0xd800 ≤ high ∧ high ≤ 0xdbff then
        match rest with
        | '\\' :: 'u' :: a :: b :: c :: d :: rest =>
          match codeUnit? a b c d with
          | none => none
          | some low =>
            if 0xdc00 ≤ low ∧ low ≤ 0xdfff then
              (stringBody rest).map fun (s, rest) =>
                (Char.ofNat (0x10000 + (high - 0xd800) * 0x400 + (low - 0xdc00)) :: s, rest)
            else none
        | _ => none
      else if 0xdc00 ≤ high ∧ high ≤ 0xdfff then none
      else (stringBody rest).map fun (s, rest) => (Char.ofNat high :: s, rest)
  | '\\' :: c :: rest =>
    match escaped? c with
    | none => none
    | some c => (stringBody rest).map fun (s, rest) => (c :: s, rest)
  | c :: rest =>
    if c.toNat < 0x20 ∨ c = '\\' then none
    else (stringBody rest).map fun (s, rest) => (c :: s, rest)

/-! ## Numbers -/

/-- The digits after a point at the start of a text, if there is one, with the text after them and
whether there is a point. -/
def fraction? (cs : List Char) : Option (List Nat × List Char × Bool) :=
  match cs with
  | '.' :: rest =>
    match takeDigits asciiDigit? rest with
    | ([], _) => none
    | (ds, rest) => some (ds, rest, true)
  | rest => some ([], rest, false)

/-- The power of ten at the start of a text, if there is one, with the text after it and whether there
is a power. -/
def power? (cs : List Char) : Option (Int × List Char × Bool) :=
  match cs with
  | [] => some (0, [], false)
  | c :: rest =>
    if c = 'e' ∨ c = 'E' then
      let (minus, digits) := takeSign rest
      match takeDigits asciiDigit? digits with
      | ([], _) => none
      | (ds, rest) => some (signed minus (ofDigits ds), rest, true)
    else some (0, c :: rest, false)

/-- An unsigned number, whether a minus sign stood before it, and the text after it. -/
def unsigned? (negative : Bool) (cs : List Char) : Option (Json × List Char) :=
  let (whole, rest) := takeDigits asciiDigit? cs
  if whole.isEmpty || (whole.head? == some 0 && whole.length != 1) || digitLimit < whole.length then
    none
  else
    match fraction? rest with
    | none => none
    | some (fraction, rest, hasPoint) =>
      match power? rest with
      | none => none
      | some (exponent, rest, hasExponent) =>
        if hasPoint || hasExponent then
          let x := ofDecimal (ofDigits (whole ++ fraction)) (exponent - fraction.length)
          some (.real (if negative then -x else x), rest)
        else some (.integer (signed negative (ofDigits whole)), rest)

/-- A number, and the text after it. -/
def number? (cs : List Char) : Option (Json × List Char) :=
  match cs with
  | '-' :: rest =>
    match take? "Infinity".toList rest with
    | some rest => some (.real (-infinity), rest)
    | none => unsigned? true rest
  | cs => unsigned? false cs

/-! ## Values -/

/-- Values without parts, and the text after them. -/
def atom? (cs : List Char) : Option (Json × List Char) :=
  match cs with
  | [] => none
  | '"' :: rest => (stringBody rest).map fun (s, rest) => (.string (String.ofList s), rest)
  | 'n' :: rest => (take? "ull".toList rest).map (.null, ·)
  | 't' :: rest => (take? "rue".toList rest).map (.bool true, ·)
  | 'f' :: rest => (take? "alse".toList rest).map (.bool false, ·)
  | 'N' :: rest => (take? "aN".toList rest).map (.real nan, ·)
  | 'I' :: rest => (take? "nfinity".toList rest).map (.real infinity, ·)
  | cs => number? cs

mutual

/-- A value at the start of a text, and the text after it. The first number bounds the steps, the
second the nesting. -/
def value? : Nat → Nat → List Char → Option (Json × List Char)
  | 0, _, _ => none
  | fuel + 1, depth, cs =>
    match cs with
    | '[' :: rest =>
      match skipGap rest, depth with
      | ']' :: rest, _ => some (.array [], rest)
      | _, 0 => none
      | rest, depth + 1 => (items? fuel depth rest).map fun (vs, rest) => (.array vs, rest)
    | '\x7b' :: rest =>
      match skipGap rest, depth with
      | '\x7d' :: rest, _ => some (.object [], rest)
      | _, 0 => none
      | rest, depth + 1 =>
        (members? fuel depth rest).map fun (ms, rest) => (.object ms, rest)
    | cs => atom? cs

/-- The items of an array from one on, and the text after its bracket. -/
def items? : Nat → Nat → List Char → Option (List Json × List Char)
  | 0, _, _ => none
  | fuel + 1, depth, cs =>
    match value? fuel depth cs with
    | none => none
    | some (v, rest) =>
      match skipGap rest with
      | ']' :: rest => some ([v], rest)
      | ',' :: rest => (items? fuel depth (skipGap rest)).map fun (vs, rest) => (v :: vs, rest)
      | _ => none

/-- The members of an object from one on, and the text after its brace. -/
def members? : Nat → Nat → List Char → Option (List (String × Json) × List Char)
  | 0, _, _ => none
  | fuel + 1, depth, cs =>
    match cs with
    | '"' :: rest =>
      match stringBody rest with
      | none => none
      | some (name, rest) =>
        match skipGap rest with
        | ':' :: rest =>
          match value? fuel depth (skipGap rest) with
          | none => none
          | some (v, rest) =>
            let m := (String.ofList name, v)
            match skipGap rest with
            | '\x7d' :: rest => some ([m], rest)
            | ',' :: rest =>
              (members? fuel depth (skipGap rest)).map fun (ms, rest) => (m :: ms, rest)
            | _ => none
        | _ => none
    | _ => none

end

/-- The value of a whole text, with arrays and objects nested at most as deep as the limit. -/
def parse (limit : Nat) (text : List Char) : Option Json :=
  match value? (text.length + 1) limit (skipGap text) with
  | none => none
  | some (v, rest) => if (skipGap rest).isEmpty then some v else none

end SlideDeck.Json
