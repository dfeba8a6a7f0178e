import SlideDeck.Text.CharName.Aliases
import SlideDeck.Text.CharName.Table.U0000
import SlideDeck.Text.CharName.Table.U0A00
import SlideDeck.Text.CharName.Table.U10100
import SlideDeck.Text.CharName.Table.U12300
import SlideDeck.Text.CharName.Table.U1D000
import SlideDeck.Text.CharName.Table.U1E00
import SlideDeck.Text.CharName.Table.U1F300
import SlideDeck.Text.CharName.Table.U1FB80
import SlideDeck.Text.CharName.Table.U2500
import SlideDeck.Text.CharName.Table.U2B00
import SlideDeck.Text.CharName.Table.UA700

/-!
# Characters by name

The character of a name in Unicode 14. Most names stand in a table, where they are found in any case.
The names of ideographs end in their code points, and those of Korean syllables are made from their
letters.
-/

namespace SlideDeck.Text.CharName

/-! ## Names in a table -/

/-- The number of hexadecimal digits, in upper case. -/
def hexNumber? (digits : List Char) : Option Nat :=
  digits.foldlM
    (fun n c =>
      if c.isDigit then some (16 * n + (c.toNat - '0'.toNat))
      else if 'A' ≤ c ∧ c ≤ 'F' then some (16 * n + (c.toNat - 'A'.toNat + 10))
      else none)
    0

/-- How many words two names begin with alike. -/
def sharedWords : List String → List String → Nat
  | v :: vs, w :: ws => if v = w then sharedWords vs ws + 1 else 0
  | _, _ => 0

/-- Where a search through the entries of a table has come. -/
structure Place where
  next : Nat := 0
  /-- How many words the last name shares with the one that is looked for. -/
  shared : Nat := 0

/-- The place after an entry, or the code point that the name is found to have. -/
def Place.step (name : List String) (place : Place) (entry : String) : Except Nat Place :=
  match entry.toList with
  | [] => .ok place
  | '@' :: digits => .ok { place with next := (hexNumber? digits).getD 0 }
  | digit :: rest =>
    let kept := digit.toNat - '0'.toNat
    if place.shared < kept then .ok { place with next := place.next + 1 }
    else
      let words := if rest = [] then [] else (String.ofList rest).splitOn " "
      let more := sharedWords (name.drop kept) words
      if more = words.length ∧ kept + more = name.length then .error place.next
      else .ok ⟨place.next + 1, kept + more⟩

/-- The code point that a name has in a table. -/
def codeIn? (table : List String) (name : List String) : Option Nat :=
  let found :=
    table.foldlM (fun place line => (line.splitOn ";").foldlM (Place.step name) place) ({} : Place)
  match found with
  | .error code => some code
  | .ok _ => none

/-- The tables of names. -/
def tables : List (List String) :=
  [names0000, names0A00, names1E00, names2500, names2B00, namesA700, names10100, names12300,
   names1D000, names1F300, names1FB80, aliases]

/-! ## Names with code points -/

/-- How a code point is written in a name, with at least four digits. -/
def digits (code : Nat) : List Char :=
  let ds := (Nat.toDigits 16 code).map Char.toUpper
  List.replicate (4 - ds.length) '0' ++ ds

/-- What stands before the code point in names of any case, and the first and the last code point of
such names. -/
def families : List (String × Nat × Nat) :=
  [("CJK COMPATIBILITY IDEOGRAPH-", 0xf900, 0xfa6d),
   ("CJK COMPATIBILITY IDEOGRAPH-", 0xfa70, 0xfad9),
   ("CJK COMPATIBILITY IDEOGRAPH-", 0x2f800, 0x2fa1d),
   ("KHITAN SMALL SCRIPT CHARACTER-", 0x18b00, 0x18cd5),
   ("NUSHU CHARACTER-", 0x1b170, 0x1b2fb)]

/-- The code point of a name that ends in it. -/
def codeInFamily? (name : List Char) : Option Nat :=
  families.findSome? fun (start, first, last) =>
    match start.toList.isPrefixOf? name with
    | none => none
    | some rest =>
      (hexNumber? rest).filter fun n => first ≤ n ∧ n ≤ last ∧ digits n = rest

/-- The first and the last code points of the unified ideographs. -/
def unified : List (Nat × Nat) :=
  [(0x3400, 0x4dbf), (0x4e00, 0x9fff), (0x20000, 0x2a6df), (0x2a700, 0x2b738), (0x2b740, 0x2b81d),
   (0x2b820, 0x2cea1), (0x2ceb0, 0x2ebe0), (0x30000, 0x3134a)]

/-- The unified ideograph of a code point in four or five digits. -/
def unified? (digits : List Char) : Option Nat :=
  if digits.length = 4 ∨ digits.length = 5 then
    (hexNumber? digits).filter fun n => unified.any fun (first, last) => first ≤ n ∧ n ≤ last
  else none

/-! ## Names of syllables -/

/-- The first letters of syllables, in order. -/
def initialNames : List String :=
  ["G", "GG", "N", "D", "DD", "R", "M", "B", "BB", "S", "SS", "", "J", "JJ", "C", "K", "T", "P", "H"]

/-- The middle letters of syllables, in order. -/
def middleNames : List String :=
  ["A", "AE", "YA", "YAE", "EO", "E", "YEO", "YE", "O", "WA", "WAE", "OE", "YO", "U", "WEO", "WE",
   "WI", "YU", "EU", "YI", "I"]

/-- The last letters of syllables, in order. -/
def finalNames : List String :=
  ["", "G", "GG", "GS", "N", "NJ", "NH", "D", "L", "LG", "LM", "LB", "LS", "LT", "LP", "LH", "M",
   "B", "BS", "S", "SS", "NG", "J", "C", "K", "T", "P", "H"]

/-- The place of the longest of some names that a text starts with, and the text after it. -/
def longest? (names : List String) (cs : List Char) : Option (Nat × List Char) :=
  let starts := names.zipIdx.filterMap fun (name, i) =>
    (name.toList.isPrefixOf? cs).map fun rest => (i, rest)
  starts.foldl
    (fun best start =>
      match best with
      | some (_, rest) => if start.2.length < rest.length then some start else best
      | none => some start)
    none

/-- The syllable of the names of its letters. -/
def syllable? (cs : List Char) : Option Nat := do
  let (i, cs) ← longest? initialNames cs
  let (m, cs) ← longest? middleNames cs
  let (l, cs) ← longest? finalNames cs
  if cs = [] then return 0xac00 + i * 588 + m * 28 + l else none

end CharName

/-- The character of a name. -/
def charOfName? (name : List Char) : Option Char :=
  let code? :=
    match "HANGUL SYLLABLE ".toList.isPrefixOf? name with
    | some rest => CharName.syllable? rest
    | none =>
      match "CJK UNIFIED IDEOGRAPH-".toList.isPrefixOf? name with
      | some rest => CharName.unified? rest
      | none =>
        let name := name.map Char.toUpper
        CharName.codeInFamily? name <|>
          CharName.tables.findSome? (CharName.codeIn? · ((String.ofList name).splitOn " "))
  code?.map Char.ofNat

end SlideDeck.Text
