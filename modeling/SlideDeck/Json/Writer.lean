import SlideDeck.Json.Basic
import SlideDeck.Text.Quoted

/-!
# JSON as text

A value is written on one line without blanks, or with every item and member on a line of its own,
indented by its depth. Characters beyond ASCII stand as they are; a number that is not finite is
written as `null`.
-/

namespace SlideDeck.Json

open SlideDeck.Text

/-- A character in a JSON string. -/
def escapeChar (c : Char) : List Char :=
  if c = '"' then ['\\', '"']
  else if c = '\\' then ['\\', '\\']
  else if c = '\x08' then ['\\', 'b']
  else if c = '\t' then ['\\', 't']
  else if c = '\n' then ['\\', 'n']
  else if c = '\x0c' then ['\\', 'f']
  else if c = '\r' then ['\\', 'r']
  else if c.toNat < 0x20 then '\\' :: 'u' :: hexDigits 4 c.toNat
  else [c]

/-- A JSON string with its quotes. -/
def writeString (s : String) : List Char :=
  '"' :: s.toList.flatMap escapeChar ++ ['"']

/-- How lines are broken: not at all, or with an indent of so many blanks per level. -/
abbrev Indent := Option Nat

/-- The break before an item at the given depth. -/
def lineBreak (indent : Indent) (depth : Nat) : List Char :=
  match indent with
  | none => []
  | some width => '\n' :: List.replicate (width * depth) ' '

/-- What stands between a name and its value. -/
def colon (indent : Indent) : List Char :=
  match indent with
  | none => [':']
  | some _ => [':', ' ']

mutual

/-- A value at the given depth. -/
def writeAt (indent : Indent) (depth : Nat) : Json → List Char
  | .null => "null".toList
  | .bool true => "true".toList
  | .bool false => "false".toList
  | .integer i => (toString i).toList
  | .real x => (Number.document.text x).toList
  | .string s => writeString s
  | .array [] => ['[', ']']
  | .array (v :: vs) =>
    '[' :: lineBreak indent (depth + 1) ++ writeAt indent (depth + 1) v ++
      writeItems indent (depth + 1) vs ++ lineBreak indent depth ++ [']']
  | .object [] => ['\x7b', '\x7d']
  | .object ((name, v) :: ms) =>
    '\x7b' :: lineBreak indent (depth + 1) ++ writeString name ++ colon indent ++
      writeAt indent (depth + 1) v ++ writeMembers indent (depth + 1) ms ++
      lineBreak indent depth ++ ['\x7d']

/-- The further items of an array. -/
def writeItems (indent : Indent) (depth : Nat) : List Json → List Char
  | [] => []
  | v :: vs => ',' :: lineBreak indent depth ++ writeAt indent depth v ++ writeItems indent depth vs

/-- The further members of an object. -/
def writeMembers (indent : Indent) (depth : Nat) : List (String × Json) → List Char
  | [] => []
  | (name, v) :: ms =>
    ',' :: lineBreak indent depth ++ writeString name ++ colon indent ++ writeAt indent depth v ++
      writeMembers indent depth ms

end

/-- A value as text. -/
def write (indent : Indent) (v : Json) : String :=
  String.ofList (writeAt indent 0 v)

end SlideDeck.Json
