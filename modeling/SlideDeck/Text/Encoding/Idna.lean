import SlideDeck.Text.Encoding.Punycode

/-!
# Names of internet domains

ASCII text in labels with dots between them. A label with a mark stands for the text that the rest of it
gives in Punycode; that text, prepared and written again, must give the label.
-/

namespace SlideDeck.Text.Idna

/-- What a label in Punycode starts with. -/
def mark : String := "xn--"

/-- A label that is neither empty nor too long. -/
def ofLength (label : String) : Except Undecodable String :=
  if label.isEmpty ∨ 64 ≤ label.length then .error .labelLength else .ok label

/-- Code points below 128 as a text, if all of them are. -/
def ascii? (codes : List Nat) : Option String :=
  if codes.all (· < 0x80) then some (String.ofList (codes.map Char.ofNat)) else none

/-- How the text of a label is written. -/
def write (text : List Nat) : Except Undecodable String :=
  match ascii? text with
  | some label => ofLength label
  | none =>
    match Nameprep.prepare text with
    | .error why => .error (.unprepared why)
    | .ok form =>
      match ascii? form with
      | some label => ofLength label
      | none =>
        if (mark.toList.map Char.toNat).isPrefixOf form then .error .labelMark
        else ofLength (mark ++ String.ofList (Punycode.encode form))

/-- The text of a label. -/
def read (label : List Char) : Except Undecodable (List Char) :=
  match mark.toList.isPrefixOf? label with
  | none => .ok label
  | some rest => do
    let text ←
      (Punycode.codePoints (rest.map fun c => UInt8.ofNat c.toNat)).mapError .inLabel
    let label := String.ofList label
    let written ← write text
    if label.toLower = written then characters text else throw (.unlikeLabel label written)

/-- The characters of bytes. -/
def decode (bytes : List UInt8) : Except Undecodable (List Char) := do
  let text ← (decodeAscii bytes).mapError .bytes
  let labels ← (text.splitOn '.').mapM read
  return ['.'].intercalate labels

end SlideDeck.Text.Idna
