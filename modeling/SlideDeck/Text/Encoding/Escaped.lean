import SlideDeck.Text.CharName
import SlideDeck.Text.Encoding.Fault

/-!
# Text with escapes

Bytes that stand for the code point of their value, except that a backslash starts an escape. The
narrow form knows only the escapes of four and eight digits. The wide form knows those of two digits,
octal ones, those of single letters, characters by name, and a line end that is left out. An escape
that is not known stands for itself.
-/

namespace SlideDeck.Text.Escaped

/-- Which escapes are known. -/
inductive Form where
  | narrow
  | wide
deriving DecidableEq, Repr

/-- The name of a form in faults. -/
def Form.codec : Form → String
  | .narrow => "rawunicodeescape"
  | .wide => "unicodeescape"

/-- What an escape comes to. -/
inductive Outcome where
  /-- These code points, from the backslash and this many bytes more. -/
  | codes (cs : List Nat) (more : Nat)
  /-- A fault of the backslash and this many bytes more. -/
  | fault (more : Nat) (reason : String)

/-- The value of a hexadecimal digit. -/
def hexDigit? (b : UInt8) : Option Nat :=
  let n := b.toNat
  if 0x30 ≤ n ∧ n ≤ 0x39 then some (n - 0x30)
  else if 0x41 ≤ n ∧ n ≤ 0x46 then some (n - 0x41 + 10)
  else if 0x61 ≤ n ∧ n ≤ 0x66 then some (n - 0x61 + 10)
  else none

/-- The digits that bytes start with, of which there may be this many. -/
def hexRun (bytes : List UInt8) (width : Nat) : List Nat :=
  ((bytes.take width).map hexDigit?).takeWhile Option.isSome |>.filterMap id

/-- The number of digits in a base. -/
def value (base : Nat) (digits : List Nat) : Nat :=
  digits.foldl (fun n d => base * n + d) 0

/-- The reason against a code point that is too large. -/
def Form.outOfRange : Form → String
  | .narrow => "\\Uxxxxxxxx out of range"
  | .wide => "illegal Unicode character"

/-- An escape of this many digits, which follow its letter. -/
def digits (form : Form) (width : Nat) (reason : String) (bytes : List UInt8) : Outcome :=
  let run := hexRun bytes width
  if run.length < width then .fault (1 + run.length) reason
  else
    let n := value 16 run
    if 0x110000 ≤ n then .fault (1 + width) form.outOfRange else .codes [n] (1 + width)

/-- An escape by name, from the bytes after its letter. -/
def named : List UInt8 → Outcome
  | 0x7b :: bytes =>
    match bytes.dropWhile (· ≠ 0x7d) with
    | [] => .fault (2 + bytes.length) "malformed \\N character escape"
    | _ :: rest =>
      let name := bytes.take (bytes.length - rest.length - 1)
      if name = [] then .fault 2 "malformed \\N character escape"
      else
        let more := 2 + bytes.length - rest.length
        match charOfName? (name.map fun b => Char.ofNat b.toNat) with
        | some c => .codes [c.toNat] more
        | none => .fault more "unknown Unicode character name"
  | _ => .fault 1 "malformed \\N character escape"

/-- The character of an escape of one letter or sign. -/
def single? (b : UInt8) : Option Char :=
  [(0x5c, '\\'), (0x27, '\''), (0x22, '"'), (0x62, '\x08'), (0x66, '\x0c'), (0x74, '\t'),
    (0x6e, '\n'), (0x72, '\r'), (0x76, '\x0b'), (0x61, '\x07')].lookup b

/-- Whether a byte is an octal digit. -/
def isOctal (b : UInt8) : Bool :=
  0x30 ≤ b.toNat && b.toNat ≤ 0x37

/-- What a backslash before these bytes comes to in the wide form. -/
def wideEscape : List UInt8 → Outcome
  | [] => .fault 0 "\\ at end of string"
  | b :: bytes =>
    if b = 0x78 then digits .wide 2 "truncated \\xXX escape" bytes
    else if b = 0x75 then digits .wide 4 "truncated \\uXXXX escape" bytes
    else if b = 0x55 then digits .wide 8 "truncated \\UXXXXXXXX escape" bytes
    else if b = 0x4e then named bytes
    else if b = 0x0a then .codes [] 1
    else if isOctal b then
      let run := ((b :: bytes).take 3).takeWhile isOctal
      .codes [value 8 (run.map fun d => d.toNat - 0x30)] run.length
    else
      match single? b with
      | some c => .codes [c.toNat] 1
      | none => .codes [0x5c, b.toNat] 1

/-- What a backslash before these bytes comes to in the narrow form. -/
def narrowEscape : List UInt8 → Outcome
  | [] => .codes [0x5c] 0
  | b :: bytes =>
    if b = 0x75 then digits .narrow 4 "truncated \\uXXXX escape" bytes
    else if b = 0x55 then digits .narrow 8 "truncated \\UXXXXXXXX escape" bytes
    else .codes [0x5c, b.toNat] 1

/-- What a backslash before these bytes comes to. -/
def Form.escape : Form → List UInt8 → Outcome
  | .narrow => narrowEscape
  | .wide => wideEscape

/-- The code points of bytes, the first of which has the given place. -/
def decodeFrom (form : Form) (place : Nat) : List UInt8 → Except DecodeFault (List Nat)
  | [] => .ok []
  | b :: bytes =>
    if b = 0x5c then
      match form.escape bytes with
      | .codes cs more => (decodeFrom form (place + 1 + more) (bytes.drop more)).map (cs ++ ·)
      | .fault more reason => .error ⟨form.codec, b, place, 1 + more, reason⟩
    else (decodeFrom form (place + 1) bytes).map (b.toNat :: ·)
termination_by bytes => bytes.length
decreasing_by
  · simp only [List.length_drop, List.length_cons]; omega
  · simp only [List.length_cons]; omega

/-- The characters of bytes. -/
def decode (form : Form) (bytes : List UInt8) : Except Undecodable (List Char) :=
  ((decodeFrom form 0 bytes).mapError .bytes).bind characters

end SlideDeck.Text.Escaped
