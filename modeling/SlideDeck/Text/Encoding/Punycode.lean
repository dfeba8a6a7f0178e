import SlideDeck.Text.Encoding.Fault

/-!
# Punycode

Text as its characters below 128, a hyphen, and digits that say which other characters stand where
between them. Every number among the digits is how far to go on: through the places of the text so
far, and from its end to its beginning with the next code point. How soon a number ends follows from
the ones before it. Bytes are read as code points, of which some may stand for no character, and code
points can be written again.
-/

namespace SlideDeck.Text.Punycode

/-- How many digits there are. -/
def base : Nat := 36

/-- The least digit that does not end a number at a place in it. -/
def threshold (bias place : Nat) : Nat :=
  max 1 (min 26 (base * (place + 1) - bias))

/-- The bias after the given one for a number that is divided until it is small. -/
def settle (bias delta : Nat) : Nat :=
  if 455 < delta then settle (bias + base) (delta / 35) else bias + base * delta / (delta + 38)
termination_by delta
decreasing_by exact Nat.div_lt_self (by omega) (by omega)

/-- The bias after a number, for a text of this many characters. -/
def adapt (delta : Nat) (first : Bool) (length : Nat) : Nat :=
  let delta := if first then delta / 700 else delta / 2
  settle 0 (delta + delta / length)

/-- The value of a digit; letters count alike in both cases. -/
def digit? (b : UInt8) : Option Nat :=
  let n := b.toNat
  if 0x41 ≤ n ∧ n ≤ 0x5a then some (n - 0x41)
  else if 0x61 ≤ n ∧ n ≤ 0x7a then some (n - 0x61)
  else if 0x30 ≤ n ∧ n ≤ 0x39 then some (n - 0x30 + 26)
  else none

/-- A byte as faults show it, with letters in upper case. -/
def shown (b : UInt8) : Char :=
  (Char.ofNat b.toNat).toUpper

/-- A number, and the digits after it: `place` counts its digits so far, which have the given value,
and `weight` is what the next one counts for. -/
def number (bias : Nat) :
    Nat → Nat → Nat → List UInt8 → Except Undecodable (Nat × List UInt8)
  | _, _, _, [] => .error .endsInNumber
  | place, result, weight, b :: bytes =>
    match digit? b with
    | none => .error (.noDigit (shown b))
    | some digit =>
      let bound := threshold bias place
      let result := result + digit * weight
      if digit < bound then .ok (result, bytes)
      else number bias (place + 1) result (weight * (base - bound)) bytes

/-- A number takes at least one digit. -/
theorem length_lt_of_number {bias place result weight : Nat} {bytes : List UInt8}
    {r : Nat × List UInt8} (h : number bias place result weight bytes = .ok r) :
    r.2.length < bytes.length := by
  fun_induction number bias place result weight bytes with
  | case1 => cases h
  | case2 => cases h
  | case3 =>
    cases h
    simp
  | case4 _ _ _ _ _ _ _ _ _ _ ih =>
    have := ih h
    simp only [List.length_cons]
    omega

/-! ## Reading -/

/-- A text with the code points that digits add to it: the next one is at least `code`, and `next` counts
the places before the one where it is put at the earliest. -/
def insertAll (code next bias : Nat) (first : Bool) (text : List Nat) (bytes : List UInt8) :
    Except Undecodable (List Nat) :=
  if bytes = [] then .ok text
  else
    match _ : number bias 0 0 1 bytes with
    | .error e => .error e
    | .ok (delta, rest) =>
      let places := text.length + 1
      let code := code + (next + delta) / places
      let place := (next + delta) % places
      if 0x110000 ≤ code then .error (.beyondUnicode code)
      else
        insertAll code (place + 1) (adapt delta first places) false
          (text.take place ++ code :: text.drop place) rest
termination_by bytes.length
decreasing_by exact length_lt_of_number ‹_›

/-- The code points of bytes. The last hyphen comes before the digits; without one, all are digits. -/
def codePoints (bytes : List UInt8) : Except Undecodable (List Nat) :=
  let back := bytes.reverse
  let digits := (back.takeWhile (· ≠ 0x2d)).reverse
  let plain := ((back.dropWhile (· ≠ 0x2d)).drop 1).reverse
  match decodeAscii plain, decodeAscii digits with
  | .error fault, _ | _, .error fault => .error (.bytes fault)
  | .ok text, .ok _ => insertAll 0x80 0 72 true (text.map Char.toNat) digits

/-- The characters of bytes. -/
def decode (bytes : List UInt8) : Except Undecodable (List Char) :=
  (codePoints bytes).bind characters

/-! ## Writing -/

/-- A digit of the given value. -/
def digit (n : Nat) : Char :=
  if n < 26 then Char.ofNat ('a'.toNat + n) else Char.ofNat ('0'.toNat + (n - 26))

/-- The least digit that does not end a number is below the base. -/
theorem threshold_bounds (bias place : Nat) : 1 ≤ threshold bias place ∧ threshold bias place ≤ 26 := by
  unfold threshold
  omega

/-- The digits of a number, of which so many stand before these. -/
def numeral (bias place n : Nat) : List Char :=
  let bound := threshold bias place
  if n < bound then [digit n]
  else
    digit (bound + (n - bound) % (base - bound)) ::
      numeral bias (place + 1) ((n - bound) / (base - bound))
termination_by n
decreasing_by
  have h := threshold_bounds bias place
  have : (n - threshold bias place) / (base - threshold bias place) ≤ n - threshold bias place :=
    Nat.div_le_self _ _
  omega

/-- The numbers that put the code point `code` in all its places, after `previous` has been put in its
last one, before which there are `next` places; and how many places are before the one after that. -/
def distances (text : List Nat) (previous code next : Nat) : List Nat × Nat :=
  let smaller := text.countP (· < code)
  let places := (text.filter (· ≤ code)).zipIdx.filterMap fun (c, i) =>
    if c = code then some i else none
  let step := fun (done : List Nat × Nat × Nat) place =>
    let (numbers, around, next) := done
    (numbers ++ [around + place - next], 0, place + 1)
  let (numbers, _, next) := places.foldl step ([], (smaller + 1) * (code - previous), next)
  (numbers, next)

/-- The numbers that put code points in their places, one code point after the other. -/
def allDistances (text : List Nat) : Nat → Nat → List Nat → List Nat
  | _, _, [] => []
  | previous, next, code :: codes =>
    let (numbers, next) := distances text previous code next
    numbers ++ allDistances text code next codes

/-- The digits of numbers that add to a text of the given length. -/
def numerals (bias : Nat) (first : Bool) (length : Nat) : List Nat → List Char
  | [] => []
  | n :: ns => numeral bias 0 n ++ numerals (adapt n first (length + 1)) false (length + 1) ns

/-- Code points in Punycode. -/
def encode (text : List Nat) : List Char :=
  let plain := text.filter (· < 0x80)
  let codes := (text.filter (0x80 ≤ ·)).mergeSort.eraseDups
  let digits := numerals 72 true plain.length (allDistances text 0x80 0 codes)
  if plain = [] then digits else plain.map Char.ofNat ++ '-' :: digits

end SlideDeck.Text.Punycode
