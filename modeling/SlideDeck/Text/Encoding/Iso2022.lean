import SlideDeck.Text.Encoding.EastAsian.Japanese
import SlideDeck.Text.Encoding.Fault

/-!
# ISO 2022

Bytes below 128 that stand for characters of sets which escape sequences choose. There are two sets at
a time, and control characters may switch between them; one version has a third set, for one character
at a time. Which sets there are to choose from is what the versions differ in. The line end switches
back to the first set, but does not change it.
-/

namespace SlideDeck.Text

/-- A version of ISO 2022. -/
inductive Iso2022 where
  | jp
  | jp1
  /-- And KS X 1001, GB 2312, and the upper halves of ISO 8859 for Western Europe and Greece. -/
  | jp2
  | jp3 (edition : EastAsian.Edition)
  | jpExt
  | kr
deriving DecidableEq, Repr

namespace Iso2022

/-- A set to choose. -/
inductive CodeSet where
  | ascii
  | letters
  | syllables
  | western
  | greek
  /-- A chart of characters, with two bytes for a cell. Both of them count from 161 on. -/
  | cells (cell? : Nat → Nat → Option (List Char))

/-- The set of a chart. -/
def CodeSet.chart (t : Chart) : CodeSet :=
  .cells fun a b => (EastAsian.cell? t a b).map ([·])

/-- The sets of a version, by whether they have two bytes to a character, and by the last byte of the
sequence that chooses them. -/
def sets (v : Iso2022) : List ((Bool × UInt8) × CodeSet) :=
  let letters := ((false, 0x4a), CodeSet.letters)
  let jis := ((true, 0x42), CodeSet.chart Chart.jis)
  let oldJis := ((true, 0x40), CodeSet.chart Chart.jis)
  let supplement := ((true, 0x44), CodeSet.chart Chart.jisSupplement)
  let gb := ((true, 0x41), CodeSet.chart Chart.gb)
  let ks := ((true, 0x43), CodeSet.chart Chart.ks)
  let firstPlane e := CodeSet.cells (EastAsian.firstPlane? e)
  let secondPlane :=
    ((true, 0x50), CodeSet.cells fun a b => (EastAsian.secondPlane? .of2004 a b).map ([·]))
  match v with
  | .jp => [letters, jis, oldJis]
  | .jp1 => [letters, supplement, jis, oldJis]
  | .jp2 =>
    [letters, supplement, gb, ks, jis, oldJis, ((false, 0x41), .western), ((false, 0x46), .greek)]
  | .jp3 .of2000 => [jis, ((true, 0x4f), firstPlane .of2000), secondPlane]
  | .jp3 .of2004 => [jis, ((true, 0x51), firstPlane .of2004), secondPlane]
  | .jpExt => [letters, ((false, 0x49), .syllables), supplement, jis, oldJis]
  | .kr => [ks]

/-- The set that a sequence chooses. -/
def set? (v : Iso2022) (double : Bool) (last : UInt8) : Option CodeSet :=
  if double = false ∧ last = 0x42 then some .ascii else v.sets.lookup (double, last)

/-- What escape sequences have chosen. -/
structure Choice where
  first : CodeSet := .ascii
  second : CodeSet := .ascii
  third : CodeSet := .ascii
  shifted : Bool := false
  foreign : Bool := false

/-- Whether a byte ends an escape sequence. -/
def isFinal (b : UInt8) : Bool :=
  0x40 ≤ b.toNat && b.toNat ≤ 0x5a

/-- The bytes of a sequence after the escape character, its final byte the last of at most fifteen; a
part of the sequence that announces a newer edition may come before it. The fuel bounds the bytes. -/
def sequence? (editions : Bool) : Nat → List UInt8 → Option (List UInt8)
  | 0, _ => none
  | _, [] => none
  | fuel + 1, b :: bytes =>
    if isFinal b then some [b]
    else
      match editions && b = 0x26, bytes with
      | true, 0x40 :: bytes =>
        (sequence? editions (fuel - 2) (bytes.drop 1)).map (b :: 0x40 :: bytes.take 1 ++ ·)
      | _, _ => (sequence? editions fuel bytes).map (b :: ·)

/-- What a sequence chooses, from its bytes after the escape character. -/
def chosen? (v : Iso2022) (c : Choice) (bytes : List UInt8) : Option Choice :=
  match bytes with
  | [0x24, last] => (v.set? true last).map fun s => { c with first := s }
  | [0x28, last] => (v.set? false last).map fun s => { c with first := s }
  | [0x29, last] => (v.set? false last).map fun s => { c with second := s }
  | [0x24, 0x28, last] => (v.set? true last).map fun s => { c with first := s }
  | [0x24, 0x29, last] => (v.set? true last).map fun s => { c with second := s }
  | [0x2e, last] =>
    if v = .jp2 then (v.set? false last).map fun s => { c with third := s } else none
  | [_, _, 0x1b, 0x24, 0x42] =>
    if v = .kr then none else (v.set? true 0x42).map fun s => { c with first := s }
  | _ => none

/-- What bytes begin with. -/
inductive Step where
  /-- Perhaps characters; what is chosen from then on, and how many bytes more this takes. -/
  | go (chars : List Char) (choice : Choice) (more : Nat)
  | illegal (more : Nat)
  | incomplete
  | noThirdSet

/-- The characters of the upper half of ISO 8859-7 from byte 160 on, with spaces for the bytes that
have none. -/
def greekUpper : String :=
  "\u00a0‘’£  ¦§¨© «¬\u00ad ―°±²³΄΅Ά·ΈΉ" ++
    "Ί»Ό½ΎΏΐΑΒΓΔΕΖΗΘΙΚΛΜΝΞΟΠΡ ΣΤΥΦΧΨΩΪΫάέήίΰαβγδεζηθικλμνξοπρςστυφχψωϊϋόύώ"

/-- What a byte of the third set comes to. The upper half for Greece has the bytes with the first bit
turned over. -/
def thirdStep (c : Choice) (b : UInt8) : Step :=
  let n := b.toNat
  match c.third with
  | .ascii => if n < 0x80 then .go [Char.ofNat n] c 2 else .illegal 2
  | .western => if n < 0x80 then .go [Char.ofNat (n + 0x80)] c 2 else .illegal 2
  | .greek =>
    if 0x80 ≤ n then .go [Char.ofNat (n - 0x80)] c 2
    else if n < 0x20 then .go [Char.ofNat (n + 0x80)] c 2
    else
      match (Chart.ofRows [greekUpper]).char? 0 (n - 0x20) with
      | some ch => .go [ch] c 2
      | none => .illegal 2
  | _ => .noThirdSet

/-- What an escape character before these bytes begins. -/
def escape (v : Iso2022) (c : Choice) : List UInt8 → Step
  | [] => .incomplete
  | b :: bytes =>
    if [0x28, 0x29, 0x24, 0x2e, 0x26].contains b then
      match sequence? (v != .kr) 15 (b :: bytes) with
      | none => if bytes.length < 14 then .incomplete else .illegal 0
      | some sequence =>
        match v.chosen? c sequence with
        | some c => .go [] c sequence.length
        | none => .illegal sequence.length
    else if v = .jp2 ∧ b = 0x4e then
      match bytes with
      | [] => .incomplete
      | b :: _ => thirdStep c b
    else .go ['\x1b'] { c with foreign := true } 0

/-- What a byte that is no control character begins in a set. -/
def CodeSet.step (s : CodeSet) (c : Choice) (a : UInt8) (bytes : List UInt8) : Step :=
  match s with
  | .ascii => .go [Char.ofNat a.toNat] c 0
  | .letters =>
    .go [if a = 0x5c then '¥' else if a = 0x7e then '‾' else Char.ofNat a.toNat] c 0
  | .syllables =>
    match EastAsian.halfWidth? (a.toNat + 0x80) with
    | some ch => .go [ch] c 0
    | none => .illegal 0
  | .western | .greek => .illegal 0
  | .cells cell? =>
    match bytes with
    | [] => .incomplete
    | b :: _ =>
      match cell? (a.toNat + 0x80) (b.toNat + 0x80) with
      | some cs => .go cs c 1
      | none => .illegal 1

/-- What a byte and those after it begin with. -/
def step (v : Iso2022) (c : Choice) (a : UInt8) (bytes : List UInt8) : Step :=
  let itself := [Char.ofNat a.toNat]
  if c.foreign then .go itself { c with foreign := !isFinal a } 0
  else if a = 0x1b then v.escape c bytes
  else if v = .kr ∧ a = 0x0f then .go [] { c with shifted := false } 0
  else if v = .kr ∧ a = 0x0e then .go [] { c with shifted := true } 0
  else if a = 0x0a then .go itself { c with shifted := false } 0
  else if a.toNat < 0x20 then .go itself c 0
  else if 0x80 ≤ a.toNat then .illegal 0
  else (if c.shifted then c.second else c.first).step c a bytes

/-- The characters of bytes, the first of which has the given place. -/
def decodeFrom (v : Iso2022) (codec : String) (c : Choice) (place : Nat) :
    List UInt8 → Except Undecodable (List Char)
  | [] => .ok []
  | a :: bytes =>
    match v.step c a bytes with
    | .go chars c more =>
      (decodeFrom v codec c (place + 1 + more) (bytes.drop more)).map (chars ++ ·)
    | .illegal more => .error (.bytes ⟨codec, a, place, 1 + more, "illegal multibyte sequence"⟩)
    | .incomplete =>
      .error (.bytes ⟨codec, a, place, bytes.length + 1, "incomplete multibyte sequence"⟩)
    | .noThirdSet => .error .noSet
termination_by bytes => bytes.length
decreasing_by simp only [List.length_drop, List.length_cons]; omega

/-- The characters of bytes, with the name of the version in faults. -/
def decode (v : Iso2022) (codec : String) (bytes : List UInt8) :
    Except Undecodable (List Char) :=
  v.decodeFrom codec {} 0 bytes

end Iso2022

end SlideDeck.Text
