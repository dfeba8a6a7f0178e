import SlideDeck.Json.Reader
import SlideDeck.Json.Writer
import SlideDeck.Proofs.Number.Numeral

/-!
# Strings and numbers in JSON

A string is read back from its text, whatever it holds (`stringBody_escaped`). A number is read back
if something follows that cannot belong to it, and in a document only a comma, a closing bracket or a
line break can follow (`Delimited`): a whole number, unless it has too many digits
(`number?_integer`), and any other that is finite (`number?_real`).
-/

namespace SlideDeck.Json

open SlideDeck.Text SlideDeck.Number

/-! ## Strings -/

/-- A character below U+0020 is escaped by its number. -/
theorem codeUnit?_hexDigits {n : Nat} (h : n < 0x20) :
    ∃ a b c d, hexDigits 4 n = [a, b, c, d] ∧ codeUnit? a b c d = some n := by
  have all : ∀ n : Fin 0x20, ∃ a b c d, hexDigits 4 n = [a, b, c, d] ∧
      codeUnit? a b c d = some n.val := by
    intro n
    refine ⟨_, _, _, _, rfl, ?_⟩
    revert n
    decide +kernel
  exact all ⟨n, h⟩

/-- A character is escaped by a letter or by its number, or stands as it is. -/
theorem escapeChar_cases (c : Char) :
    (∃ d, escapeChar c = ['\\', d] ∧ escaped? d = some c) ∨
    (c.toNat < 0x20 ∧ escapeChar c = '\\' :: 'u' :: hexDigits 4 c.toNat) ∨
    (c ≠ '"' ∧ c ≠ '\\' ∧ 0x20 ≤ c.toNat ∧ escapeChar c = [c]) := by
  have letters : ∀ e ∈ ['"', '\\', '\x08', '\t', '\n', '\x0c', '\r'],
      ∃ d, escapeChar e = ['\\', d] ∧ escaped? d = some e := by
    simp only [List.forall_mem_cons]
    exact ⟨⟨'"', rfl, rfl⟩, ⟨'\\', rfl, rfl⟩, ⟨'b', rfl, rfl⟩, ⟨'t', rfl, rfl⟩, ⟨'n', rfl, rfl⟩,
      ⟨'f', rfl, rfl⟩, ⟨'r', rfl, rfl⟩, fun _ absent => nomatch absent⟩
  by_cases letter : c ∈ ['"', '\\', '\x08', '\t', '\n', '\x0c', '\r']
  · exact .inl (letters c letter)
  · simp only [List.mem_cons, List.not_mem_nil, or_false, not_or] at letter
    obtain ⟨quote, backslash, back, tab, newline, feed, return_⟩ := letter
    have rest : escapeChar c = if c.toNat < 0x20 then '\\' :: 'u' :: hexDigits 4 c.toNat else [c] := by
      rw [escapeChar, if_neg quote, if_neg backslash, if_neg back, if_neg tab, if_neg newline,
        if_neg feed, if_neg return_]
    by_cases control : c.toNat < 0x20
    · exact .inr (.inl ⟨control, by rw [rest, if_pos control]⟩)
    · exact .inr (.inr ⟨quote, backslash, Nat.not_lt.mp control, by rw [rest, if_neg control]⟩)

/-- A character is read back from its escape. -/
@[simp]
theorem stringBody_escapeChar (c : Char) (rest : List Char) :
    stringBody (escapeChar c ++ rest) = (stringBody rest).map fun (s, rest) => (c :: s, rest) := by
  rcases escapeChar_cases c with ⟨d, written, reads⟩ | ⟨control, written⟩ |
    ⟨quote, backslash, visible, written⟩
  · rw [written, List.cons_append, List.cons_append, List.nil_append, stringBody, reads]
    rintro a b c' d' rest' rfl
    cases reads
  · obtain ⟨a, b, c', d, digits, unit⟩ := codeUnit?_hexDigits control
    rw [written, digits]
    simp only [List.cons_append, List.nil_append]
    rw [stringBody, unit]
    simp only
    rw [if_neg (by omega), if_neg (by omega), Char.ofNat_toNat]
  · rw [written, List.singleton_append, stringBody]
    · rw [if_neg (not_or.mpr ⟨Nat.not_lt.mpr visible, backslash⟩)]
    · exact quote
    · exact fun _ _ _ _ _ same _ => backslash same
    · exact fun _ _ same _ => backslash same

/-- **The characters of a string are read back.** -/
@[simp]
theorem stringBody_escaped (s rest : List Char) :
    stringBody (s.flatMap escapeChar ++ '"' :: rest) = some (s, rest) := by
  induction s with
  | nil => rfl
  | cons c s ih =>
    rw [List.flatMap_cons, List.append_assoc, stringBody_escapeChar, ih]
    rfl

/-! ## Numbers -/

/-- What may follow a value in a document. -/
def Delimited (rest : List Char) : Prop :=
  ∀ c ∈ rest.head?, c ∈ [',', ']', '\x7d', '\n']

/-- What cannot belong to a number. -/
theorem Delimited.stop {rest : List Char} (h : Delimited rest) :
    ∀ c ∈ rest.head?, asciiDigit? c = none ∧ c ≠ '.' ∧ c ≠ 'e' ∧ c ≠ 'E' := by
  have all : ∀ c ∈ [',', ']', '\x7d', '\n'],
      asciiDigit? c = none ∧ c ≠ '.' ∧ c ≠ 'e' ∧ c ≠ 'E' :=
    List.all_iff_forall_prop.mp (by decide)
  exact fun c mem => all c (h c mem)

/-- Digits that may stand before a point: not too many, and no zero before others. -/
structure Leads (ds : List Char) : Prop where
  ne : ds ≠ []
  digit : ∀ c ∈ ds, c.isDigit = true
  leading : ds.head? = some '0' → ds.length = 1
  short : ds.length ≤ digitLimit

/-- The digits of a numeral before its point. -/
theorem Leads.of_wellFormed {n : Numeral} (wf : n.WellFormed) : Leads n.whole :=
  ⟨wf.whole_ne, wf.whole_digit, wf.leading, wf.short⟩

/-- The digits of a whole number. -/
theorem Leads.of_toDigits {n : Nat} (short : (Nat.toDigits 10 n).length ≤ digitLimit) :
    Leads (Nat.toDigits 10 n) := by
  refine ⟨Nat.toDigits_ne_nil, fun c => isDigit_toDigits, fun zero => ?_, short⟩
  rw [eq_zero_of_head zero]
  rfl

/-- Such digits pass the checks of the reader. -/
theorem Leads.passes {ds : List Char} (h : Leads ds) :
    ((ds.map charValue).isEmpty ||
      ((ds.map charValue).head? == some 0 && (ds.map charValue).length != 1) ||
      decide (digitLimit < (ds.map charValue).length)) = false := by
  obtain ⟨c, cs, rfl⟩ := List.exists_cons_of_ne_nil h.ne
  have short : ¬ digitLimit < (c :: cs).length := Nat.not_lt.mpr h.short
  have bounds := isDigit_bounds (h.digit c List.mem_cons_self)
  have leading : charValue c = 0 → cs = [] := by
    intro zero
    have code : c.toNat = '0'.toNat := by
      have least : '0'.toNat = 48 := rfl
      simp only [charValue] at zero
      omega
    have alone := h.leading (congrArg some (Char.toNat_inj.mp code))
    exact List.length_eq_zero_iff.mp (Nat.succ.inj alone)
  simp only [List.map_cons, List.isEmpty_cons, List.head?_cons, List.length_cons, List.length_map,
    Bool.false_or]
  rw [Bool.or_eq_false_iff]
  refine ⟨?_, decide_eq_false (by simpa using short)⟩
  by_cases zero : charValue c = 0
  · simp [leading zero]
  · simp [zero]

/-- No point comes after a number. -/
theorem fraction?_delimited {rest : List Char} (h : Delimited rest) :
    fraction? rest = some ([], rest, false) := by
  cases rest with
  | nil => rfl
  | cons c rest =>
    have point := (h.stop c rfl).2.1
    simp [fraction?, point]

/-- Neither does a power. -/
theorem power?_delimited {rest : List Char} (h : Delimited rest) :
    power? rest = some (0, rest, false) := by
  cases rest with
  | nil => rfl
  | cons c rest =>
    obtain ⟨-, -, small, capital⟩ := h.stop c rfl
    simp [power?, small, capital]

/-- Digits without a point and a power are a whole number. -/
theorem unsigned?_toDigits (negative : Bool) {n : Nat}
    (short : (Nat.toDigits 10 n).length ≤ digitLimit) {rest : List Char} (h : Delimited rest) :
    unsigned? negative (Nat.toDigits 10 n ++ rest) =
      some (.integer (signed negative n), rest) := by
  have leads := Leads.of_toDigits short
  have taken := takeDigits_append readsDigits_ascii.digit leads.digit rest
    (fun c mem => (h.stop c mem).1)
  have value : ofDigits ((Nat.toDigits 10 n).map charValue) = n := by
    rw [ofDigits_map, Nat.ofDigitChars_ten_toDigits]
  unfold unsigned?
  rw [taken]
  simp only [leads.passes, Bool.false_eq_true, if_false, fraction?_delimited h,
    power?_delimited h, Bool.or_self, value]

section Numerals

variable {n : Numeral} {rest : List Char}

/-- The digits after the point of a numeral. -/
theorem fraction?_chars (wf : n.WellFormed) (noPoint : rest.head? ≠ some '.')
    (noDigit : ∀ c ∈ rest.head?, asciiDigit? c = none) :
    fraction? (Numeral.fractionChars n.fraction ++ rest) =
      some ((n.fraction.getD []).map charValue, rest, n.fraction.isSome) := by
  cases hf : n.fraction with
  | none =>
    cases rest with
    | nil => rfl
    | cons c rest =>
      have point : c ≠ '.' := fun same => noPoint (congrArg some same)
      simp [fraction?, Numeral.fractionChars, point]
  | some ds =>
    have taken := takeDigits_append readsDigits_ascii.digit (wf.fraction_digit ds hf) rest noDigit
    obtain ⟨d, more, rfl⟩ := List.exists_cons_of_ne_nil fun none_ =>
      wf.fraction_ne (hf.trans (congrArg some none_))
    simp only [Numeral.fractionChars, List.cons_append, fraction?] at taken ⊢
    rw [taken]
    rfl

/-- The power of ten of a numeral. -/
theorem power?_chars (wf : n.WellFormed) (h : Delimited rest) :
    power? (Numeral.powerChars n.power ++ rest) =
      some (n.writtenPower, rest, n.power.isSome) := by
  unfold Numeral.writtenPower
  cases hp : n.power with
  | none => exact power?_delimited h
  | some p =>
    obtain ⟨negative, ds⟩ := p
    have taken := takeDigits_append readsDigits_ascii.digit (wf.power_digit _ hp) rest
      (fun c mem => (h.stop c mem).1)
    obtain ⟨d, more, hd⟩ := List.exists_cons_of_ne_nil (wf.power_ne _ hp)
    simp only at taken hd
    simp only [Numeral.powerChars, List.cons_append, power?, true_or, if_true, takeSign_power,
      taken]
    rw [← ofDigits_map, hd]
    rfl

/-- The digits of a numeral are the nearest number. -/
theorem unsigned?_chars (negative : Bool) (wf : n.WellFormed) (h : Delimited rest) :
    unsigned? negative (n.chars ++ rest) =
      some (.real (if negative then -ofDecimal n.digits n.exponent
        else ofDecimal n.digits n.exponent), rest) := by
  have leads := Leads.of_wellFormed wf
  have noDigit := powerChars_stop readsDigits_ascii n.power fun c mem => (h.stop c mem).1
  have noPoint : (Numeral.powerChars n.power ++ rest).head? ≠ some '.' := by
    cases n.power with
    | none => exact fun point => (h.stop _ point).2.1 rfl
    | some p => exact nofun
  have whole := takeDigits_append readsDigits_ascii.digit leads.digit _
    (fractionChars_stop readsDigits_ascii n.fraction noDigit)
  have marked : (n.fraction.isSome || n.power.isSome) = true := by
    rw [Bool.or_eq_true]
    exact wf.notWhole
  have digits : ofDigits (n.whole.map charValue ++ (n.fraction.getD []).map charValue) = n.digits := by
    rw [← List.map_append, ofDigits_map, Numeral.digits]
  unfold unsigned? Numeral.chars
  rw [List.append_assoc, List.append_assoc, whole]
  simp only [leads.passes, Bool.false_eq_true, if_false, fraction?_chars wf noPoint noDigit,
    power?_chars wf h, marked, if_true, digits]
  rw [List.length_map]
  rfl

end Numerals

/-- A sign is taken off a number, unless it stands before a word. -/
theorem number?_of_digit {c : Char} (digit : c.isDigit = true) (negative : Bool) (cs : List Char) :
    number? ((if negative then ['-'] else []) ++ c :: cs) = unsigned? negative (c :: cs) := by
  cases negative with
  | true =>
    have letter : 'I' ≠ c := by
      rintro rfl
      cases digit
    have word : take? "Infinity".toList (c :: cs) = none := if_neg letter
    simp only [if_true, List.cons_append, List.nil_append, number?, word]
  | false =>
    have minus : c ≠ '-' := by
      rintro rfl
      cases digit
    simp [number?, minus]

/-- A text that is read as a number. -/
def Numeric (text : List Char) (v : Json) : Prop :=
  ∃ negative c cs, text = (if negative then ['-'] else []) ++ c :: cs ∧ c.isDigit = true ∧
    ∀ rest, Delimited rest → unsigned? negative (c :: cs ++ rest) = some (v, rest)

/-- The text of a whole number: a sign, and its digits. -/
theorem toList_integer (i : Int) :
    (toString i).toList = (if i < 0 then ['-'] else []) ++ Nat.toDigits 10 i.natAbs := by
  have written : toString i = i.repr := rfl
  rw [written, Int.repr_eq_if]
  split
  · rename_i positive
    rw [if_neg (Int.not_lt.mpr positive), Nat.toList_repr, show i.toNat = i.natAbs by omega]
    rfl
  · rename_i below
    rw [if_pos (Int.not_le.mp below), String.toList_append, Nat.toList_repr,
      show (-i).toNat = i.natAbs by omega]
    rfl

/-- **A whole number is read back**, unless it has too many digits. -/
theorem numeric_integer {i : Int} (short : (Nat.toDigits 10 i.natAbs).length ≤ digitLimit) :
    Numeric (toString i).toList (.integer i) := by
  have leads := Leads.of_toDigits short
  obtain ⟨c, cs, hc⟩ := List.exists_cons_of_ne_nil leads.ne
  have whole : ∀ negative rest, Delimited rest →
      unsigned? negative (c :: cs ++ rest) = some (.integer (signed negative i.natAbs), rest) := by
    intro negative rest h
    rw [← hc]
    exact unsigned?_toDigits negative short h
  have text := toList_integer i
  by_cases below : i < 0
  · refine ⟨true, c, cs, by rw [text, if_pos below, if_pos rfl, hc], leads.digit c ?_, ?_⟩
    · rw [hc]
      exact List.mem_cons_self
    · intro rest h
      rw [whole true rest h, signed, if_pos rfl, show -(i.natAbs : Int) = i by omega]
  · refine ⟨false, c, cs, by rw [text, if_neg below, if_neg Bool.false_ne_true, hc],
      leads.digit c ?_, ?_⟩
    · rw [hc]
      exact List.mem_cons_self
    · intro rest h
      rw [whole false rest h, signed, if_neg Bool.false_ne_true,
        show (i.natAbs : Int) = i by omega]

/-- **Any other number is read back**, if it is finite. -/
theorem numeric_real {x : Float} {negative : Bool} {m : Nat} {e : Int}
    (finite : parts x = .finite negative m e) : Numeric (document.text x).toList (.real x) := by
  obtain ⟨n, wf, value, text⟩ := document.text_finite (by decide) finite
  obtain ⟨c, cs, hc⟩ := List.exists_cons_of_ne_nil wf.whole_ne
  have start : n.chars = c :: (cs ++ (Numeral.fractionChars n.fraction ++
      Numeral.powerChars n.power)) := by
    rw [Numeral.chars, hc]
    rfl
  refine ⟨negative, c, _, by rw [text, start], wf.whole_digit c (hc ▸ List.mem_cons_self), ?_⟩
  intro rest h
  rw [← start, unsigned?_chars negative wf h, ofDecimal_of_value finite value]

/-- What starts as a number is read as one. -/
theorem atom?_numeric {text : List Char} {v : Json} (h : Numeric text v) {rest : List Char}
    (delimited : Delimited rest) : atom? (text ++ rest) = some (v, rest) := by
  obtain ⟨negative, c, cs, rfl, digit, reads⟩ := h
  have number : atom? ((if negative then ['-'] else []) ++ c :: (cs ++ rest)) =
      number? ((if negative then ['-'] else []) ++ c :: (cs ++ rest)) := by
    cases negative with
    | true => rfl
    | false =>
      have other : ∀ d ∈ ['"', 'n', 't', 'f', 'N', 'I'], c ≠ d := by
        rintro d mem rfl
        have none_ : ∀ d ∈ ['"', 'n', 't', 'f', 'N', 'I'], d.isDigit = false :=
          List.all_iff_forall_prop.mp (by decide)
        exact Bool.false_ne_true ((none_ c mem).symm.trans digit)
      simp only [List.forall_mem_cons] at other
      simp [atom?, other]
  rw [List.append_assoc, List.cons_append, number, number?_of_digit digit]
  exact reads rest delimited

end SlideDeck.Json
