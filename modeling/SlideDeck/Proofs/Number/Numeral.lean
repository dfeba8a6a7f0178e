import SlideDeck.Number.Layout
import SlideDeck.Proofs.Number.Shortest

/-!
# Written numbers

However a decimal is laid out, its text is a `Numeral`: digits, perhaps a point and digits, perhaps a
power of ten. A numeral is worth what the decimal is worth (`Layout.exists_numeral`), though it may
have some zeros more. Reading takes the digits of a numeral and makes the nearest number of them.

**The law** (`read?_text`): a number that is written in a deck is read back as it was, whatever the
number is.
-/

namespace SlideDeck.Number

open SlideDeck.Text

/-! ## Digits -/

/-- The value of a digit. -/
def charValue (c : Char) : Nat :=
  c.toNat - '0'.toNat

/-- What a reader takes for digits: those of ASCII with their values, and neither a point nor the
letter before a power. -/
structure ReadsDigits (digit? : Char → Option Nat) : Prop where
  digit : ∀ c : Char, c.isDigit = true → digit? c = some (charValue c)
  point : digit? '.' = none
  letter : digit? 'e' = none

theorem isDigit_bounds {c : Char} (h : c.isDigit = true) : 48 ≤ c.toNat ∧ c.toNat ≤ 57 := by
  simp only [Char.isDigit, Bool.and_eq_true, decide_eq_true_eq, UInt32.le_iff_toNat_le] at h
  exact h

theorem readsDigits_ascii : ReadsDigits asciiDigit? := by
  refine ⟨fun c h => ?_, rfl, rfl⟩
  have bounds := isDigit_bounds h
  have range : '0' ≤ c ∧ c ≤ '9' := bounds
  rw [asciiDigit?, if_pos range]
  rfl

theorem readsDigits_decimal : ReadsDigits decimalDigit? := by
  refine ⟨fun c h => ?_, by decide, by decide⟩
  have bounds := isDigit_bounds h
  have row : (decide (0x30 ≤ c.toNat) && decide (c.toNat < 0x30 + 10)) = true := by
    rw [Bool.and_eq_true, decide_eq_true_eq, decide_eq_true_eq]
    omega
  rw [decimalDigit?, digitZeros, List.find?_cons, row]
  rfl

/-- Digits are taken up to what is no digit. -/
theorem takeDigits_append {digit? : Char → Option Nat}
    (reads : ∀ c : Char, c.isDigit = true → digit? c = some (charValue c)) {cs : List Char}
    (digits : ∀ c ∈ cs, c.isDigit = true) (rest : List Char)
    (stop : ∀ c ∈ rest.head?, digit? c = none) :
    takeDigits digit? (cs ++ rest) = (cs.map charValue, rest) := by
  induction cs with
  | nil =>
    cases rest with
    | nil => rfl
    | cons c rest =>
      have none := stop c rfl
      simp only [List.nil_append, takeDigits, none, List.map_nil]
  | cons c cs ih =>
    have some := reads c (digits c List.mem_cons_self)
    have more := ih fun c' mem => digits c' (List.mem_cons_of_mem _ mem)
    simp only [List.cons_append, takeDigits, some, more, List.map_cons]

/-- The whole number that digits write. -/
@[simp]
theorem ofDigits_map (cs : List Char) : ofDigits (cs.map charValue) = Nat.ofDigitChars 10 cs 0 := by
  rw [ofDigits, List.foldl_map]
  rfl

/-- Zeros behind digits. -/
@[simp]
theorem ofDigitChars_zeros (cs : List Char) (n : Nat) :
    Nat.ofDigitChars 10 (cs ++ List.replicate n '0') 0 = 10 ^ n * Nat.ofDigitChars 10 cs 0 := by
  rw [Nat.ofDigitChars_append, Nat.ofDigitChars_replicate_zero]

/-- Zeros before digits. -/
@[simp]
theorem ofDigitChars_padded (cs : List Char) (n : Nat) :
    Nat.ofDigitChars 10 (List.replicate n '0' ++ cs) 0 = Nat.ofDigitChars 10 cs 0 := by
  rw [Nat.ofDigitChars_append, Nat.ofDigitChars_replicate_zero, Nat.mul_zero]

theorem isDigit_toDigits {c : Char} {n : Nat} (h : c ∈ Nat.toDigits 10 n) : c.isDigit = true :=
  Nat.isDigit_of_mem_toDigits (by decide) (by decide) h

theorem isDigit_zeros {c : Char} {n : Nat} (h : c ∈ List.replicate n '0') : c.isDigit = true := by
  rw [List.eq_of_mem_replicate h]
  rfl

theorem ofDigitChars_lt {cs : List Char} (digits : ∀ c ∈ cs, c.isDigit = true) :
    Nat.ofDigitChars 10 cs 0 < 10 ^ cs.length := by
  induction cs with
  | nil => exact Nat.one_pos
  | cons c cs ih =>
    have bounds := isDigit_bounds (digits c List.mem_cons_self)
    have less := ih fun c' mem => digits c' (List.mem_cons_of_mem _ mem)
    have first : c.toNat - '0'.toNat ≤ 9 := by
      show c.toNat - 48 ≤ 9
      omega
    rw [Nat.ofDigitChars_cons, Nat.ofDigitChars_eq_ofDigitChars_zero, Nat.mul_zero, Nat.zero_add,
      List.length_cons, Nat.pow_succ]
    have most := Nat.mul_le_mul_left (10 ^ cs.length) first
    omega

/-- The digits of a number start with a zero only if there is nothing else. -/
theorem eq_zero_of_head {n : Nat} (h : (Nat.toDigits 10 n).head? = some '0') : n = 0 := by
  obtain ⟨rest, hr⟩ := List.head?_eq_some_iff.mp h
  by_contra pos
  have reached := pow_digitCount_le pos
  have whole : Nat.ofDigitChars 10 (Nat.toDigits 10 n) 0 = n := Nat.ofDigitChars_ten_toDigits
  have less : Nat.ofDigitChars 10 rest 0 < 10 ^ rest.length := ofDigitChars_lt fun c mem =>
    isDigit_toDigits (n := n) (hr ▸ List.mem_cons_of_mem _ mem)
  rw [hr, Nat.ofDigitChars_cons] at whole
  rw [digitCount, hr, List.length_cons, Nat.add_sub_cancel] at reached
  have same : Nat.ofDigitChars 10 rest 0 = n := whole
  omega

/-! ## Numerals -/

/-- An unsigned number as it is written: digits, perhaps a point and digits, perhaps a power of ten
with its sign. -/
structure Numeral where
  whole : List Char
  fraction : Option (List Char)
  power : Option (Bool × List Char)

namespace Numeral

/-- The text of the fraction. -/
def fractionChars : Option (List Char) → List Char
  | none => []
  | some ds => '.' :: ds

/-- The text of the power. -/
def powerChars : Option (Bool × List Char) → List Char
  | none => []
  | some (negative, ds) => 'e' :: (if negative then '-' else '+') :: ds

/-- The text. -/
def chars (n : Numeral) : List Char :=
  n.whole ++ (fractionChars n.fraction ++ powerChars n.power)

/-- All digits, as a whole number. -/
def digits (n : Numeral) : Nat :=
  Nat.ofDigitChars 10 (n.whole ++ n.fraction.getD []) 0

/-- The written power of ten. -/
def writtenPower (n : Numeral) : Int :=
  match n.power with
  | none => 0
  | some (negative, ds) => signed negative (Nat.ofDigitChars 10 ds 0)

/-- The power of ten of the last digit. -/
def exponent (n : Numeral) : Int :=
  n.writtenPower - (n.fraction.getD []).length

/-- The value. -/
def value (n : Numeral) : ℚ :=
  n.digits * 10 ^ n.exponent

/-- A numeral that is written as it should be, as no whole number. -/
structure WellFormed (n : Numeral) : Prop where
  whole_ne : n.whole ≠ []
  whole_digit : ∀ c ∈ n.whole, c.isDigit = true
  leading : n.whole.head? = some '0' → n.whole.length = 1
  short : n.whole.length ≤ digitLimit
  fraction_ne : n.fraction ≠ some []
  fraction_digit : ∀ ds ∈ n.fraction, ∀ c ∈ ds, c.isDigit = true
  power_ne : ∀ p ∈ n.power, p.2 ≠ []
  power_digit : ∀ p ∈ n.power, ∀ c ∈ p.2, c.isDigit = true
  notWhole : n.fraction.isSome = true ∨ n.power.isSome = true

section InFull

variable {whole fraction : List Char}

/-- A numeral with a point and without a power. -/
def inFull (whole fraction : List Char) : Numeral :=
  ⟨whole, some fraction, none⟩

theorem wellFormed_inFull (before : 0 < whole.length) (after : 0 < fraction.length)
    (digit : ∀ c ∈ whole ++ fraction, c.isDigit = true)
    (leading : whole.head? = some '0' → whole.length = 1) (short : whole.length ≤ digitLimit) :
    (inFull whole fraction).WellFormed where
  whole_ne := List.ne_nil_of_length_pos before
  whole_digit := fun c mem => digit c (List.mem_append_left _ mem)
  leading := leading
  short := short
  fraction_ne := fun none => List.ne_nil_of_length_pos after (Option.some.inj none)
  fraction_digit := by
    intro ds hf c mem
    cases hf
    exact digit c (List.mem_append_right _ mem)
  power_ne := fun _ absent => nomatch absent
  power_digit := fun _ absent => nomatch absent
  notWhole := .inl rfl

@[simp]
theorem chars_inFull : (inFull whole fraction).chars = whole ++ '.' :: fraction := by
  rw [chars, inFull, powerChars, List.append_nil]
  rfl

@[simp]
theorem value_inFull : (inFull whole fraction).value =
    Nat.ofDigitChars 10 (whole ++ fraction) 0 * 10 ^ (-(fraction.length : Int)) := by
  rw [value, exponent, writtenPower, inFull]
  simp only [digits, Option.getD_some, zero_sub]

end InFull

end Numeral

/-! ## Layouts -/

section Layouts

variable {n : Nat} {k : Int}

theorem full_natCast (ds : List Char) (p : Nat) :
    full ds p = ds.take (p + 1) ++ List.replicate (p + 1 - (ds.take (p + 1)).length) '0' ++
      '.' :: (if (ds.drop (p + 1)).isEmpty then ['0'] else ds.drop (p + 1)) :=
  rfl

/-- A number that is written in full, with the point among its digits. -/
theorem exists_numeral_among (p : Nat) (inside : p + 1 < digitCount n) (short : p < digitLimit)
    (power : (p : Int) = k + (digitCount n - 1 : Nat)) :
    ∃ m : Numeral, m.WellFormed ∧ full (Nat.toDigits 10 n) p = m.chars ∧
      m.value = n * 10 ^ k := by
  have whole : Nat.ofDigitChars 10 (Nat.toDigits 10 n) 0 = n := Nat.ofDigitChars_ten_toDigits
  have count : (Nat.toDigits 10 n).length = digitCount n := rfl
  have lead : (Nat.toDigits 10 n).head? = some '0' → digitCount n = 1 := by
    intro head
    rw [eq_zero_of_head head]
    rfl
  have before : ((Nat.toDigits 10 n).take (p + 1)).length = p + 1 := by
    rw [List.length_take]
    omega
  have after : ((Nat.toDigits 10 n).drop (p + 1)).length = digitCount n - (p + 1) :=
    List.length_drop
  refine ⟨.inFull ((Nat.toDigits 10 n).take (p + 1)) ((Nat.toDigits 10 n).drop (p + 1)),
    Numeral.wellFormed_inFull (by omega) (by omega) (fun c mem => ?_) (fun head => ?_) (by omega),
    ?_, ?_⟩
  · rw [List.take_append_drop] at mem
    exact isDigit_toDigits mem
  · rw [List.head?_take, if_neg (Nat.succ_ne_zero p)] at head
    have one := lead head
    omega
  · have rest : ((Nat.toDigits 10 n).drop (p + 1)).isEmpty = false := by
      rw [List.isEmpty_eq_false_iff]
      exact List.ne_nil_of_length_pos (by omega)
    rw [full_natCast, before, rest, Nat.sub_self, List.replicate_zero, List.append_nil,
      Numeral.chars_inFull]
    rfl
  · rw [Numeral.value_inFull, List.take_append_drop, whole, after]
    congr 2
    omega

/-- A number that is written in full, with the point behind its digits. -/
theorem exists_numeral_behind (p : Nat) (outside : digitCount n ≤ p + 1) (short : p < digitLimit)
    (zero : n = 0 → k = 0) (power : (p : Int) = k + (digitCount n - 1 : Nat)) :
    ∃ m : Numeral, m.WellFormed ∧ full (Nat.toDigits 10 n) p = m.chars ∧
      m.value = n * 10 ^ k := by
  have whole : Nat.ofDigitChars 10 (Nat.toDigits 10 n) 0 = n := Nat.ofDigitChars_ten_toDigits
  have count : (Nat.toDigits 10 n).length = digitCount n := rfl
  have more := digitCount_pos n
  obtain ⟨j, hj⟩ : ∃ j, p + 1 - digitCount n = j := ⟨_, rfl⟩
  have length : (Nat.toDigits 10 n ++ List.replicate j '0').length = p + 1 := by
    rw [List.length_append, List.length_replicate]
    omega
  refine ⟨.inFull (Nat.toDigits 10 n ++ List.replicate j '0') ['0'],
    Numeral.wellFormed_inFull (by omega) Nat.one_pos (fun c mem => ?_) (fun head => ?_) (by omega),
    ?_, ?_⟩
  · rw [List.append_assoc, ← List.replicate_succ'] at mem
    rcases List.mem_append.mp mem with mem | mem
    · exact isDigit_toDigits mem
    · exact isDigit_zeros mem
  · rw [List.head?_append_of_ne_nil _ (List.ne_nil_of_length_pos more)] at head
    have none := eq_zero_of_head head
    have one : digitCount n = 1 := by
      rw [none]
      rfl
    have noPower := zero none
    omega
  · have rest : ((Nat.toDigits 10 n).drop (p + 1)).isEmpty = true := by
      rw [List.isEmpty_iff, List.drop_eq_nil_iff]
      exact outside
    rw [full_natCast, List.take_of_length_le outside, rest, if_pos rfl, count, hj,
      Numeral.chars_inFull]
  · have zeros : Nat.ofDigitChars 10 (Nat.toDigits 10 n ++ List.replicate j '0' ++ ['0']) 0 =
        10 ^ (j + 1) * n := by
      rw [List.append_assoc, ← List.replicate_succ', ofDigitChars_zeros, whole]
    have same : k = j := by omega
    rw [Numeral.value_inFull, zeros, same, zpow_neg, List.length_singleton]
    push_cast
    rw [zpow_natCast, pow_succ]
    ring

/-- A number that is written in full, with its first digit before the point. -/
theorem exists_numeral_full (p : Nat) (short : p < digitLimit) (zero : n = 0 → k = 0)
    (power : (p : Int) = k + (digitCount n - 1 : Nat)) :
    ∃ m : Numeral, m.WellFormed ∧ full (Nat.toDigits 10 n) p = m.chars ∧
      m.value = n * 10 ^ k := by
  rcases Nat.lt_or_ge (p + 1) (digitCount n) with inside | outside
  · exact exists_numeral_among p inside short power
  · exact exists_numeral_behind p outside short zero power

/-- A number that is written in full, with its first digit after the point. -/
theorem exists_numeral_small (p : Nat)
    (power : Int.negSucc p = k + (digitCount n - 1 : Nat)) :
    ∃ m : Numeral, m.WellFormed ∧ full (Nat.toDigits 10 n) (.negSucc p) = m.chars ∧
      m.value = n * 10 ^ k := by
  have more := digitCount_pos n
  have count : (Nat.toDigits 10 n).length = digitCount n := rfl
  have padded : ['0'] ++ (List.replicate p '0' ++ Nat.toDigits 10 n) =
      List.replicate (p + 1) '0' ++ Nat.toDigits 10 n := rfl
  have length : (List.replicate p '0' ++ Nat.toDigits 10 n).length = p + digitCount n := by
    rw [List.length_append, List.length_replicate, count]
  refine ⟨.inFull ['0'] (List.replicate p '0' ++ Nat.toDigits 10 n),
    Numeral.wellFormed_inFull Nat.one_pos (by omega) (fun c mem => ?_) (fun _ => rfl) (by decide),
    ?_, ?_⟩
  · rw [padded] at mem
    rcases List.mem_append.mp mem with mem | mem
    · exact isDigit_zeros mem
    · exact isDigit_toDigits mem
  · rw [Numeral.chars_inFull]
    rfl
  · rw [Numeral.value_inFull, padded, ofDigitChars_padded, Nat.ofDigitChars_ten_toDigits, length]
    congr 2
    omega

/-- A number that is written with a power of ten. -/
theorem exists_numeral_scientific (width : Nat) :
    ∃ m : Numeral, m.WellFormed ∧
      scientific width (Nat.toDigits 10 n) (k + (digitCount n - 1 : Nat)) = m.chars ∧
      m.value = n * 10 ^ k := by
  have isDigit : ∀ c ∈ Nat.toDigits 10 n, c.isDigit = true := fun c => isDigit_toDigits
  have more := digitCount_pos n
  have whole : Nat.ofDigitChars 10 (Nat.toDigits 10 n) 0 = n := Nat.ofDigitChars_ten_toDigits
  have count : digitCount n = (Nat.toDigits 10 n).length := rfl
  generalize hp : k + (digitCount n - 1 : Nat) = power
  generalize Nat.toDigits 10 n = ds at *
  have first : (ds.take 1).length = 1 := by
    rw [List.length_take]
    omega
  refine ⟨⟨ds.take 1, if (ds.drop 1).isEmpty then none else some (ds.drop 1),
    some (power < 0, paddedDigits width power.natAbs)⟩, ?_, ?_, ?_⟩
  · refine ⟨?_, fun c mem => isDigit c (List.mem_of_mem_take mem), fun _ => first, ?_, ?_, ?_, ?_,
      ?_, .inr rfl⟩
    · intro none
      have length := congrArg List.length none
      rw [first] at length
      cases length
    · show (ds.take 1).length ≤ digitLimit
      rw [first]
      decide
    · intro empty
      split at empty
      · cases empty
      · rename_i some
        exact some (by rw [Option.some.inj empty]; rfl)
    · intro fraction hf c mem
      split at hf
      · cases hf
      · cases hf
        exact isDigit c (List.mem_of_mem_drop mem)
    · intro p hp none
      cases hp
      have length := congrArg List.length none
      have some := Nat.length_toDigits_pos (b := 10) (n := power.natAbs)
      rw [paddedDigits, List.length_append, List.length_nil] at length
      omega
    · intro p hp c mem
      cases hp
      rcases List.mem_append.mp mem with mem | mem
      · exact isDigit_zeros mem
      · exact isDigit_toDigits mem
  · simp only [scientific, Numeral.chars, Numeral.powerChars, decide_eq_true_eq]
    split <;> simp [Numeral.fractionChars]
  · have fraction : (if (ds.drop 1).isEmpty then none else some (ds.drop 1)).getD [] =
        ds.drop 1 := by
      split
      · rename_i empty
        rw [List.isEmpty_iff.mp empty]
        rfl
      · rfl
    have magnitude : signed (power < 0)
        (Nat.ofDigitChars 10 (paddedDigits width power.natAbs) 0) = power := by
      rw [paddedDigits, ofDigitChars_padded, Nat.ofDigitChars_ten_toDigits, signed]
      simp only [decide_eq_true_eq]
      split <;> omega
    simp only [Numeral.value, Numeral.digits, Numeral.exponent, Numeral.writtenPower, fraction,
      List.take_append_drop, whole, magnitude, List.length_drop]
    congr 2
    omega

/-- **However a decimal is laid out, it is written as a numeral of its value.** -/
theorem Layout.exists_numeral (l : Layout) (limit : l.fullBelow ≤ digitLimit) (d : Decimal)
    (zero : d.digits = 0 → d.exponent = 0) :
    ∃ m : Numeral, m.WellFormed ∧ l.decimal d = m.chars ∧ m.value = d.value := by
  have count : (Nat.toDigits 10 d.digits).length = digitCount d.digits := rfl
  unfold Layout.decimal
  simp only [count]
  split
  · rename_i inFull
    cases hp : d.exponent + (digitCount d.digits - 1 : Nat) with
    | ofNat p =>
      refine exists_numeral_full p ?_ zero hp.symm
      rcases inFull with none | between
      · have one : digitCount d.digits = 1 := by
          rw [none]
          rfl
        have power : (p : Int) = 0 := by
          rw [zero none, one] at hp
          exact hp.symm
        have ten : 0 < digitLimit := by decide
        omega
      · have below := between.2
        rw [hp, Int.ofNat_eq_natCast] at below
        omega
    | negSucc p => exact exists_numeral_small p hp.symm
  · exact exists_numeral_scientific l.exponentWidth

end Layouts

/-! ## Reading numerals -/

section Reading

variable {digit? : Char → Option Nat} {n : Numeral}

/-- What follows the digits before the point is no digit. -/
theorem fractionChars_stop (reads : ReadsDigits digit?) (fraction : Option (List Char))
    {rest : List Char} (stop : ∀ c ∈ rest.head?, digit? c = none) :
    ∀ c ∈ (Numeral.fractionChars fraction ++ rest).head?, digit? c = none := by
  cases fraction with
  | none => exact stop
  | some ds =>
    intro c hc
    cases hc
    exact reads.point

/-- What follows the digits after the point is no digit. -/
theorem powerChars_stop (reads : ReadsDigits digit?) (power : Option (Bool × List Char))
    {rest : List Char} (stop : ∀ c ∈ rest.head?, digit? c = none) :
    ∀ c ∈ (Numeral.powerChars power ++ rest).head?, digit? c = none := by
  cases power with
  | none => exact stop
  | some p =>
    intro c hc
    cases hc
    exact reads.letter

/-- The sign of a power is taken off its digits. -/
@[simp]
theorem takeSign_power (negative : Bool) (ds : List Char) :
    takeSign ((if negative then '-' else '+') :: ds) = (negative, ds) := by
  cases negative <;> rfl

theorem exponent?_chars (reads : ReadsDigits digit?) (wf : n.WellFormed) :
    exponent? digit? (Numeral.powerChars n.power) = some n.writtenPower := by
  unfold Numeral.writtenPower
  cases hp : n.power with
  | none => rfl
  | some p =>
    obtain ⟨negative, ds⟩ := p
    have digits := takeDigits_append reads.digit (wf.power_digit _ hp) []
      (fun _ absent => nomatch absent)
    rw [List.append_nil] at digits
    obtain ⟨d, more, hd⟩ := List.exists_cons_of_ne_nil (wf.power_ne _ hp)
    simp only [Numeral.powerChars, exponent?, true_or, if_true, takeSign_power, digits]
    rw [← ofDigits_map]
    simp only at hd
    rw [hd]
    rfl

/-- **The digits of a numeral are read as the nearest number.** -/
theorem decimal?_chars (reads : ReadsDigits digit?) (wf : n.WellFormed) :
    decimal? digit? n.chars = some (ofDecimal n.digits n.exponent) := by
  have noRest : ∀ c ∈ ([] : List Char).head?, digit? c = none := fun _ absent => nomatch absent
  have whole := takeDigits_append reads.digit wf.whole_digit
    (Numeral.fractionChars n.fraction ++ Numeral.powerChars n.power) (by
      have stop := powerChars_stop reads n.power noRest
      rw [List.append_nil] at stop
      exact fractionChars_stop reads n.fraction stop)
  have some : (n.whole.map charValue).isEmpty = false := by
    rw [List.isEmpty_eq_false_iff, ne_eq, List.map_eq_nil_iff]
    exact wf.whole_ne
  unfold decimal? Numeral.chars
  rw [whole]
  have power := exponent?_chars reads wf
  cases hf : n.fraction with
  | none =>
    have noPoint : ∀ rest, Numeral.powerChars n.power ≠ '.' :: rest := by
      cases n.power with
      | none => exact nofun
      | some p => exact nofun
    simp only [Numeral.digits, Numeral.exponent, hf, Option.getD_none, List.append_nil,
      List.length_nil]
    generalize Numeral.powerChars n.power = rest at noPoint power ⊢
    simp only [Numeral.fractionChars, List.nil_append, some, Bool.false_and, Bool.false_eq_true,
      if_false, power, Option.map_some, List.append_nil, ofDigits_map, List.length_nil]
  | some ds =>
    have digits := takeDigits_append reads.digit (wf.fraction_digit ds hf)
      (Numeral.powerChars n.power) (by
        have stop := powerChars_stop reads n.power noRest
        rwa [List.append_nil] at stop)
    simp only [Numeral.fractionChars, List.cons_append, digits, some, Bool.false_and,
      Bool.false_eq_true, if_false, power, Option.map_some, ← List.map_append, ofDigits_map,
      List.length_map]
    simp only [Numeral.digits, Numeral.exponent, hf, Option.getD_some]

end Reading

/-! ## Written numbers -/

/-- The zero of a shortest decimal is written without a power. -/
theorem shortest_zero {m : Nat} {e : Int} (h : m = 0 ∨ Canonical m e) :
    (shortest m e).digits = 0 → (shortest m e).exponent = 0 := by
  intro none
  rcases h with rfl | canonical
  · rfl
  · have near := (shortest_nearest canonical).rounds.low
    have one : (1 : ℚ) ≤ m := by exact_mod_cast canonical.pos
    rw [Decimal.value, none, Nat.cast_zero, zero_mul, zero_div] at near
    linarith

/-- **A decimal that is worth what the shortest decimal of a number is worth is read as that
number**, its sign apart. -/
theorem ofDecimal_of_value {x : Float} {negative : Bool} {m : Nat} {e : Int}
    (h : parts x = .finite negative m e) {digits : Nat} {k : Int}
    (value : (digits * 10 ^ k : ℚ) = (shortest m e).value) :
    (if negative then -ofDecimal digits k else ofDecimal digits k) = x := by
  obtain ⟨top, ⟨rfl, rfl⟩ | canonical⟩ := canonical_of_parts h
  · have none : digits = 0 := by
      have zero : (digits * 10 ^ k : ℚ) = 0 := value.trans (by simp [shortest, Decimal.value])
      rcases mul_eq_zero.mp zero with zero | zero
      · exact_mod_cast zero
      · exact absurd zero (by positivity)
    have plus : parts 0.0 = .finite false 0 (-1074) := by decide +kernel
    have minus : parts (-0.0) = .finite true 0 (-1074) := by decide +kernel
    have read : ofDecimal 0 k = 0.0 := by
      unfold ofDecimal
      simp only [true_or, if_true]
    rw [none, read]
    cases negative with
    | false => exact eq_of_parts (plus.trans h.symm)
    | true => exact eq_of_parts (minus.trans h.symm)
  · have near : Nearest (digits * 10 ^ k) m e := value ▸ shortest_nearest canonical
    have read := ofDecimal_eq canonical top near
    cases negative with
    | false => exact read.trans (eq_positive h canonical).symm
    | true => exact (congrArg (- ·) read).trans (eq_neg_positive h canonical top).symm

/-- The characters that numbers are written with. -/
def numberChars : List Char :=
  ['0', '1', '2', '3', '4', '5', '6', '7', '8', '9', '.', 'e', '+', '-', 'n', 'a', 'i', 'f']

theorem mem_numberChars_of_isDigit {c : Char} (h : c.isDigit = true) : c ∈ numberChars := by
  have bounds := isDigit_bounds h
  have digits : ∀ n : Fin 10, Char.ofNat (48 + n) ∈ numberChars := by decide
  have digit := digits ⟨c.toNat - 48, by omega⟩
  rwa [show 48 + (c.toNat - 48) = c.toNat by omega, Char.ofNat_toNat] at digit

theorem Numeral.WellFormed.mem_numberChars {n : Numeral} (wf : n.WellFormed) {c : Char}
    (h : c ∈ n.chars) : c ∈ numberChars := by
  rcases List.mem_append.mp h with whole | rest
  · exact mem_numberChars_of_isDigit (wf.whole_digit c whole)
  rcases List.mem_append.mp rest with fraction | power
  · cases hf : n.fraction with
    | none =>
      rw [hf] at fraction
      cases fraction
    | some ds =>
      rw [hf] at fraction
      rcases List.mem_cons.mp fraction with rfl | digit
      · decide
      · exact mem_numberChars_of_isDigit (wf.fraction_digit ds hf c digit)
  · cases hp : n.power with
    | none =>
      rw [hp] at power
      cases power
    | some p =>
      obtain ⟨negative, ds⟩ := p
      rw [hp] at power
      rcases List.mem_cons.mp power with rfl | power
      · decide
      · rcases List.mem_cons.mp power with rfl | digit
        · cases negative <;> decide
        · exact mem_numberChars_of_isDigit (wf.power_digit _ hp c digit)

/-- The text of a number that is not infinite: a sign, and a numeral of its shortest decimal. -/
theorem Layout.text_finite (l : Layout) (limit : l.fullBelow ≤ digitLimit) {x : Float}
    {negative : Bool} {m : Nat} {e : Int} (h : parts x = .finite negative m e) :
    ∃ n : Numeral, n.WellFormed ∧ n.value = (shortest m e).value ∧
      (l.text x).toList = (if negative then ['-'] else []) ++ n.chars := by
  have zero := shortest_zero ((canonical_of_parts h).2.imp_left And.left)
  obtain ⟨n, wf, chars, value⟩ := l.exists_numeral limit (shortest m e) zero
  refine ⟨n, wf, value, ?_⟩
  rw [Layout.text, h]
  simp only
  rw [String.toList_ofList, chars]

theorem toLower_of_isDigit {c : Char} (h : c.isDigit = true) : c.toLower = c := by
  have bounds := isDigit_bounds h
  unfold Char.toLower
  rw [dif_neg]
  intro upper
  have least : 65 ≤ c.toNat := UInt32.le_iff_toNat_le.mp upper.1
  omega

/-- A text that starts with a digit is no number in words and has no sign. -/
theorem numeral?_of_digit {digit? : Char → Option Nat} {c : Char} (digit : c.isDigit = true)
    (cs : List Char) (negative : Bool) :
    numeral? digit? ((if negative then ['-'] else []) ++ c :: cs) =
      (decimal? digit? (c :: cs)).map fun x => if negative then -x else x := by
  have sign : takeSign ((if negative then ['-'] else []) ++ c :: cs) = (negative, c :: cs) := by
    cases negative with
    | true => rfl
    | false =>
      have minus : c ≠ '-' := by
        rintro rfl
        cases digit
      have plus : c ≠ '+' := by
        rintro rfl
        cases digit
      simp [takeSign, minus, plus]
  have word : special? (c :: cs) = none := by
    unfold special?
    rw [List.map_cons, toLower_of_isDigit digit]
    simp only
    rw [if_neg, if_neg]
    · intro nan
      obtain rfl : c = 'n' := (List.cons.inj nan).1
      cases digit
    · rintro (inf | infinity)
      · obtain rfl : c = 'i' := (List.cons.inj inf).1
        cases digit
      · obtain rfl : c = 'i' := (List.cons.inj infinity).1
        cases digit
  unfold numeral?
  rw [sign]
  simp only [word, Option.orElse_none]

/-- A number that is not infinite is read back, by every reader of numerals. -/
theorem numeral?_text {digit? : Char → Option Nat} (reads : ReadsDigits digit?) (l : Layout)
    (limit : l.fullBelow ≤ digitLimit) {x : Float} {negative : Bool} {m : Nat} {e : Int}
    (h : parts x = .finite negative m e) : numeral? digit? (l.text x).toList = some x := by
  obtain ⟨n, wf, value, chars⟩ := l.text_finite limit h
  obtain ⟨c, cs, hc⟩ := List.exists_cons_of_ne_nil wf.whole_ne
  have digit : c.isDigit = true := wf.whole_digit c (hc ▸ List.mem_cons_self)
  have start : n.chars = c :: (cs ++ (Numeral.fractionChars n.fraction ++
      Numeral.powerChars n.power)) := by
    rw [Numeral.chars, hc]
    rfl
  rw [chars, start, numeral?_of_digit digit, ← start, decimal?_chars reads wf, Option.map_some,
    ofDecimal_of_value h value]

/-- A text without padding in it keeps its ends. -/
theorem unpad_of_forall {cs : List Char} (h : ∀ c ∈ cs, isPadding c = false) : unpad cs = cs := by
  have stays : ∀ {cs : List Char}, (∀ c ∈ cs, isPadding c = false) →
      cs.dropWhile isPadding = cs := by
    intro cs h
    cases cs with
    | nil => rfl
    | cons c cs => rw [List.dropWhile_cons_of_neg (by simp [h c List.mem_cons_self])]
  rw [unpad, stays h, stays fun c mem => h c (List.mem_reverse.mp mem), List.reverse_reverse]

/-- What numbers are written with is no padding. -/
theorem unpad_of_numberChars {cs : List Char} (only : ∀ c ∈ cs, c ∈ numberChars) :
    unpad cs = cs := by
  have solid : ∀ c ∈ numberChars, isPadding c = false :=
    List.all_iff_forall_prop.mp (by decide)
  exact unpad_of_forall fun c mem => solid c (only c mem)

/-- A number in a deck is written with a few characters only. -/
theorem mem_numberChars_of_text {x : Float} {c : Char} (h : c ∈ (plain.text x).toList) :
    c ∈ numberChars := by
  cases hp : parts x with
  | nan =>
    have letters : ∀ c ∈ "nan".toList, c ∈ numberChars :=
      List.all_iff_forall_prop.mp (by decide)
    rw [Layout.text, hp] at h
    exact letters c h
  | infinite negative =>
    have letters : ∀ c ∈ "-inf".toList ++ "inf".toList, c ∈ numberChars :=
      List.all_iff_forall_prop.mp (by decide)
    rw [Layout.text, hp] at h
    cases negative with
    | true => exact letters c (List.mem_append_left _ h)
    | false => exact letters c (List.mem_append_right _ h)
  | finite negative m e =>
    obtain ⟨n, wf, _, chars⟩ := plain.text_finite (by decide) hp
    rw [chars] at h
    rcases List.mem_append.mp h with sign | digits
    · cases negative with
      | true =>
        rw [List.mem_singleton.mp sign]
        decide
      | false => cases sign
    · exact wf.mem_numberChars digits

/-- **A number that is written in a deck is read back as it was.** -/
@[simp]
theorem read?_text (x : Float) : read? (plain.text x).toList = some x := by
  have trimmed := unpad_of_numberChars fun c mem => mem_numberChars_of_text (x := x) mem
  rw [read?, trimmed]
  cases hp : parts x with
  | nan =>
    have words : numeral? decimalDigit? "nan".toList = some nan := by decide +kernel
    have same : parts nan = .nan := by decide +kernel
    rw [Layout.text, hp, ← eq_of_parts (same.trans hp.symm)]
    exact words
  | infinite negative =>
    rw [Layout.text, hp]
    cases negative with
    | true =>
      have words : numeral? decimalDigit? "-inf".toList = some (-infinity) := by decide +kernel
      have same : parts (-infinity) = .infinite true := by decide +kernel
      rw [← eq_of_parts (same.trans hp.symm)]
      exact words
    | false =>
      have words : numeral? decimalDigit? "inf".toList = some infinity := by decide +kernel
      have same : parts infinity = .infinite false := by decide +kernel
      rw [← eq_of_parts (same.trans hp.symm)]
      exact words
  | finite negative m e => exact numeral?_text readsDigits_decimal plain (by decide) hp

/-- A whole number in decimal digits is read as the nearest number. -/
theorem read?_toDigits (n : Nat) : read? (Nat.toDigits 10 n) = some (ofDecimal n 0) := by
  have digits : ∀ c ∈ Nat.toDigits 10 n, c.isDigit = true := fun c mem => isDigit_toDigits mem
  have trimmed := unpad_of_numberChars fun c mem => mem_numberChars_of_isDigit (digits c mem)
  have taken := takeDigits_append readsDigits_decimal.digit digits []
    (fun _ absent => nomatch absent)
  rw [List.append_nil] at taken
  have value : ofDigits ((Nat.toDigits 10 n).map charValue) = n := by
    rw [ofDigits_map, Nat.ofDigitChars_ten_toDigits]
  rw [read?, trimmed]
  obtain ⟨c, cs, split⟩ := List.exists_cons_of_ne_nil (Nat.toDigits_ne_nil (b := 10) (n := n))
  rw [split] at digits taken value ⊢
  have decimal : decimal? decimalDigit? (c :: cs) = some (ofDecimal n 0) := by
    unfold decimal?
    rw [taken]
    simp only [List.append_nil, value]
    rfl
  refine (numeral?_of_digit (digits c List.mem_cons_self) cs false).trans ?_
  rw [decimal]
  rfl

end SlideDeck.Number
