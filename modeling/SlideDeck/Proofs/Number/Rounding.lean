import Mathlib

/-!
# Rounding to a binary number

The arithmetic of binary64 numbers takes the first bits of an exact result and notes of the rest only
how it compares with half a unit (`Shows`). That is enough to round to the nearest number.

**The law** (`roundWithAccuracy_eq`): a result that lies nearest to a number (`Nearest`) is rounded to
that number, whatever its first bits are. There are two ways to come there. Mostly the first bits are
those of the number itself or of the one below it. But a result that lies closely below a power of
two has a finer unit than the power, is rounded up to twice the greatest mantissa, and loses its last
bit after that.
-/

namespace SlideDeck.Number

open Float.Model Float.Model.UnpackedFloat

/-- A power with its factors apart from its divisors. -/
theorem zpow_eq_div (b : ℚ) (e : Int) :
    b ^ e = b ^ e.toNat / b ^ (-e).toNat := by
  rcases Int.le_total 0 e with nonneg | nonpos
  · obtain ⟨n, rfl⟩ := Int.eq_ofNat_of_zero_le nonneg
    simp
  · obtain ⟨n, hn⟩ := Int.eq_ofNat_of_zero_le (Int.neg_nonneg_of_nonpos nonpos)
    obtain rfl : e = -n := by omega
    simp

/-! ## What is known of an exact result -/

/-- A mantissa and its two further bits show a number: its whole part, and how what is left of it
compares with zero and with one half. -/
def Shows : ExtendedMantissa → ℚ → Prop
  | ⟨m, false, false⟩, q => q = m
  | ⟨m, false, true⟩, q => m < q ∧ q < m + 1 / 2
  | ⟨m, true, false⟩, q => q = m + 1 / 2
  | ⟨m, true, true⟩, q => m + 1 / 2 < q ∧ q < m + 1

/-- A number rounds to a whole one: it is not further away than one half, and nearer if the whole one
is odd. -/
structure RoundsTo (q : ℚ) (n : Nat) : Prop where
  low : (n : ℚ) - 1 / 2 ≤ q
  high : q ≤ n + 1 / 2
  odd : n % 2 = 1 → (n : ℚ) - 1 / 2 < q ∧ q < n + 1 / 2

namespace Shows

variable {em : ExtendedMantissa} {q : ℚ}

theorem le (h : Shows em q) : (em.mantissa : ℚ) ≤ q := by
  obtain ⟨m, round, sticky⟩ := em
  cases round <;> cases sticky <;> simp only [Shows] at h ⊢ <;> linarith

theorem lt (h : Shows em q) : q < em.mantissa + 1 := by
  obtain ⟨m, round, sticky⟩ := em
  cases round <;> cases sticky <;> simp only [Shows] at h ⊢ <;> linarith

/-- The rounded mantissa is the whole number that the shown one rounds to. -/
theorem roundedMantissa (h : Shows em q) {n : Nat} (near : RoundsTo q n) :
    em.roundedMantissa = n := by
  have bounds : ∀ {a b : Nat}, (a : ℚ) < b + 1 → a ≤ b := by
    intro a b lt
    exact Nat.lt_succ_iff.mp (by exact_mod_cast lt)
  obtain ⟨m, round, sticky⟩ := em
  have low := near.low
  have high := near.high
  cases round <;> cases sticky <;> simp only [Shows] at h <;>
    simp only [ExtendedMantissa.roundedMantissa, ExtendedMantissa.accuracy,
      Accuracy.roundToNearestEven]
  case false.false =>
    have mn : m ≤ n := bounds (by linarith)
    have nm : n ≤ m := bounds (by linarith)
    exact Nat.le_antisymm mn nm
  case false.true =>
    have mn : m ≤ n := bounds (by linarith)
    have nm : n ≤ m := bounds (by linarith)
    exact Nat.le_antisymm mn nm
  case true.false =>
    have mn : m ≤ n := bounds (by linarith)
    have nm : n ≤ m + 1 := bounds (by push_cast; linarith)
    have even : n % 2 = 0 := by
      rcases Nat.mod_two_eq_zero_or_one n with even | odd
      · exact even
      · have strict := near.odd odd
        rcases Nat.lt_or_ge m n with lt | ge
        · obtain rfl : n = m + 1 := by omega
          push_cast at strict
          linarith
        · obtain rfl : n = m := by omega
          linarith
    omega
  case true.true =>
    have mn : m + 1 ≤ n := by
      have lt : (m : ℚ) < n := by linarith
      exact_mod_cast lt
    have nm : n ≤ m + 1 := bounds (by push_cast; linarith)
    omega

/-- Half of a shown number is shown by the mantissa that has lost its last bit. -/
theorem shiftRightOne (h : Shows em q) : Shows em.shiftRightOne (q / 2) := by
  obtain ⟨m, round, sticky⟩ := em
  have parts : (m : ℚ) = 2 * (m / 2 : Nat) + (m % 2 : Nat) := by
    exact_mod_cast (Nat.div_add_mod m 2).symm
  rcases Nat.mod_two_eq_zero_or_one m with even | odd
  · rw [even] at parts
    push_cast at parts
    cases round <;> cases sticky <;>
      simp only [Shows, ExtendedMantissa.shiftRightOne, even] at h ⊢ <;>
      simp only [bne_self_eq_false, Bool.or_false, Bool.or_true] <;>
      first | linarith | constructor <;> linarith
  · have bit : ((1 : Nat) != 0) = true := rfl
    rw [odd] at parts
    push_cast at parts
    cases round <;> cases sticky <;>
      simp only [Shows, ExtendedMantissa.shiftRightOne, odd, bit] at h ⊢ <;>
      simp only [Bool.or_false, Bool.or_true] <;>
      first | linarith | constructor <;> linarith

/-- A shift to the right by some bits divides what is shown by a power of two. -/
theorem shiftRight (h : Shows em q) (n : Nat) : Shows (em >>> n) (q / 2 ^ n) := by
  change Shows (n.repeat ExtendedMantissa.shiftRightOne em) (q / 2 ^ n)
  induction n with
  | zero => simpa only [Nat.repeat, pow_zero, div_one] using h
  | succ n ih =>
    have half := ih.shiftRightOne
    rwa [div_div, ← pow_succ] at half

end Shows

/-- A mantissa, an exponent and an accuracy are what is known of a number. -/
def Approximates (m : Nat) (e : Int) (accuracy : Accuracy) (v : ℚ) : Prop :=
  Shows (ExtendedMantissa.ofMantissaAndAccuracy m accuracy) (v / 2 ^ e)

namespace Approximates

variable {m : Nat} {e : Int} {accuracy : Accuracy} {v : ℚ}

@[simp]
theorem ofMantissa_mantissa (m : Nat) (accuracy : Accuracy) :
    (ExtendedMantissa.ofMantissaAndAccuracy m accuracy).mantissa = m := by
  unfold ExtendedMantissa.ofMantissaAndAccuracy
  split <;> rfl

/-- A number that is no more than its mantissa and its exponent. -/
theorem exact (m : Nat) (e : Int) : Approximates m e .exact (m * 2 ^ e) := by
  simp only [Approximates, ExtendedMantissa.ofMantissaAndAccuracy, Shows]
  field_simp

theorem le (h : Approximates m e accuracy v) : m * 2 ^ e ≤ v := by
  have le := Shows.le h
  rw [ofMantissa_mantissa] at le
  exact (le_div_iff₀ (by positivity)).mp le

theorem lt (h : Approximates m e accuracy v) : v < (m + 1) * 2 ^ e := by
  have lt := Shows.lt h
  rw [ofMantissa_mantissa] at lt
  exact (div_lt_iff₀ (by positivity)).mp lt

/-- A number stays below the power of two that its mantissa stays below. -/
theorem lt_two_pow (h : Approximates m e accuracy v) : v < 2 ^ (totalExponent m e) := by
  have mantissa : (m : ℚ) + 1 ≤ 2 ^ (m.log2 + 1) := by
    exact_mod_cast Nat.lt_log2_self
  have power : (2 : ℚ) ^ totalExponent m e = 2 ^ (m.log2 + 1) * 2 ^ e := by
    rw [totalExponent, zpow_add₀ two_ne_zero]
    norm_cast
  rw [power]
  exact lt_of_lt_of_le h.lt (mul_le_mul_of_nonneg_right mantissa (by positivity))

/-- A number reaches the power of two that its mantissa reaches. -/
theorem two_pow_le (h : Approximates m e accuracy v) (pos : m ≠ 0) :
    2 ^ (totalExponent m e - 1) ≤ v := by
  have mantissa : (2 : ℚ) ^ m.log2 ≤ m := by
    exact_mod_cast Nat.log2_self_le pos
  have power : (2 : ℚ) ^ (totalExponent m e - 1) = 2 ^ m.log2 * 2 ^ e := by
    rw [totalExponent, show (m.log2 : Int) + 1 + e - 1 = m.log2 + e by ring,
      zpow_add₀ two_ne_zero]
    norm_cast
  rw [power]
  exact le_trans (mul_le_mul_of_nonneg_right mantissa (by positivity)) h.le

/-- A shift to a greater exponent keeps what is known. -/
theorem shiftToExponent (h : Approximates m e accuracy v) {t : Int} (le : e ≤ t) :
    (shiftToExponent m e accuracy t).2 = t ∧
      Shows (UnpackedFloat.shiftToExponent m e accuracy t).1 (v / 2 ^ t) := by
  obtain ⟨n, rfl⟩ : ∃ n : Nat, t = e + n := ⟨(t - e).toNat, by omega⟩
  have amount : (e + n - e).toNat = n := by omega
  simp only [UnpackedFloat.shiftToExponent, amount, true_and]
  have shown := Shows.shiftRight h n
  rwa [div_div, ← zpow_natCast, ← zpow_add₀ two_ne_zero] at shown

end Approximates

/-! ## Numbers that are there -/

/-- A mantissa and an exponent of a positive binary64 number: as many bits as there are, unless the
exponent is the least one. -/
structure Canonical (m : Nat) (e : Int) : Prop where
  pos : 0 < m
  lt : m < 2 ^ 53
  least : -1074 ≤ e
  /-- The mantissa has no less than 53 bits, but with the least exponent. -/
  full : e = -1074 ∨ 2 ^ 52 ≤ m

theorem targetExponent_eq (t : Int) :
    Format.binary64.targetExponent t = max (t - 53) (-1074) :=
  rfl

namespace Canonical

variable {m : Nat} {e : Int}

/-- The exponent of a number is the one that its bits ask for. -/
theorem targetExponent (h : Canonical m e) :
    Format.binary64.targetExponent (totalExponent m e) = e := by
  have upper : m.log2 < 53 := (Nat.log2_lt h.pos.ne').mpr h.lt
  have least := h.least
  rw [targetExponent_eq, totalExponent]
  rcases h.full with rfl | full
  · omega
  · have lower : 52 ≤ m.log2 := (Nat.le_log2 h.pos.ne').mpr full
    omega

/-- A number that is there is not shifted. -/
theorem shiftToTargetExponent (h : Canonical m e) :
    shiftToTargetExponent Format.binary64 m e .exact = (⟨m, false, false⟩, e) := by
  simp only [UnpackedFloat.shiftToTargetExponent, UnpackedFloat.shiftToExponent,
    h.targetExponent, Int.sub_self, Int.toNat_zero, Int.natCast_zero, Int.add_zero]
  rfl

end Canonical

/-- The real numbers that lie nearest to a binary64 number, as far as rounding is concerned. Below a
power of two the next number is only half as far away. -/
structure Nearest (v : ℚ) (m : Nat) (e : Int) : Prop where
  rounds : RoundsTo (v / 2 ^ e) m
  narrow : m = 2 ^ 52 → -1074 < e → (m : ℚ) - 1 / 4 ≤ v / 2 ^ e

namespace Nearest

variable {m : Nat} {e : Int} {v : ℚ}

/-- A number is the nearest one to itself. -/
theorem self (m : Nat) (e : Int) : Nearest (m * 2 ^ e) m e := by
  have unit : (m : ℚ) * 2 ^ e / 2 ^ e = m := by
    field_simp
  refine ⟨⟨?_, ?_, fun _ => ⟨?_, ?_⟩⟩, fun _ _ => ?_⟩ <;> rw [unit] <;> linarith

theorem lt (h : Nearest v m e) (canonical : Canonical m e) : v < 2 ^ (53 + e) := by
  have room : (m : ℚ) + 1 ≤ 2 ^ 53 := by
    exact_mod_cast canonical.lt
  have unit : v / 2 ^ e < 2 ^ (53 : Int) := by
    have high := h.rounds.high
    norm_num at room ⊢
    linarith
  rw [zpow_add₀ two_ne_zero]
  exact (div_lt_iff₀ (by positivity)).mp unit

theorem two_pow_le (h : Nearest v m e) (full : 2 ^ 52 ≤ m) : 2 ^ (51 + e) ≤ v := by
  have large : (2 : ℚ) ^ 52 ≤ m := by
    exact_mod_cast full
  have unit : 2 ^ (51 : Int) ≤ v / 2 ^ e := by
    have low := h.rounds.low
    have half : (2 : ℚ) ^ (51 : Int) ≤ 2 ^ 52 - 1 / 2 := by norm_num
    linarith
  rw [zpow_add₀ two_ne_zero]
  exact (le_div_iff₀ (by positivity)).mp unit

/-- Below a power of two, and in the finer units from there on, a number rounds to twice the
mantissa. -/
theorem rounds_fine (h : Nearest v m e) (above : -1074 < e) (full : 2 ^ 52 ≤ m)
    (below : v < 2 ^ (52 + e)) : m = 2 ^ 52 ∧ RoundsTo (v / 2 ^ (e - 1)) (2 ^ 53) := by
  have unit : v / 2 ^ e < 2 ^ (52 : Int) := by
    rw [zpow_add₀ two_ne_zero] at below
    exact (div_lt_iff₀ (by positivity)).mpr below
  have same : m = 2 ^ 52 := by
    refine Nat.le_antisymm (Nat.lt_succ_iff.mp ?_) full
    have low := h.rounds.low
    have power : (2 : ℚ) ^ (52 : Int) = 2 ^ 52 := by norm_cast
    have lt : (m : ℚ) < 2 ^ 52 + 1 := by
      rw [power] at unit
      linarith
    exact_mod_cast lt
  have fine : v / 2 ^ (e - 1) = 2 * (v / 2 ^ e) := by
    rw [zpow_sub_one₀ two_ne_zero]
    field_simp
  have narrow := h.narrow same above
  rw [same] at narrow
  rw [fine]
  refine ⟨same, ⟨?_, ?_, fun odd => ?_⟩⟩
  · norm_num at narrow ⊢
    linarith
  · norm_num at unit ⊢
    linarith
  · norm_num at odd

end Nearest

/-! ## The law -/

/-- With enough bits, the exponent that the first bits of a result ask for is that of the number next
to it, or one less, below a power of two. -/
theorem targetExponent_of_nearest {m n : Nat} {e f : Int} {accuracy : Accuracy} {v : ℚ}
    (canonical : Canonical n f) (near : Nearest v n f) (approx : Approximates m e accuracy v)
    (fine : 2 ^ 52 ≤ m ∨ e ≤ -1074) :
    Format.binary64.targetExponent (totalExponent m e) = f ∨
      Format.binary64.targetExponent (totalExponent m e) = f - 1 ∧ -1074 < f ∧
        v < 2 ^ (52 + f) := by
  have least := canonical.least
  have upper : Format.binary64.targetExponent (totalExponent m e) ≤ f := by
    rw [targetExponent_eq]
    rcases Nat.eq_zero_or_pos m with rfl | pos
    · have small : e ≤ -1074 := by
        rcases fine with full | small
        · norm_num at full
        · exact small
      rw [totalExponent, Nat.log2_zero]
      omega
    · have lt := lt_of_le_of_lt (approx.two_pow_le pos.ne') (near.lt canonical)
      have exponents := (zpow_lt_zpow_iff_right₀ (one_lt_two (α := ℚ))).mp lt
      omega
  rcases canonical.full with lowest | full
  · left
    refine Int.le_antisymm upper ?_
    rw [targetExponent_eq, lowest]
    exact le_max_right _ _
  · have lt := lt_of_le_of_lt (near.two_pow_le full) approx.lt_two_pow
    have exponents := (zpow_lt_zpow_iff_right₀ (one_lt_two (α := ℚ))).mp lt
    rw [targetExponent_eq] at upper ⊢
    rcases Int.lt_or_le (totalExponent m e - 53) f with less | enough
    · rcases Int.lt_or_le (-1074) f with above | lowest
      · right
        refine ⟨by omega, above, lt_of_lt_of_le approx.lt_two_pow ?_⟩
        exact zpow_le_zpow_right₀ one_le_two (by omega)
      · left
        omega
    · left
      omega

/-- **A result is rounded to the number that it lies nearest to**, if as many bits of it are known as
a number has. -/
theorem roundWithAccuracy_eq (sign : Sign) {m n : Nat} {e f : Int} {accuracy : Accuracy} {v : ℚ}
    (canonical : Canonical n f) (near : Nearest v n f) (approx : Approximates m e accuracy v)
    (fine : 2 ^ 52 ≤ m ∨ e ≤ -1074) :
    roundWithAccuracy Format.binary64 sign m e accuracy = .finite sign n f canonical.pos := by
  have le : e ≤ Format.binary64.targetExponent (totalExponent m e) := by
    rw [targetExponent_eq, totalExponent]
    rcases fine with full | small
    · have pos : m ≠ 0 := by
        rintro rfl
        norm_num at full
      have bits : 52 ≤ m.log2 := (Nat.le_log2 pos).mpr full
      omega
    · omega
  obtain ⟨exponent, shown⟩ := approx.shiftToExponent le
  rcases targetExponent_of_nearest canonical near approx fine with same | ⟨less, above, below⟩
  · rw [same] at exponent shown
    have rounded := shown.roundedMantissa near.rounds
    unfold roundWithAccuracy
    simp only [UnpackedFloat.shiftToTargetExponent, same, exponent, rounded]
    have rest := canonical.shiftToTargetExponent
    simp only [UnpackedFloat.shiftToTargetExponent] at rest
    simp only [rest, dif_neg canonical.pos.ne']
  · obtain ⟨rfl, rounds⟩ := near.rounds_fine above (canonical.full.resolve_left above.ne') below
    rw [less] at exponent shown
    have rounded := shown.roundedMantissa rounds
    have log : (2 ^ 53 : Nat).log2 = 53 := Nat.log2_two_pow
    have target : Format.binary64.targetExponent (totalExponent (2 ^ 53) (f - 1)) = f := by
      rw [targetExponent_eq, totalExponent, log]
      omega
    have amount : (f - (f - 1)).toNat = 1 := by omega
    unfold roundWithAccuracy
    simp only [UnpackedFloat.shiftToTargetExponent, less, exponent, rounded, target]
    simp only [UnpackedFloat.shiftToExponent, amount]
    have last : (ExtendedMantissa.ofMantissaAndAccuracy (2 ^ 53) .exact >>> 1).mantissa = 2 ^ 52 :=
      rfl
    have back : f - 1 + ((1 : Nat) : Int) = f := by omega
    simp only [last, back]
    rfl

end SlideDeck.Number
