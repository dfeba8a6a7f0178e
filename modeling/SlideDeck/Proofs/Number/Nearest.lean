import SlideDeck.Number.Numeral
import SlideDeck.Proofs.Number.Packing

/-!
# The number nearest to a decimal

A decimal is turned into a number by one product or one quotient of numbers, which are rounded as the
exact results are (`roundWithAccuracy_eq`). Few digits and a small power of ten are numbers
themselves; otherwise the digits and the power are taken as whole numbers of any size.

**The law** (`ofDecimal_eq`): a decimal is read as the number that it lies nearest to.
-/

namespace SlideDeck.Number

open Float.Model Float.Model.UnpackedFloat

/-- The positive number with a mantissa and an exponent. -/
def positive {m : Nat} {e : Int} (canonical : Canonical m e) : Float :=
  Float.ofModel (.pack (.finite .positive m e canonical.pos))

/-- A number is positive by its parts. -/
theorem eq_positive {x : Float} {m : Nat} {e : Int} (h : parts x = .finite false m e)
    (canonical : Canonical m e) : x = positive canonical := by
  rw [← pack_unpack x, unpack_eq, h, Parts.unpacked, dif_neg canonical.pos.ne']
  rfl

/-- A number is the negative of a positive one by its parts. -/
theorem eq_neg_positive {x : Float} {m : Nat} {e : Int} (h : parts x = .finite true m e)
    (canonical : Canonical m e) (top : e ≤ 971) : x = -positive canonical := by
  rw [← pack_unpack x, unpack_eq, h, Parts.unpacked, dif_neg canonical.pos.ne']
  show _ = Float.ofModel (.pack (Float.Model.pack _).unpack.neg)
  rw [unpack_pack .positive canonical top]
  rfl

/-! ## Products -/

section Product

variable {m m' n : Nat} {e e' f : Int}

theorem mul_finite {pos : 0 < m} {pos' : 0 < m'} (canonical : Canonical n f)
    (near : Nearest (m * 2 ^ e * (m' * 2 ^ e')) n f) (full : 2 ^ 52 ≤ m * m') :
    UnpackedFloat.mul Format.binary64 (.finite .positive m e pos) (.finite .positive m' e' pos') =
      .finite .positive n f canonical.pos := by
  refine roundWithAccuracy_eq .positive canonical near ?_ (.inl full)
  have product : (m : ℚ) * 2 ^ e * (m' * 2 ^ e') = (m * m' : Nat) * 2 ^ (e + e') := by
    rw [zpow_add₀ two_ne_zero]
    push_cast
    ring
  rw [product]
  exact Approximates.exact _ _

theorem mul_positive {c : Canonical m e} {c' : Canonical m' e'} (top : e ≤ 971) (top' : e' ≤ 971)
    (canonical : Canonical n f) (near : Nearest (m * 2 ^ e * (m' * 2 ^ e')) n f)
    (full : 2 ^ 52 ≤ m * m') : positive c * positive c' = positive canonical := by
  show Float.ofModel (.pack (UnpackedFloat.mul _ (Float.Model.pack _).unpack
    (Float.Model.pack _).unpack)) = _
  rw [unpack_pack .positive c top, unpack_pack .positive c' top',
    mul_finite canonical near full]
  rfl

end Product

/-! ## Quotients -/

/-- The quotient and the remainder of a division show the exact quotient. -/
theorem shows_div (n : Nat) {d : Nat} (pos : 0 < d) :
    Shows (ExtendedMantissa.ofMantissaAndAccuracy (n / d) (accuracyOfFraction (n % d) d))
      (n / d : ℚ) := by
  have posq : (0 : ℚ) < d := by exact_mod_cast pos
  have less : ((n % d : Nat) : ℚ) < d := by exact_mod_cast Nat.mod_lt n pos
  have parts : (n / d : ℚ) = (n / d : Nat) + (n % d : Nat) / d := by
    have division : (n : ℚ) = d * (n / d : Nat) + (n % d : Nat) := by
      exact_mod_cast (Nat.div_add_mod n d).symm
    rw [division]
    field_simp
  rw [parts]
  unfold accuracyOfFraction
  by_cases none : n % d = 0
  · rw [if_pos none, none]
    simp [ExtendedMantissa.ofMantissaAndAccuracy, Shows]
  · have some : (0 : ℚ) < (n % d : Nat) / d := by
      refine div_pos ?_ posq
      exact_mod_cast Nat.pos_of_ne_zero none
    have below : ((n % d : Nat) : ℚ) / d < 1 := (div_lt_one posq).mpr less
    rw [if_neg none]
    rcases Nat.lt_trichotomy (2 * (n % d)) d with lt | eq | gt
    · have half : ((n % d : Nat) : ℚ) / d < 1 / 2 := by
        rw [div_lt_div_iff₀ posq two_pos]
        have cast : (2 : ℚ) * (n % d : Nat) < d := by exact_mod_cast lt
        linarith
      rw [Nat.compare_eq_lt.mpr lt]
      exact ⟨by linarith, by linarith⟩
    · have half : ((n % d : Nat) : ℚ) / d = 1 / 2 := by
        rw [div_eq_div_iff posq.ne' two_ne_zero]
        have cast : (2 : ℚ) * (n % d : Nat) = d := by exact_mod_cast eq
        linarith
      rw [Nat.compare_eq_eq.mpr eq]
      exact congrArg (_ + ·) half
    · have half : 1 / 2 < ((n % d : Nat) : ℚ) / d := by
        rw [div_lt_div_iff₀ two_pos posq]
        have cast : (d : ℚ) < 2 * (n % d : Nat) := by exact_mod_cast gt
        linarith
      rw [Nat.compare_eq_gt.mpr gt]
      exact ⟨by linarith, by linarith⟩

section Quotient

variable {m m' n : Nat} {e e' f : Int}

/-- A division gives enough bits of the exact quotient to round it. -/
theorem divCore_approximates (e e' : Int) (pos : 0 < m) (pos' : 0 < m') :
    let (q, r, accuracy) := divCore Format.binary64 m e m' e'
    Approximates q r accuracy (m * 2 ^ e / (m' * 2 ^ e')) ∧ (2 ^ 52 ≤ q ∨ r ≤ -1074) := by
  simp only [divCore]
  generalize ht : min (e - e')
    (Format.binary64.targetExponent (totalExponent m e - totalExponent m' e')) = t
  obtain ⟨s, hs⟩ : ∃ s : Nat, e - e' = t + s := ⟨(e - e' - t).toNat, by omega⟩
  have amount : (e - e' - t).toNat = s := by omega
  rw [amount, Nat.shiftLeft_eq]
  constructor
  · have quotient : (m * 2 ^ e / (m' * 2 ^ e') : ℚ) / 2 ^ t = ((m * 2 ^ s : Nat) : ℚ) / m' := by
      have power : (2 : ℚ) ^ e = 2 ^ e' * (2 ^ t * 2 ^ s) := by
        rw [← zpow_natCast, ← zpow_add₀ two_ne_zero, ← zpow_add₀ two_ne_zero]
        congr 1
        omega
      have posq : (m' : ℚ) ≠ 0 := by exact_mod_cast pos'.ne'
      rw [power]
      push_cast
      field_simp
    rw [Approximates, quotient]
    exact shows_div _ pos'
  · rcases Int.lt_or_le (-1074) t with above | lowest
    · left
      rw [targetExponent_eq] at ht
      simp only [totalExponent] at ht
      have bits : 53 + m'.log2 ≤ m.log2 + s := by omega
      rw [Nat.le_div_iff_mul_le pos']
      have lower : 2 ^ m.log2 ≤ m := Nat.log2_self_le pos.ne'
      have upper : m' ≤ 2 ^ (m'.log2 + 1) := Nat.le_of_lt Nat.lt_log2_self
      calc 2 ^ 52 * m' ≤ 2 ^ 52 * 2 ^ (m'.log2 + 1) := Nat.mul_le_mul_left _ upper
        _ = 2 ^ (53 + m'.log2) := by rw [← Nat.pow_add]; congr 1; omega
        _ ≤ 2 ^ (m.log2 + s) := Nat.pow_le_pow_right two_pos bits
        _ = 2 ^ m.log2 * 2 ^ s := Nat.pow_add 2 _ _
        _ ≤ m * 2 ^ s := Nat.mul_le_mul_right _ lower
    · exact .inr lowest

theorem div_finite {pos : 0 < m} {pos' : 0 < m'} (canonical : Canonical n f)
    (near : Nearest (m * 2 ^ e / (m' * 2 ^ e')) n f) :
    UnpackedFloat.div Format.binary64 (.finite .positive m e pos) (.finite .positive m' e' pos') =
      .finite .positive n f canonical.pos := by
  obtain ⟨approx, fine⟩ := divCore_approximates e e' pos pos'
  exact roundWithAccuracy_eq .positive canonical near approx fine

theorem div_positive {c : Canonical m e} {c' : Canonical m' e'} (top : e ≤ 971) (top' : e' ≤ 971)
    (canonical : Canonical n f) (near : Nearest (m * 2 ^ e / (m' * 2 ^ e')) n f) :
    positive c / positive c' = positive canonical := by
  show Float.ofModel (.pack (UnpackedFloat.div _ (Float.Model.pack _).unpack
    (Float.Model.pack _).unpack)) = _
  rw [unpack_pack .positive c top, unpack_pack .positive c' top', div_finite canonical near]
  rfl

end Quotient

/-! ## Whole numbers and powers of ten -/

/-- A whole number of no more than 53 bits is a number. -/
theorem toFloat_eq {n : Nat} (pos : 0 < n) (lt : n < 2 ^ 53) :
    ∃ (m : Nat) (e : Int) (c : Canonical m e), e ≤ 971 ∧ 2 ^ 52 ≤ m ∧ (m * 2 ^ e : ℚ) = n ∧
      n.toUInt64.toFloat = positive c := by
  have upper : n.log2 < 53 := (Nat.log2_lt pos.ne').mpr lt
  have below : n < 2 ^ (n.log2 + 1) := Nat.lt_log2_self
  have reached : 2 ^ n.log2 ≤ n := Nat.log2_self_le pos.ne'
  obtain ⟨s, hs⟩ : ∃ s, s + n.log2 = 52 := ⟨52 - n.log2, by omega⟩
  have shifted : n * 2 ^ s < 2 ^ 53 := by
    calc n * 2 ^ s < 2 ^ (n.log2 + 1) * 2 ^ s := Nat.mul_lt_mul_of_pos_right below (by positivity)
      _ = 2 ^ 53 := by rw [← Nat.pow_add]; congr 1; omega
  have full : 2 ^ 52 ≤ n * 2 ^ s := by
    calc 2 ^ 52 = 2 ^ n.log2 * 2 ^ s := by rw [← Nat.pow_add]; congr 1; omega
      _ ≤ n * 2 ^ s := Nat.mul_le_mul_right _ reached
  have canonical : Canonical (n * 2 ^ s) (-s) :=
    ⟨by positivity, shifted, by omega, .inr full⟩
  have value : ((n * 2 ^ s : Nat) * 2 ^ (-s : Int) : ℚ) = n := by
    rw [zpow_neg, zpow_natCast]
    push_cast
    field_simp
  refine ⟨n * 2 ^ s, -s, canonical, by omega, full, value, ?_⟩
  have small : n.toUInt64.toNat = n := by
    rw [Nat.toUInt64, UInt64.toNat_ofNat', Nat.mod_eq_of_lt (by omega)]
  have order : compare (n : Int) 0 = .gt := Int.compare_eq_gt.mpr (by omega)
  show Float.ofModel (.pack (UnpackedFloat.normalize Format.binary64 (n.toUInt64.toNat : Int) 0
    .positive)) = _
  rw [small, UnpackedFloat.normalize, order]
  have target : Format.binary64.targetExponent (totalExponent n 0) = -s := by
    rw [targetExponent_eq, totalExponent]
    omega
  have amount : (- -(s : Int)).toNat = s := by omega
  simp only [UnpackedFloat.round, Int.toNat_natCast, target, decreaseExponent, Int.zero_sub,
    amount, Nat.shiftLeft_eq]
  rw [roundWithAccuracy_eq .positive canonical (Nearest.self _ _) (Approximates.exact _ _)
    (.inl full)]
  rfl

/-- The powers of ten up to the 22nd are numbers. -/
theorem powerOfTen_eq {k : Nat} (le : k ≤ 22)
    (bound : k < Float.exactlyRepresentablePowersOfTen.size) :
    ∃ (m : Nat) (e : Int) (c : Canonical m e), e ≤ 971 ∧ 2 ^ 52 ≤ m ∧ (m * 2 ^ e : ℚ) = 10 ^ k ∧
      Float.exactlyRepresentablePowersOfTen[k] = positive c := by
  have entries : ∀ k : Fin 23,
      let m := 10 ^ k.val * 2 ^ 52 / 2 ^ (10 ^ k.val).log2
      let e := ((10 ^ k.val).log2 : Int) - 52
      parts (Float.exactlyRepresentablePowersOfTen[k.val]) = .finite false m e ∧
        2 ^ 52 ≤ m ∧ m < 2 ^ 53 ∧ -1074 ≤ e ∧ e ≤ 971 ∧
        m * 2 ^ e.toNat = 10 ^ k.val * 2 ^ (-e).toNat := by
    decide +kernel
  obtain ⟨entry, full, lt, least, top, value⟩ := entries ⟨k, by omega⟩
  have canonical := Canonical.mk (Nat.lt_of_lt_of_le (Nat.two_pow_pos 52) full) lt least (.inr full)
  refine ⟨_, _, canonical, top, full, ?_, eq_positive entry canonical⟩
  rw [zpow_eq_div, mul_div_assoc', div_eq_iff (by positivity)]
  exact_mod_cast value

/-! ## Decimals -/

theorem lt_pow_digitCount (n : Nat) : n < 10 ^ digitCount n :=
  (Nat.length_toDigits_le_iff (by decide) Nat.length_toDigits_pos).mp (Nat.le_refl _)

theorem pow_digitCount_le {n : Nat} (pos : n ≠ 0) : 10 ^ (digitCount n - 1) ≤ n := by
  rcases Nat.eq_zero_or_pos (digitCount n - 1) with zero | more
  · rw [zero, Nat.pow_zero]
    exact Nat.pos_of_ne_zero pos
  · refine Nat.le_of_not_lt fun lt => ?_
    have le := (Nat.length_toDigits_le_iff (b := 10) (by decide) more).mpr lt
    unfold digitCount at more le
    omega

theorem digitCount_pos (n : Nat) : 0 < digitCount n :=
  Nat.length_toDigits_pos

/-- There are no more decimal digits than binary ones. -/
theorem digitCount_le_log2 (n : Nat) : digitCount n ≤ n.log2 + 1 := by
  refine (Nat.length_toDigits_le_iff (by decide) (Nat.succ_pos _)).mpr ?_
  exact Nat.lt_of_lt_of_le Nat.lt_log2_self (Nat.pow_le_pow_left (by decide) _)

section Decimal

variable {digits n : Nat} {k f : Int}

/-- The quick way: the digits and the power of ten are numbers, and one operation is rounded. -/
theorem quick_eq (canonical : Canonical n f) (near : Nearest (digits * 10 ^ k) n f)
    (pos : 0 < digits) (few : digits < 2 ^ 53) (le : k.natAbs ≤ 22)
    (bound : k.natAbs < Float.exactlyRepresentablePowersOfTen.size) :
    (if k < 0 then digits.toUInt64.toFloat / Float.exactlyRepresentablePowersOfTen[k.natAbs]
      else digits.toUInt64.toFloat * Float.exactlyRepresentablePowersOfTen[k.natAbs]) =
      positive canonical := by
  obtain ⟨m, e, c, hc, full, value, whole⟩ := toFloat_eq pos few
  obtain ⟨m', e', c', hc', full', value', power⟩ := powerOfTen_eq le bound
  rw [whole, power]
  split
  · rename_i negative
    refine div_positive hc hc' canonical ?_
    have exact : (digits * 10 ^ k : ℚ) = m * 2 ^ e / (m' * 2 ^ e') := by
      obtain ⟨j, rfl⟩ : ∃ j : Nat, k = -j := ⟨k.natAbs, by omega⟩
      rw [value, value', Int.natAbs_neg, Int.natAbs_natCast, zpow_neg, zpow_natCast]
      rfl
    rwa [← exact]
  · rename_i nonneg
    refine mul_positive hc hc' canonical ?_ ?_
    · have exact : (digits * 10 ^ k : ℚ) = m * 2 ^ e * (m' * 2 ^ e') := by
        obtain ⟨j, rfl⟩ := Int.eq_ofNat_of_zero_le (Int.not_lt.mp nonneg)
        rw [value, value', Int.natAbs_natCast, zpow_natCast]
      rwa [← exact]
    · exact Nat.le_trans full (Nat.le_mul_of_pos_right m c'.pos)

/-- The long way: the digits and the power of ten are whole numbers of any size. -/
theorem long_eq (canonical : Canonical n f) (near : Nearest (digits * 10 ^ k) n f)
    (pos : 0 < digits) (low : -330 ≤ k + digitCount digits) (high : k + digitCount digits ≤ 310) :
    Float.ofModel (Float.Model.ofScientific digits k) = positive canonical := by
  have more := digitCount_pos digits
  have fewer := digitCount_le_log2 digits
  simp only [Float.Model.ofScientific, UnpackedFloat.ofScientific]
  rw [dif_neg pos.ne', if_neg (by norm_num; omega), if_neg (by norm_num; omega)]
  split
  · rename_i nonneg
    obtain ⟨j, rfl⟩ := Int.eq_ofNat_of_zero_le nonneg
    rw [mul_finite canonical]
    · rfl
    · have exact : (digits * 10 ^ (j : Int) : ℚ) =
          (digits <<< Format.binary64.mantissaBits : Nat) *
            2 ^ (-(Format.binary64.mantissaBits : Int)) *
            ((10 ^ (j : Int).toNat : Nat) * 2 ^ (0 : Int)) := by
        rw [Nat.shiftLeft_eq, Int.toNat_natCast, zpow_neg, zpow_natCast, zpow_natCast]
        push_cast
        field_simp
      rwa [← exact]
    · have bits : 2 ^ 52 ≤ digits <<< Format.binary64.mantissaBits := by
        rw [Nat.shiftLeft_eq]
        show 2 ^ 52 ≤ digits * 2 ^ 53
        omega
      exact Nat.le_trans bits (Nat.le_mul_of_pos_right _ (Nat.pow_pos (by decide)))
  · rename_i negative
    obtain ⟨j, rfl⟩ : ∃ j : Nat, k = -j := ⟨k.natAbs, by omega⟩
    rw [div_finite canonical]
    · rfl
    · have exact : (digits * 10 ^ (-j : Int) : ℚ) =
          digits * 2 ^ (0 : Int) / ((10 ^ (- -(j : Int)).toNat : Nat) * 2 ^ (0 : Int)) := by
        rw [Int.neg_neg, Int.toNat_natCast, zpow_neg, zpow_natCast]
        push_cast
        field_simp
      rwa [← exact]

/-- A decimal of a size that numbers have is read as the number next to it. -/
theorem ofScientific_eq (canonical : Canonical n f)
    (near : Nearest (digits * 10 ^ k) n f) (pos : 0 < digits)
    (low : -330 ≤ k + digitCount digits) (high : k + digitCount digits ≤ 310) :
    Float.ofScientific digits (k < 0) k.natAbs = positive canonical := by
  unfold Float.ofScientific
  split
  · rename_i small
    simp only [decide_eq_true_eq]
    exact quick_eq canonical near pos small.1 small.2 _
  · have exponent : (if decide (k < 0) = true then Int.negOfNat k.natAbs
        else Int.ofNat k.natAbs) = k := by
      split
      · rename_i negative
        have neg : k < 0 := of_decide_eq_true negative
        rw [Int.negOfNat_eq, Int.ofNat_eq_natCast]
        omega
      · rename_i nonneg
        have nonneg : ¬ k < 0 := fun neg => nonneg (decide_eq_true neg)
        show (k.natAbs : Int) = k
        omega
    rw [exponent]
    exact long_eq canonical near pos low high

/-- A decimal lies between the powers of ten that its digits reach and do not reach. -/
theorem pow_le_decimal (pos : 0 < digits) :
    (10 : ℚ) ^ (k + digitCount digits - 1) ≤ digits * 10 ^ k := by
  have reached : (10 : ℚ) ^ (digitCount digits - 1) ≤ digits := by
    exact_mod_cast pow_digitCount_le pos.ne'
  have more := digitCount_pos digits
  have split : k + digitCount digits - 1 = ((digitCount digits - 1 : Nat) : Int) + k := by omega
  rw [split, zpow_add₀ (by norm_num), zpow_natCast]
  exact mul_le_mul_of_nonneg_right reached (by positivity)

theorem decimal_lt_pow : (digits * 10 ^ k : ℚ) < 10 ^ (k + digitCount digits) := by
  have below : (digits : ℚ) < 10 ^ digitCount digits := by
    exact_mod_cast lt_pow_digitCount digits
  rw [add_comm k, zpow_add₀ (by norm_num), zpow_natCast]
  exact mul_lt_mul_of_pos_right below (by positivity)

/-- A decimal next to a number is not beyond what numbers reach, on either side. -/
theorem power_of_nearest (canonical : Canonical n f) (top : f ≤ 971)
    (near : Nearest (digits * 10 ^ k) n f) (pos : 0 < digits) :
    -330 ≤ k + digitCount digits ∧ k + digitCount digits ≤ 310 := by
  have least := canonical.least
  constructor
  · have half : (1 / 2 : ℚ) ≤ digits * 10 ^ k / 2 ^ f := by
      have one : (1 : ℚ) ≤ n := by exact_mod_cast canonical.pos
      have low := near.rounds.low
      linarith
    have reached : (2 : ℚ) ^ (-1075 : Int) ≤ digits * 10 ^ k := by
      calc (2 : ℚ) ^ (-1075 : Int) ≤ 2 ^ (f - 1) := zpow_le_zpow_right₀ one_le_two (by omega)
        _ = 1 / 2 * 2 ^ f := by rw [zpow_sub_one₀ two_ne_zero]; ring
        _ ≤ digits * 10 ^ k := (le_div_iff₀ (by positivity)).mp half
    have small : (10 : ℚ) ^ (-324 : Int) ≤ 2 ^ (-1075 : Int) := by
      have powers : (2 : Nat) ^ 1075 ≤ 10 ^ 324 := by decide +kernel
      rw [zpow_neg, zpow_neg]
      exact inv_anti₀ (by positivity) (by exact_mod_cast powers)
    have lt := lt_of_le_of_lt (small.trans reached) decimal_lt_pow
    have powers := (zpow_lt_zpow_iff_right₀ (by norm_num : (1 : ℚ) < 10)).mp lt
    omega
  · have below : (digits * 10 ^ k : ℚ) < 10 ^ (309 : Int) := by
      calc (digits * 10 ^ k : ℚ) < 2 ^ (53 + f) := near.lt canonical
        _ ≤ 2 ^ (1024 : Int) := zpow_le_zpow_right₀ one_le_two (by omega)
        _ ≤ 10 ^ (309 : Int) := by
          have powers : (2 : Nat) ^ 1024 ≤ 10 ^ 309 := by decide +kernel
          exact_mod_cast powers
    have lt := lt_of_le_of_lt (pow_le_decimal pos) below
    have powers := (zpow_lt_zpow_iff_right₀ (by norm_num : (1 : ℚ) < 10)).mp lt
    omega

/-- **A decimal is read as the number that it lies nearest to.** -/
theorem ofDecimal_eq (canonical : Canonical n f) (top : f ≤ 971)
    (near : Nearest (digits * 10 ^ k) n f) : ofDecimal digits k = positive canonical := by
  have pos : 0 < digits := by
    refine Nat.pos_of_ne_zero ?_
    rintro rfl
    have one : (1 : ℚ) ≤ n := by exact_mod_cast canonical.pos
    have low := near.rounds.low
    rw [Nat.cast_zero, zero_mul, zero_div] at low
    linarith
  obtain ⟨low, high⟩ := power_of_nearest canonical top near pos
  unfold ofDecimal
  simp only
  rw [if_neg (by omega), if_neg (by omega)]
  exact ofScientific_eq canonical near pos low high

end Decimal

end SlideDeck.Number
