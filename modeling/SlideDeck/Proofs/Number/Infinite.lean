import SlideDeck.Proofs.Number.Defined
import SlideDeck.Reader.Argument

/-!
# Arithmetic that stays finite

A result is infinite if its exponent is too great when it is packed. Rounding leads no further than one
bit up (`exponent_roundWithAccuracy_le`), so an operation that makes numbers smaller has infinite results
for infinite numbers only. What is no number stays so, and is not infinite.

**The law** (`isInfinite_of_cellOfSize`): the cell of a letter has an infinite side only if the size of
the letter is infinite.
-/

namespace SlideDeck.Number

open Float.Model Float.Model.UnpackedFloat

/-- An infinite number. -/
def IsInfinite (x : Float) : Prop :=
  ∃ negative, parts x = .infinite negative

theorem isInfinite_iff {x : Float} :
    IsInfinite x ↔ ∃ sign, x.toModel.unpack = .infinity sign := by
  rw [unpack_eq, IsInfinite]
  cases parts x with
  | nan => exact iff_of_false nofun nofun
  | infinite negative => exact iff_of_true ⟨negative, rfl⟩ ⟨_, rfl⟩
  | finite negative m e =>
    refine iff_of_false nofun fun ⟨sign, infinite⟩ => ?_
    rw [Parts.unpacked] at infinite
    split at infinite <;> cases infinite

/-- The exponents of a number that is neither zero nor infinite. -/
theorem bounds_of_unpack {x : Float} {sign : Sign} {m : Nat} {e : Int} {pos : 0 < m}
    (h : x.toModel.unpack = .finite sign m e pos) : e ≤ 971 ∧ totalExponent m e ≤ 1024 := by
  rw [unpack_eq] at h
  cases hp : parts x with
  | nan | infinite negative =>
    rw [hp] at h
    cases h
  | finite negative m' e' =>
    rw [hp, Parts.unpacked] at h
    obtain ⟨top, zero | canonical⟩ := canonical_of_parts hp
    · rw [dif_pos zero.1] at h
      cases h
    · rw [dif_neg canonical.pos.ne'] at h
      cases h
      have bits : m.log2 < 53 := (Nat.log2_lt pos.ne').mpr canonical.lt
      rw [totalExponent]
      omega

/-! ## Rounding -/

@[simp]
theorem mantissa_shiftRight (em : ExtendedMantissa) (n : Nat) :
    (em >>> n).mantissa = em.mantissa / 2 ^ n := by
  show (n.repeat ExtendedMantissa.shiftRightOne em).mantissa = em.mantissa / 2 ^ n
  induction n with
  | zero => exact (Nat.div_one _).symm
  | succ n ih =>
    show (n.repeat ExtendedMantissa.shiftRightOne em).mantissa / 2 = em.mantissa / 2 ^ (n + 1)
    rw [ih, Nat.div_div_eq_div_mul, Nat.pow_succ]

theorem roundedMantissa_le (em : ExtendedMantissa) : em.roundedMantissa ≤ em.mantissa + 1 := by
  obtain ⟨m, round, sticky⟩ := em
  cases round <;> cases sticky <;>
    simp [ExtendedMantissa.roundedMantissa, ExtendedMantissa.accuracy, Accuracy.roundToNearestEven]
  omega

theorem log2_le_of_le {n k : Nat} (h : n ≤ 2 ^ k) : n.log2 ≤ k := by
  rcases Nat.eq_zero_or_pos n with rfl | pos
  · rw [Nat.log2_zero]
    exact Nat.zero_le k
  · refine Nat.lt_succ_iff.mp ((Nat.log2_lt pos.ne').mpr (lt_of_le_of_lt h ?_))
    exact Nat.pow_lt_pow_right one_lt_two (Nat.lt_succ_self k)

/-- A shift leaves as many bits as there is room for, and rounding gives at most one more. -/
theorem totalExponent_rounded_le (m : Nat) (e : Int) (accuracy : Accuracy) (t : Int) :
    (shiftToExponent m e accuracy t).2 = max e t ∧
      totalExponent (shiftToExponent m e accuracy t).1.roundedMantissa (max e t) ≤
        max (totalExponent m e) (max e t) + 1 := by
  have exponent : (shiftToExponent m e accuracy t).2 = max e t := by
    simp only [shiftToExponent]
    omega
  have kept : (shiftToExponent m e accuracy t).1.mantissa < 2 ^ (m.log2 + 1 - (t - e).toNat) := by
    simp only [shiftToExponent, mantissa_shiftRight, Approximates.ofMantissa_mantissa]
    refine Nat.div_lt_of_lt_mul (lt_of_lt_of_le Nat.lt_log2_self ?_)
    rw [← Nat.pow_add]
    exact Nat.pow_le_pow_right two_pos (by omega)
  have rounded := roundedMantissa_le (shiftToExponent m e accuracy t).1
  have bits := log2_le_of_le (Nat.le_trans rounded kept)
  refine ⟨exponent, ?_⟩
  simp only [totalExponent]
  omega

/-- **Rounding leads no further than one bit up.** -/
theorem exponent_roundWithAccuracy_le {sign sign' : Sign} {m n : Nat} {e f : Int}
    {accuracy : Accuracy} {pos : 0 < n}
    (h : roundWithAccuracy Format.binary64 sign m e accuracy = .finite sign' n f pos) :
    f ≤ max e (max (totalExponent m e - 52) (-1074)) := by
  have first := totalExponent_rounded_le m e accuracy
    (Format.binary64.targetExponent (totalExponent m e))
  unfold roundWithAccuracy at h
  simp only at h
  split at h
  · cases h
  · injection h with _ _ exponent
    simp only [shiftToTargetExponent, (totalExponent_rounded_le _ _ _ _).1, targetExponent_eq]
      at exponent first
    omega

/-! ## Packing -/

/-- What has an exponent of a number when it is packed is not infinite. -/
theorem unpack_pack_ne_infinity {u : UnpackedFloat} (notInfinite : ∀ sign, u ≠ .infinity sign)
    (top : ∀ sign m e pos, u = .finite sign m e pos → e ≤ 971) (sign' : Sign) :
    (Float.Model.pack u).unpack ≠ .infinity sign' := by
  cases u with
  | notANumber => exact nofun
  | infinity sign => exact absurd rfl (notInfinite sign)
  | zero sign => cases sign <;> exact nofun
  | finite sign m e pos =>
    have top := top sign m e pos rfl
    have bias : (Format.binary64.exponentBias : Int) = 1023 := rfl
    have bits : (Format.binary64.mantissaBitsWithoutImplicit : Int) = 52 := rfl
    have words : 2 ^ Format.binary64.exponentBits = 2048 := rfl
    simp only [Float.Model.unpack, Float.Model.pack, UnpackedFloat.pack]
    rw [if_neg (by omega)]
    split
    · refine (unpack_packComponents_ne sign (fun ones => ?_) _).2 sign'
      have word := congrArg BitVec.toNat ones
      have full : (-1#_ : BitVec Format.binary64.exponentBits).toNat = 2047 := rfl
      rw [BitVec.toNat_ofNat, full] at word
      omega
    · exact (unpack_packComponents_ne sign (by decide) _).2 sign'

/-- **What is rounded is not infinite**, if it is not too great. -/
theorem unpack_pack_round_ne_infinity (sign sign' : Sign) {m : Nat} {e : Int} (accuracy : Accuracy)
    (top : e ≤ 971) (total : totalExponent m e ≤ 1023) :
    (Float.Model.pack (roundWithAccuracy Format.binary64 sign m e accuracy)).unpack ≠
      .infinity sign' := by
  refine unpack_pack_ne_infinity (fun other infinite => ?_) (fun _ _ f _ rounded => ?_) sign'
  · unfold roundWithAccuracy at infinite
    simp only at infinite
    split at infinite <;> cases infinite
  · have le := exponent_roundWithAccuracy_le rounded
    omega

/-! ## Operations -/

section Operations

variable {x y : Float} {sign : Sign} {m : Nat} {e : Int} {pos : 0 < m}

/-- A quotient has about as many bits as the numerator has more than the denominator. -/
theorem log2_div_le (n shift : Nat) (pos : 0 < m) :
    ((n <<< shift) / m).log2 ≤ n.log2 + 1 + shift - m.log2 := by
  refine log2_le_of_le (Nat.div_le_of_le_mul ?_)
  have high : n <<< shift < 2 ^ (n.log2 + 1 + shift) := by
    rw [Nat.shiftLeft_eq, Nat.pow_add]
    exact Nat.mul_lt_mul_of_pos_right Nat.lt_log2_self (Nat.two_pow_pos shift)
  calc n <<< shift ≤ 2 ^ (n.log2 + 1 + shift) := high.le
    _ ≤ 2 ^ (m.log2 + (n.log2 + 1 + shift - m.log2)) :=
      Nat.pow_le_pow_right two_pos (by omega)
    _ = 2 ^ m.log2 * 2 ^ (n.log2 + 1 + shift - m.log2) := Nat.pow_add ..
    _ ≤ m * 2 ^ (n.log2 + 1 + shift - m.log2) :=
      Nat.mul_le_mul_right _ (Nat.log2_self_le pos.ne')

/-- An operation whose infinite results come from infinite numbers only: it keeps zeros, and what is
no number, and leads no other number too far. -/
theorem isInfinite_of_operation (op : UnpackedFloat → UnpackedFloat) {x z : Float}
    (result : z.toModel.unpack = (Float.Model.pack (op x.toModel.unpack)).unpack)
    (none : op .notANumber = .notANumber) (zero : ∀ sign, ∃ sign', op (.zero sign) = .zero sign')
    (finite : ∀ sign m e pos, x.toModel.unpack = .finite sign m e pos →
      ∀ sign', (Float.Model.pack (op (.finite sign m e pos))).unpack ≠ .infinity sign')
    (h : IsInfinite z) : IsInfinite x := by
  rw [isInfinite_iff, result] at h
  rw [isInfinite_iff]
  obtain ⟨sign', h⟩ := h
  cases ux : x.toModel.unpack with
  | infinity sign => exact ⟨sign, rfl⟩
  | notANumber =>
    rw [ux, none] at h
    refine absurd h (unpack_pack_ne_infinity ?_ ?_ sign') <;> nofun
  | zero sign =>
    obtain ⟨other, kept⟩ := zero sign
    rw [ux, kept] at h
    refine absurd h (unpack_pack_ne_infinity ?_ ?_ sign') <;> nofun
  | finite sign m e pos =>
    rw [ux] at h
    exact absurd h (finite sign m e pos ux sign')

/-- **A number divided by one of at least four is infinite only if it was before.** -/
theorem IsInfinite.of_div (large : 3 ≤ totalExponent m e)
    (uy : y.toModel.unpack = .finite sign m e pos) (h : IsInfinite (x / y)) : IsInfinite x := by
  refine isInfinite_of_operation (·.div Format.binary64 y.toModel.unpack) rfl rfl ?_ ?_ h
  · rw [uy]
    exact fun other => ⟨other / sign, rfl⟩
  · intro other n f pos' ux sign'
    obtain ⟨top, total⟩ := bounds_of_unpack ux
    rw [uy]
    refine unpack_pack_round_ne_infinity _ _ _ ?_ ?_
    · simp only [targetExponent_eq]
      omega
    · have bits := log2_div_le n (f - e - min (f - e)
        (Format.binary64.targetExponent (totalExponent n f - totalExponent m e))).toNat pos
      simp only [totalExponent, targetExponent_eq] at bits total large ⊢
      omega

/-- **A number times one of less than a half is infinite only if it was before.** -/
theorem IsInfinite.of_mul (small : totalExponent m e ≤ -1) (low : e ≤ 0)
    (uy : y.toModel.unpack = .finite sign m e pos) (h : IsInfinite (x * y)) : IsInfinite x := by
  refine isInfinite_of_operation (·.mul Format.binary64 y.toModel.unpack) rfl rfl ?_ ?_ h
  · rw [uy]
    exact fun other => ⟨other * sign, rfl⟩
  · intro other n f pos' ux sign'
    obtain ⟨top, total⟩ := bounds_of_unpack ux
    rw [uy]
    have bits : (n * m).log2 ≤ n.log2 + 1 + m.log2 := by
      refine Nat.lt_succ_iff.mp ((Nat.log2_lt (Nat.mul_pos pos' pos).ne').mpr ?_)
      calc n * m < 2 ^ (n.log2 + 1) * 2 ^ (m.log2 + 1) :=
            Nat.mul_lt_mul'' Nat.lt_log2_self Nat.lt_log2_self
        _ = 2 ^ (n.log2 + 1 + (m.log2 + 1)) := (Nat.pow_add ..).symm
    refine unpack_pack_round_ne_infinity _ _ _ (by omega) ?_
    simp only [totalExponent] at total small ⊢
    omega

end Operations

/-! ## Cells of letters -/

theorem unpack_of_parts {x : Float} {negative : Bool} {m : Nat} {e : Int} (pos : 0 < m)
    (h : parts x = .finite negative m e) : x.toModel.unpack = .finite (signOf negative) m e pos := by
  rw [unpack_eq, h, Parts.unpacked, dif_neg pos.ne']

/-- **The cell of a letter has an infinite side only for an infinite size.** -/
theorem isInfinite_of_cellOfSize {size : Float}
    (h : IsInfinite (Argument.cellOfSize size).x ∨ IsInfinite (Argument.cellOfSize size).y) :
    IsInfinite size := by
  have ten : parts Argument.standardSize = .finite false 5629499534213120 (-49) := by decide +kernel
  have width : parts Argument.standardCell.x = .finite false 6917529027641082 (-59) := by
    decide +kernel
  have height : parts Argument.standardCell.y = .finite false 8646911284551352 (-57) := by
    decide +kernel
  refine IsInfinite.of_div (by decide +kernel) (unpack_of_parts (by decide) ten) ?_
  rcases h with h | h
  · exact h.of_mul (by decide +kernel) (by decide) (unpack_of_parts (by decide) width)
  · exact h.of_mul (by decide +kernel) (by decide) (unpack_of_parts (by decide) height)

end SlideDeck.Number
