import SlideDeck.Number.Binary
import SlideDeck.Proofs.Number.Rounding

/-!
# Numbers and their bits

The parts of a number (`parts`) are read off its bits, and its arithmetic reads the same off them: a
sign, a mantissa and an exponent (`unpack_eq`). Nothing is lost on the way, so a number is what its
parts say (`eq_of_parts`), and a mantissa and an exponent that a number can have are those of the
number that is made of them (`unpack_pack`).
-/

namespace SlideDeck.Number

open Float.Model Float.Model.UnpackedFloat

/-! ## The three fields -/

section Fields

variable (b : BitVec Format.binary64.numBits)

@[simp]
theorem unpackMantissa_toNat : (unpackMantissa b).toNat = b.toNat % 2 ^ 52 := by
  simp [unpackMantissa, BitVec.extractLsb]

@[simp]
theorem unpackExponent_toNat : (unpackExponent b).toNat = b.toNat / 2 ^ 52 % 2 ^ 11 := by
  simp [unpackExponent, BitVec.extractLsb, Nat.shiftRight_eq_div_pow]

@[simp]
theorem unpackSign_toNat : (unpackSign b).toNat = b.toNat / 2 ^ 63 % 2 := by
  simp [unpackSign, BitVec.extractLsb, Nat.shiftRight_eq_div_pow]

theorem packComponents_toNat (sign : Sign) (exponent : BitVec Format.binary64.exponentBits)
    (mantissa : BitVec Format.binary64.mantissaBitsWithoutImplicit) :
    (packComponents Format.binary64 sign exponent mantissa).toNat =
      sign.toBitVec.toNat * 2 ^ 63 + exponent.toNat * 2 ^ 52 + mantissa.toNat := by
  have lt := mantissa.isLt
  have lt' := exponent.isLt
  simp only [packComponents, BitVec.toNat_append]
  rw [← Nat.shiftLeft_add_eq_or_of_lt lt, ← Nat.shiftLeft_add_eq_or_of_lt lt']
  simp only [Nat.shiftLeft_eq]
  ring

end Fields

/-- The sign of a number that is negative or not. -/
def signOf (negative : Bool) : Sign :=
  if negative then .negative else .positive

/-- The fields of a word make the word. -/
theorem packComponents_unpack (b : BitVec Format.binary64.numBits) :
    packComponents Format.binary64 (Sign.ofBitVec (unpackSign b)) (unpackExponent b)
      (unpackMantissa b) = b := by
  have lt : b.toNat < 2 ^ 64 := b.isLt
  apply BitVec.eq_of_toNat_eq
  rw [packComponents_toNat, Sign.toBitVec_ofBitVec, unpackSign_toNat, unpackExponent_toNat,
    unpackMantissa_toNat]
  omega

theorem ofBitVec_unpackSign (b : BitVec Format.binary64.numBits) :
    Sign.ofBitVec (unpackSign b) = signOf (2 ^ 63 ≤ b.toNat) := by
  have lt : b.toNat < 2 ^ 64 := b.isLt
  have bit : unpackSign b = 0#1 ↔ b.toNat < 2 ^ 63 := by
    rw [← BitVec.toNat_inj, unpackSign_toNat]
    simp only [BitVec.toNat_ofNat, Nat.zero_mod]
    omega
  unfold Sign.ofBitVec signOf
  rcases Nat.lt_or_ge b.toNat (2 ^ 63) with small | large
  · rw [if_pos (bit.mpr small), if_neg (by simpa using small)]
  · rw [if_neg (fun zero => by have := bit.mp zero; omega), if_pos (by simpa using large)]

theorem exponent_eq_ones (b : BitVec Format.binary64.numBits) :
    unpackExponent b = -1#_ ↔ b.toNat / 2 ^ 52 % 2 ^ 11 = 2047 := by
  rw [← BitVec.toNat_inj, unpackExponent_toNat]
  rfl

theorem exponent_eq_zero (b : BitVec Format.binary64.numBits) :
    unpackExponent b = 0#_ ↔ b.toNat / 2 ^ 52 % 2 ^ 11 = 0 := by
  rw [← BitVec.toNat_inj, unpackExponent_toNat]
  rfl

theorem mantissa_eq_zero (b : BitVec Format.binary64.numBits) :
    unpackMantissa b = 0#_ ↔ b.toNat % 2 ^ 52 = 0 := by
  rw [← BitVec.toNat_inj, unpackMantissa_toNat]
  rfl

/-- The implicit bit stands before the others. -/
theorem implicit_toNat (mantissa : BitVec 52) : (1#1 ++ mantissa).toNat = 2 ^ 52 + mantissa.toNat := by
  rw [BitVec.toNat_append, ← Nat.shiftLeft_add_eq_or_of_lt mantissa.isLt, Nat.shiftLeft_eq]
  simp

/-! ## Parts -/

/-- The parts of a number, in the form that the arithmetic has them. -/
def Parts.unpacked : Parts → UnpackedFloat
  | .nan => .notANumber
  | .infinite negative => .infinity (signOf negative)
  | .finite negative m e =>
    if h : m = 0 then .zero (signOf negative)
    else .finite (signOf negative) m e (Nat.pos_of_ne_zero h)

theorem finite_congr {s : Sign} {m m' : Nat} {e e' : Int} (pos : 0 < m) (hm : m = m') (he : e = e') :
    UnpackedFloat.finite s m e pos = .finite s m' e' (hm ▸ pos) := by
  subst hm he
  rfl

/-- **The arithmetic works on the parts of a number.** -/
theorem unpack_eq (x : Float) : x.toModel.unpack = (parts x).unpacked := by
  have bits : x.toBits.toNat = x.toModel.toBits.toBitVec.toNat := rfl
  simp only [Float.Model.unpack, UnpackedFloat.unpack, parts, bits, Nat.pow_eq]
  generalize x.toModel.toBits.toBitVec = b
  rw [ofBitVec_unpackSign]
  by_cases ones : b.toNat / 2 ^ 52 % 2 ^ 11 = 2047
  · rw [if_pos ((exponent_eq_ones b).mpr ones), if_pos ones]
    by_cases none : b.toNat % 2 ^ 52 = 0
    · rw [if_pos ((mantissa_eq_zero b).mpr none), if_pos none]
      rfl
    · rw [if_neg (mt (mantissa_eq_zero b).mp none), if_neg none]
      rfl
  · rw [if_neg (mt (exponent_eq_ones b).mp ones), if_neg ones]
    by_cases zeros : b.toNat / 2 ^ 52 % 2 ^ 11 = 0
    · rw [if_pos ((exponent_eq_zero b).mpr zeros), if_pos zeros]
      by_cases none : b.toNat % 2 ^ 52 = 0
      · rw [dif_pos ((mantissa_eq_zero b).mpr none), Parts.unpacked, dif_pos none]
      · rw [dif_neg (mt (mantissa_eq_zero b).mp none), Parts.unpacked, dif_neg none]
        refine finite_congr _ (unpackMantissa_toNat b) ?_
        rw [unpackExponent_toNat, zeros]
        rfl
    · rw [if_neg (mt (exponent_eq_zero b).mp zeros), if_neg zeros, Parts.unpacked,
        dif_neg (Nat.ne_of_gt (Nat.add_pos_left (Nat.two_pow_pos 52) _))]
      refine finite_congr _ ?_ ?_
      · exact (implicit_toNat _).trans (congrArg (2 ^ 52 + ·) (unpackMantissa_toNat b))
      · rw [unpackExponent_toNat]
        rfl

/-! ## There and back -/

/-- A number that is not infinite has a mantissa and an exponent of a number, or is zero. -/
theorem canonical_of_parts {x : Float} {negative : Bool} {m : Nat} {e : Int}
    (h : parts x = .finite negative m e) :
    e ≤ 971 ∧ (m = 0 ∧ e = -1074 ∨ Canonical m e) := by
  simp only [parts, Nat.pow_eq] at h
  generalize x.toBits.toNat = bits at h
  have fraction : bits % 2 ^ 52 < 2 ^ 52 := Nat.mod_lt _ (Nat.two_pow_pos 52)
  have exponent : bits / 2 ^ 52 % 2 ^ 11 < 2 ^ 11 := Nat.mod_lt _ (Nat.two_pow_pos 11)
  split at h
  · split at h <;> cases h
  · split at h
    · cases h
      refine ⟨by omega, ?_⟩
      rcases Nat.eq_zero_or_pos (bits % 2 ^ 52) with zero | pos
      · exact .inl ⟨zero, rfl⟩
      · exact .inr ⟨pos, by omega, Int.le_refl _, .inl rfl⟩
    · cases h
      exact ⟨by omega, .inr ⟨by omega, by omega, by omega, .inr (by omega)⟩⟩

/-- The bits that the parts of a number are written with. -/
theorem pack_finite (sign : Sign) {m : Nat} {e : Int} (canonical : Canonical m e)
    (top : e ≤ 971) :
    UnpackedFloat.pack Format.binary64 (.finite sign m e canonical.pos) =
      packComponents Format.binary64 sign
        (if 2 ^ 52 ≤ m then BitVec.ofNat 11 (e + 1075).toNat else 0#11) (BitVec.ofNat 52 m) := by
  have least := canonical.least
  have upper : m.log2 < 53 := (Nat.log2_lt canonical.pos.ne').mpr canonical.lt
  have bias : (e + (Format.binary64.exponentBias : Int) +
      (Format.binary64.mantissaBitsWithoutImplicit : Int)).toNat = (e + 1075).toNat := by
    have sum : (Format.binary64.exponentBias : Int) = 1023 := rfl
    have bits : (Format.binary64.mantissaBitsWithoutImplicit : Int) = 52 := rfl
    omega
  have inRange : ¬ 2 ^ 11 ≤ (e + 1075).toNat + 1 := by omega
  unfold UnpackedFloat.pack
  simp only [bias]
  rw [if_neg inRange]
  by_cases normal : 2 ^ 52 ≤ m
  · have lower : 52 ≤ m.log2 := (Nat.le_log2 canonical.pos.ne').mpr normal
    have bits : m.log2 + 1 = Format.binary64.mantissaBits := by
      show m.log2 + 1 = 53
      omega
    rw [if_pos bits, if_pos normal]
  · have lower : m.log2 < 52 := (Nat.log2_lt canonical.pos.ne').mpr (by omega)
    have bits : ¬ m.log2 + 1 = Format.binary64.mantissaBits := by
      show ¬ m.log2 + 1 = 53
      omega
    rw [if_neg bits, if_neg normal]

/-- A word is packed as it was unpacked. -/
@[simp]
theorem pack_unpack_bits (b : BitVec Format.binary64.numBits) (valid : Format.binary64.Valid b) :
    UnpackedFloat.pack Format.binary64 (UnpackedFloat.unpack Format.binary64 b) = b := by
  have whole := packComponents_unpack b
  have fraction : (unpackMantissa b).toNat < 2 ^ 52 := (unpackMantissa b).isLt
  have exponent : (unpackExponent b).toNat < 2 ^ 11 := (unpackExponent b).isLt
  unfold UnpackedFloat.unpack
  simp only
  by_cases ones : unpackExponent b = -1#_
  · rw [if_pos ones]
    by_cases none : unpackMantissa b = 0#_
    · rw [if_pos none]
      rw [ones, none] at whole
      exact whole
    · rw [if_neg none]
      exact (valid.eq_packedNaN ones none).symm
  · rw [if_neg ones]
    by_cases zeros : unpackExponent b = 0#_
    · rw [if_pos zeros]
      by_cases none : unpackMantissa b = 0#_
      · rw [dif_pos none]
        rw [zeros, none] at whole
        exact whole
      · rw [dif_neg none]
        have pos : 0 < (unpackMantissa b).toNat :=
          Nat.pos_of_ne_zero fun zero => none (BitVec.eq_of_toNat_eq (by rw [zero]; rfl))
        have canonical : Canonical (unpackMantissa b).toNat (-1074) :=
          ⟨pos, by omega, Int.le_refl _, .inl rfl⟩
        rw [zeros] at whole ⊢
        have same := pack_finite (Sign.ofBitVec (unpackSign b)) canonical (by decide)
        rw [if_neg (by omega), BitVec.ofNat_toNat, BitVec.setWidth_eq] at same
        exact same.trans whole
    · rw [if_neg zeros]
      have nonzero : (unpackExponent b).toNat ≠ 0 :=
        fun zero => zeros (BitVec.eq_of_toNat_eq (by rw [zero]; rfl))
      have notOnes : (unpackExponent b).toNat ≠ 2047 :=
        fun full => ones (BitVec.eq_of_toNat_eq (by rw [full]; rfl))
      have implicit := implicit_toNat (unpackMantissa b)
      have canonical : Canonical (1#1 ++ unpackMantissa b).toNat
          ((unpackExponent b).toNat - 1075) := by
        refine ⟨?_, ?_, by omega, .inr ?_⟩ <;> rw [implicit] <;> omega
      have same := pack_finite (Sign.ofBitVec (unpackSign b)) canonical (by omega)
      have mantissa : BitVec.ofNat 52 (1#1 ++ unpackMantissa b).toNat = unpackMantissa b := by
        apply BitVec.eq_of_toNat_eq
        rw [implicit, BitVec.toNat_ofNat, Nat.add_mod_left, Nat.mod_eq_of_lt fraction]
      have power : BitVec.ofNat 11 (((unpackExponent b).toNat : Int) - 1075 + 1075).toNat =
          unpackExponent b := by
        rw [Int.sub_add_cancel, Int.toNat_natCast, BitVec.ofNat_toNat, BitVec.setWidth_eq]
      rw [if_pos (by rw [implicit]; omega), mantissa, power, whole] at same
      exact same

/-- **A number is made of what the arithmetic reads off it.** -/
@[simp]
theorem pack_unpack (x : Float) : Float.ofModel (Float.Model.pack x.toModel.unpack) = x := by
  obtain ⟨⟨bits, valid⟩⟩ := x
  have same := pack_unpack_bits bits.toBitVec valid
  simp only [Float.Model.pack, Float.Model.unpack, same]

/-- **A number is what its parts say.** -/
theorem eq_of_parts {x y : Float} (h : parts x = parts y) : x = y := by
  rw [← pack_unpack x, ← pack_unpack y, unpack_eq, unpack_eq, h]

/-- The zeros are the numbers that are equal to zero. -/
theorem beq_zero_iff (x : Float) : (x == 0.0) = true ↔ x = 0.0 ∨ x = -0.0 := by
  have plus : parts 0.0 = .finite false 0 (-1074) := by decide +kernel
  have minus : parts (-0.0) = .finite true 0 (-1074) := by decide +kernel
  constructor
  · intro equal
    have compared : (x.toModel.unpack.beq (0.0 : Float).toModel.unpack) = true := equal
    rw [unpack_eq, unpack_eq 0.0, plus] at compared
    cases hp : parts x with
    | nan =>
      rw [hp] at compared
      cases compared
    | infinite negative =>
      rw [hp] at compared
      cases negative <;> cases compared
    | finite negative m e =>
      rcases (canonical_of_parts hp).2 with ⟨rfl, rfl⟩ | canonical
      · cases negative with
        | false => exact .inl (eq_of_parts (hp.trans plus.symm))
        | true => exact .inr (eq_of_parts (hp.trans minus.symm))
      · rw [hp, Parts.unpacked, dif_neg canonical.pos.ne'] at compared
        cases negative <;> cases compared
  · rintro (rfl | rfl) <;> decide +kernel

/-- What is a number is equal to itself. -/
theorem beq_self_of_isNaN {x : Float} (h : x.isNaN = false) : (x == x) = true := by
  have number : x.toModel.unpack.isNaN = false := h
  have compared : (x == x) = x.toModel.unpack.beq x.toModel.unpack := rfl
  rw [compared]
  generalize x.toModel.unpack = u at number
  cases u with
  | notANumber => cases number
  | infinity sign => cases sign <;> rfl
  | zero sign => rfl
  | finite sign m e pos => cases sign <;> simp [UnpackedFloat.beq, UnpackedFloat.compare]

/-- **A mantissa and an exponent of a number are those of the number that is made of them.** -/
theorem unpack_pack (sign : Sign) {m : Nat} {e : Int} (canonical : Canonical m e) (top : e ≤ 971) :
    (Float.Model.pack (.finite sign m e canonical.pos)).unpack =
      .finite sign m e canonical.pos := by
  have least := canonical.least
  have lt := canonical.lt
  simp only [Float.Model.unpack, Float.Model.pack, pack_finite sign canonical top]
  unfold UnpackedFloat.unpack
  simp only [unpackMantissa_packComponents, unpackExponent_packComponents,
    unpackSign_packComponents, Sign.ofBitVec_toBitVec]
  by_cases normal : 2 ^ 52 ≤ m
  · have power : (BitVec.ofNat 11 (e + 1075).toNat).toNat = (e + 1075).toNat := by
      rw [BitVec.toNat_ofNat, Nat.mod_eq_of_lt (by omega)]
    have notOnes : BitVec.ofNat 11 (e + 1075).toNat ≠ -1#_ := by
      intro ones
      rw [ones] at power
      have full : (-1#11).toNat = 2047 := rfl
      omega
    have notZeros : BitVec.ofNat 11 (e + 1075).toNat ≠ 0#_ := by
      intro zeros
      rw [zeros] at power
      have none : (0#11).toNat = 0 := rfl
      omega
    rw [if_pos normal, if_neg notOnes, if_neg notZeros]
    refine finite_congr _ ?_ ?_
    · refine (implicit_toNat _).trans ?_
      rw [BitVec.toNat_ofNat]
      omega
    · rw [power]
      show ((e + 1075).toNat : Int) - 1075 = e
      omega
  · have notOnes : (0#11 : BitVec 11) ≠ -1#_ := by decide
    have fraction : (BitVec.ofNat 52 m).toNat = m := by
      rw [BitVec.toNat_ofNat, Nat.mod_eq_of_lt (by omega)]
    have some : BitVec.ofNat 52 m ≠ 0#_ := by
      intro zero
      rw [zero] at fraction
      exact canonical.pos.ne fraction
    have lowest : e = -1074 := canonical.full.resolve_right normal
    rw [if_neg normal, if_neg notOnes, if_pos rfl, dif_neg some]
    refine finite_congr _ fraction ?_
    rw [lowest]
    rfl

end SlideDeck.Number
