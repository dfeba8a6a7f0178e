import SlideDeck.Proofs.Number.Nearest

/-!
# Arithmetic that gives numbers

A number may be no number at all. Operations on numbers do not come to this as long as one side is
neither zero nor infinite: such a number times any other is a number, and so is any other divided by it.
Whole numbers are numbers, however large they are, and those of no more than 53 bits are neither zero nor
infinite unless they are zero.

**The law** (`isDefined_mul_div`): a whole number is scaled in a proportion of small whole numbers to a
number.
-/

namespace SlideDeck.Number

open Float.Model Float.Model.UnpackedFloat

/-- What is a number, an infinite one included. -/
def IsDefined (x : Float) : Prop :=
  parts x ≠ .nan

/-- A number that is neither zero nor infinite. -/
def IsProper (x : Float) : Prop :=
  ∃ (sign : Sign) (m : Nat) (e : Int) (pos : 0 < m), x.toModel.unpack = .finite sign m e pos

section Unpacked

variable {x y : Float} {u : UnpackedFloat}

theorem isDefined_iff : IsDefined x ↔ x.toModel.unpack ≠ .notANumber := by
  rw [unpack_eq, IsDefined]
  cases parts x with
  | nan => exact iff_of_false (fun h => h rfl) (fun h => h rfl)
  | infinite negative => exact iff_of_true nofun nofun
  | finite negative m e =>
    refine iff_of_true nofun fun none => ?_
    by_cases zero : m = 0
    · rw [Parts.unpacked, dif_pos zero] at none
      cases none
    · rw [Parts.unpacked, dif_neg zero] at none
      cases none

/-- A word whose exponent is not the greatest one is a number, and not infinite. -/
theorem unpack_packComponents_ne (sign : Sign) {exponent : BitVec Format.binary64.exponentBits}
    (h : exponent ≠ -1#_) (mantissa : BitVec Format.binary64.mantissaBitsWithoutImplicit) :
    UnpackedFloat.unpack Format.binary64 (packComponents Format.binary64 sign exponent mantissa) ≠
      .notANumber ∧
    ∀ sign', UnpackedFloat.unpack Format.binary64
      (packComponents Format.binary64 sign exponent mantissa) ≠ .infinity sign' := by
  unfold UnpackedFloat.unpack
  simp only [unpackExponent_packComponents, if_neg h]
  split
  · split <;> exact ⟨nofun, nofun⟩
  · exact ⟨nofun, nofun⟩

/-- **What is a number is one when it is packed**: if its exponent is too great, it is packed as an
infinity. -/
theorem unpack_pack_ne (h : u ≠ .notANumber) : (Float.Model.pack u).unpack ≠ .notANumber := by
  cases u with
  | notANumber => exact absurd rfl h
  | infinity sign => cases sign <;> (intro none; cases none)
  | zero sign => cases sign <;> (intro none; cases none)
  | finite sign m e pos =>
    simp only [Float.Model.unpack, Float.Model.pack, UnpackedFloat.pack]
    split
    · cases sign <;> (intro none; cases none)
    · rename_i inRange
      split
      · refine (unpack_packComponents_ne sign (fun ones => inRange ?_) _).1
        have word := congrArg BitVec.toNat ones
        rw [BitVec.toNat_ofNat] at word
        have full : (-1#_ : BitVec Format.binary64.exponentBits).toNat = 2047 := rfl
        have bits : Format.binary64.exponentBits = 11 := rfl
        omega
      · exact (unpack_packComponents_ne sign (by decide) _).1

/-! ## Operations -/

/-- A result is rounded to a number. -/
theorem roundWithAccuracy_ne (spec : Format) (sign : Sign) (m : Nat) (e : Int) (accuracy : Accuracy) :
    roundWithAccuracy spec sign m e accuracy ≠ .notANumber := by
  intro none
  unfold roundWithAccuracy at none
  simp only at none
  split at none <;> cases none

theorem IsProper.isDefined (h : IsProper x) : IsDefined x := by
  obtain ⟨sign, m, e, pos, unpacked⟩ := h
  rw [isDefined_iff, unpacked]
  exact nofun

/-- Nothing but infinities and zeros is multiplied to no number. -/
theorem mul_finite_ne (spec : Format) (sign sign' : Sign) {m m' : Nat} (e e' : Int) (pos : 0 < m)
    (pos' : 0 < m') :
    UnpackedFloat.mul spec (.finite sign m e pos) (.finite sign' m' e' pos') ≠ .notANumber :=
  roundWithAccuracy_ne _ _ _ _ _

/-- A number times one that is neither zero nor infinite is a number. -/
theorem IsProper.isDefined_mul (hx : IsProper x) (hy : IsDefined y) : IsDefined (x * y) := by
  obtain ⟨sign, m, e, pos, ux⟩ := hx
  have uy := isDefined_iff.mp hy
  refine isDefined_iff.mpr ?_
  show (Float.Model.pack (UnpackedFloat.mul _ x.toModel.unpack y.toModel.unpack)).unpack ≠ _
  refine unpack_pack_ne ?_
  rw [ux]
  cases hu : y.toModel.unpack with
  | notANumber => exact absurd hu uy
  | infinity sign' => exact nofun
  | zero sign' => exact nofun
  | finite sign' m' e' pos' => exact mul_finite_ne _ _ _ _ _ _ _

/-- A number divided by one that is neither zero nor infinite is a number. -/
theorem IsDefined.div (hx : IsDefined x) (hy : IsProper y) : IsDefined (x / y) := by
  obtain ⟨sign, m, e, pos, uy⟩ := hy
  have ux := isDefined_iff.mp hx
  refine isDefined_iff.mpr ?_
  show (Float.Model.pack (UnpackedFloat.div _ x.toModel.unpack y.toModel.unpack)).unpack ≠ _
  refine unpack_pack_ne ?_
  rw [uy]
  cases hu : x.toModel.unpack with
  | notANumber => exact absurd hu ux
  | infinity sign' => exact nofun
  | zero sign' => exact nofun
  | finite sign' m' e' pos' => exact roundWithAccuracy_ne _ _ _ _ _

theorem IsDefined.neg (hx : IsDefined x) : IsDefined (-x) := by
  have ux := isDefined_iff.mp hx
  refine isDefined_iff.mpr ?_
  show (Float.Model.pack x.toModel.unpack.neg).unpack ≠ _
  refine unpack_pack_ne ?_
  cases hu : x.toModel.unpack with
  | notANumber => exact absurd hu ux
  | _ => exact nofun

end Unpacked

/-! ## Whole numbers -/

/-- A whole number of no more than 53 bits is neither infinite nor, unless it is zero, zero. -/
theorem isProper_ofNat {n : Nat} (pos : 0 < n) (lt : n < 2 ^ 53) : IsProper (Float.ofNat n) := by
  obtain ⟨m, e, canonical, top, -, value, -⟩ := toFloat_eq pos lt
  have near : Nearest (n * 10 ^ (0 : Int)) m e := by
    rw [zpow_zero, mul_one, ← value]
    exact Nearest.self m e
  have few := digitCount_le_log2 n
  have bits : n.log2 < 53 := (Nat.log2_lt pos.ne').mpr lt
  have same : Float.ofNat n = positive canonical :=
    ofScientific_eq canonical near pos (by omega) (by omega)
  rw [same]
  exact ⟨_, m, e, canonical.pos, unpack_pack .positive canonical top⟩

/-- Every whole number is a number. -/
theorem isDefined_ofNat (n : Nat) : IsDefined (Float.ofNat n) := by
  by_cases small : n < 2 ^ 53
  · rcases Nat.eq_zero_or_pos n with rfl | pos
    · show parts (Float.ofNat 0) ≠ .nan
      decide +kernel
    · exact (isProper_ofNat pos small).isDefined
  · -- A greater one is the product of its digits and a power of ten, which is rounded.
    have long : Float.ofNat n = Float.ofModel (Float.Model.ofScientific n 0) := by
      show Float.ofScientific n false 0 = _
      rw [Float.ofScientific, dif_neg (fun quick => small quick.1)]
      rfl
    rw [long, isDefined_iff]
    refine unpack_pack_ne ?_
    have power : (0 : Int) ≤ 2 ^ Format.binary64.exponentBits := by positivity
    rw [UnpackedFloat.ofScientific, dif_neg (by omega), if_neg (by omega), if_neg (by omega),
      if_pos (Int.le_refl 0)]
    exact mul_finite_ne _ _ _ _ _ _ _

theorem isDefined_ofInt (n : Int) : IsDefined (Float.ofInt n) := by
  cases n with
  | ofNat n => exact isDefined_ofNat n
  | negSucc n => exact (isDefined_ofNat (n + 1)).neg

/-- **A whole number, scaled in a proportion of small ones, is a number.** -/
theorem isDefined_mul_div {first second : Nat} (given : Int) (pos : 0 < first) (lt : first < 2 ^ 53)
    (pos' : 0 < second) (lt' : second < 2 ^ 53) :
    IsDefined (Float.ofInt second * (Float.ofInt given / Float.ofInt first)) :=
  (isProper_ofNat pos' lt').isDefined_mul ((isDefined_ofInt given).div (isProper_ofNat pos lt))

end SlideDeck.Number
