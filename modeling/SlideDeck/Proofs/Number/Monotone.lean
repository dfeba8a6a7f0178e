import SlideDeck.Drawing.Units
import SlideDeck.Proofs.Number.Nearest

/-!
# Arithmetic that keeps order

Every positive rational number that is not too small has a nearest number (`exists_nearest`), and of
two rational numbers the nearest number of the lesser one is no greater than that of the other
(`Nearest.below`). So an operation that keeps the order of exact results keeps the order of numbers,
an infinite one being the greatest (`Rising.operation`).

**The law** (`Rising.truncate`): whole parts keep the order as well. What has no whole part, because
it is infinite, comes after all that have one.
-/

namespace SlideDeck.Number

open Float.Model Float.Model.UnpackedFloat

/-! ## Nearest numbers -/

section Nearest

variable {m n : Nat} {e f : Int} {v w : ℚ}

/-- A mantissa and an exponent come before others: exponents are compared first. -/
def Below (m : Nat) (e : Int) (n : Nat) (f : Int) : Prop :=
  e < f ∨ e = f ∧ m ≤ n

theorem Below.le (h : Below m e n f) (canonical : Canonical m e) (other : Canonical n f) :
    (m * 2 ^ e : ℚ) ≤ n * 2 ^ f := by
  rcases h with less | ⟨rfl, le⟩
  · have full : (2 : ℚ) ^ 52 ≤ n := by
      have least := canonical.least
      exact_mod_cast other.full.resolve_left (by omega)
    have room : (m : ℚ) ≤ 2 ^ 53 := by
      exact_mod_cast canonical.lt.le
    have power : (2 : ℚ) ^ (e + 1) ≤ 2 ^ f := zpow_le_zpow_right₀ one_le_two less
    calc (m * 2 ^ e : ℚ) ≤ 2 ^ 53 * 2 ^ e := by gcongr
      _ = 2 ^ 52 * 2 ^ (e + 1) := by rw [zpow_add_one₀ two_ne_zero]; ring
      _ ≤ n * 2 ^ f := by gcongr
  · gcongr

/-- A greater rational number has no nearest number with a lesser exponent. If it had one, the
lesser number would have a finer unit, and the greater one would be at least a power of two. -/
theorem Nearest.exponent_le (hv : Nearest v m e) (canonical : Canonical m e) (hw : Nearest w n f)
    (other : Canonical n f) (le : v ≤ w) : e ≤ f := by
  by_contra! less
  have least := other.least
  have full := canonical.full.resolve_left (by omega)
  have lowest : (2 : ℚ) ^ 52 - 1 / 4 ≤ v / 2 ^ e := by
    rcases full.eq_or_lt with power | more
    · have narrow := hv.narrow power.symm (by omega)
      rw [← power] at narrow
      exact_mod_cast narrow
    · have low := hv.rounds.low
      have next : (2 : ℚ) ^ 52 + 1 ≤ m := by exact_mod_cast more
      linarith
  have finer : v / 2 ^ f = v / 2 ^ e * 2 ^ (e - f) := by
    rw [zpow_sub₀ two_ne_zero]
    field_simp
  have twice : (2 : ℚ) ≤ 2 ^ (e - f) := by
    calc (2 : ℚ) = 2 ^ (1 : Int) := (zpow_one 2).symm
      _ ≤ 2 ^ (e - f) := zpow_le_zpow_right₀ one_le_two (by omega)
  have reached : (2 : ℚ) ^ 53 - 1 / 2 ≤ v / 2 ^ f := by
    calc (2 : ℚ) ^ 53 - 1 / 2 = (2 ^ 52 - 1 / 4) * 2 := by norm_num
      _ ≤ v / 2 ^ e * 2 ^ (e - f) := by gcongr
      _ = v / 2 ^ f := finer.symm
  have order : v / 2 ^ f ≤ w / 2 ^ f := by gcongr
  have high := hw.rounds.high
  have room := other.lt
  have last : n = 2 ^ 53 - 1 := by
    have least : (2 : ℚ) ^ 53 ≤ n + 1 := by linarith
    have least : 2 ^ 53 ≤ n + 1 := by exact_mod_cast least
    omega
  -- The last mantissa is odd, so it is nearest to nothing that lies in the middle.
  have strict := (hw.rounds.odd (by omega)).2
  rw [last] at strict
  norm_num at strict reached
  linarith

/-- A greater rational number does not round to a lesser whole one. If it did, both would lie in the
middle of the two, and there only the even one is nearest. -/
theorem RoundsTo.le_of_le {p q : ℚ} (hp : RoundsTo p m) (hq : RoundsTo q n) (le : p ≤ q) :
    m ≤ n := by
  by_contra! less
  have low := hp.low
  have high := hq.high
  have next : m = n + 1 := by
    have most : (m : ℚ) ≤ n + 1 := by linarith
    have most : m ≤ n + 1 := by exact_mod_cast most
    omega
  rcases Nat.mod_two_eq_zero_or_one n with even | odd
  · have strict := (hp.odd (by omega)).1
    rw [next] at strict
    push_cast at strict
    linarith
  · have strict := (hq.odd odd).2
    rw [next] at low
    push_cast at low
    linarith

/-- **A greater rational number has no lesser nearest number.** -/
theorem Nearest.below (hv : Nearest v m e) (canonical : Canonical m e) (hw : Nearest w n f)
    (other : Canonical n f) (le : v ≤ w) : Below m e n f := by
  rcases (hv.exponent_le canonical hw other le).lt_or_eq with less | rfl
  · exact .inl less
  · have order : v / 2 ^ e ≤ w / 2 ^ e := by gcongr
    exact .inr ⟨rfl, hv.rounds.le_of_le hw.rounds order⟩

/-- A rational number that is not negative rounds to a whole one. -/
theorem exists_roundsTo {q : ℚ} (nonneg : 0 ≤ q) : ∃ n, RoundsTo q n := by
  have low := Nat.floor_le nonneg
  have high := Nat.lt_floor_add_one q
  rcases lt_trichotomy q (⌊q⌋₊ + 1 / 2) with below | middle | above
  · exact ⟨⌊q⌋₊, by linarith, by linarith, fun _ => ⟨by linarith, below⟩⟩
  · rcases Nat.mod_two_eq_zero_or_one ⌊q⌋₊ with even | odd
    · exact ⟨⌊q⌋₊, by linarith, by linarith, fun odd => by omega⟩
    · refine ⟨⌊q⌋₊ + 1, ?_, ?_, fun odd => by omega⟩ <;> push_cast <;> linarith
  · refine ⟨⌊q⌋₊ + 1, ?_, ?_, fun _ => ⟨?_, ?_⟩⟩ <;> push_cast <;> linarith

/-- A rational number that is not too small has an exponent: in its unit it has at most 53 binary
digits, and just as many unless the exponent is the least one. -/
theorem exists_exponent (enough : 2 ^ (-1074 : Int) ≤ v) :
    ∃ e : Int, -1074 ≤ e ∧ (e = -1074 ∧ 1 ≤ v / 2 ^ e ∨ (2 : ℚ) ^ 52 ≤ v / 2 ^ e) ∧
      v / 2 ^ e < 2 ^ 53 := by
  have pos : 0 < v := lt_of_lt_of_le (by positivity) enough
  have below := Int.zpow_log_le_self (b := 2) one_lt_two pos
  have above := Int.lt_zpow_succ_log_self (b := 2) one_lt_two v
  push_cast at below above
  refine ⟨max (Int.log 2 v - 52) (-1074), le_max_right _ _, ?_, ?_⟩
  · rcases le_total (Int.log 2 v - 52) (-1074) with small | large
    · left
      rw [max_eq_right small]
      exact ⟨rfl, (one_le_div (by positivity)).mpr enough⟩
    · right
      rw [max_eq_left large, le_div_iff₀ (by positivity), ← zpow_natCast, ← zpow_add₀ two_ne_zero]
      exact le_trans (zpow_le_zpow_right₀ one_le_two (by omega)) below
  · rw [div_lt_iff₀ (by positivity), ← zpow_natCast, ← zpow_add₀ two_ne_zero]
    exact lt_of_lt_of_le above (zpow_le_zpow_right₀ one_le_two (by omega))

/-- **A rational number that is not too small has a nearest number.** Its exponent is the one that
the rational number asks for, but for numbers that are rounded up to a power of two. -/
theorem exists_nearest (enough : 2 ^ (-1074 : Int) ≤ v) :
    ∃ (m : Nat) (e : Int), Canonical m e ∧ Nearest v m e := by
  have pos : 0 < v := lt_of_lt_of_le (by positivity) enough
  obtain ⟨e, least, low, high⟩ := exists_exponent enough
  obtain ⟨n, rounds⟩ := exists_roundsTo (div_pos pos (by positivity : (0 : ℚ) < 2 ^ e)).le
  have lowest := rounds.low
  have highest := rounds.high
  have most : n ≤ 2 ^ 53 := by
    have lt : (n : ℚ) < 2 ^ 53 + 1 := by linarith
    exact Nat.lt_succ_iff.mp (by exact_mod_cast lt)
  have one : 0 < n := by
    have gt : (0 : ℚ) < n := by
      rcases low with ⟨-, one⟩ | full
      · linarith
      · norm_num at full
        linarith
    exact_mod_cast gt
  rcases most.eq_or_lt with rfl | room
  · -- A power of two has the next exponent.
    have half : v / 2 ^ (e + 1) = v / 2 ^ e / 2 := by
      rw [zpow_add_one₀ two_ne_zero]
      field_simp
    refine ⟨2 ^ 52, e + 1, ⟨by norm_num, by norm_num, by omega, .inr (Nat.le_refl _)⟩, ?_, ?_⟩
    · rw [half]
      refine ⟨?_, ?_, fun odd => by norm_num at odd⟩ <;> push_cast at lowest ⊢ <;> linarith
    · intro _ _
      rw [half]
      push_cast at lowest ⊢
      linarith
  · refine ⟨n, e, ⟨one, room, least, ?_⟩, rounds, ?_⟩
    · rcases low with ⟨lowest, -⟩ | full
      · exact .inl lowest
      · refine .inr ?_
        have gt : (2 : ℚ) ^ 52 - 1 < n := by linarith
        have gt : (2 : ℚ) ^ 52 < n + 1 := by linarith
        exact Nat.lt_succ_iff.mp (by exact_mod_cast gt)
    · intro power above
      have full := low.resolve_left (by omega)
      rw [power]
      push_cast
      linarith

end Nearest

/-! ## Positive numbers -/

/-- A positive number, be it infinite. -/
def IsPositive (x : Float) : Prop :=
  parts x = .infinite false ∨ ∃ m e, parts x = .finite false m e ∧ 0 < m

/-- How great a number is, whatever its sign; what is infinite is greater than all others. -/
def magnitude (x : Float) : WithTop ℚ :=
  match parts x with
  | .finite _ m e => ((m * 2 ^ e : ℚ) : WithTop ℚ)
  | _ => ⊤

/-- **Positive numbers in order**: the first one is no greater. -/
structure Rising (x y : Float) : Prop where
  first : IsPositive x
  second : IsPositive y
  le : magnitude x ≤ magnitude y

section Positive

variable {x y z k : Float} {m n : Nat} {e f : Int}

@[simp]
theorem parts_infinity : parts infinity = .infinite false := by
  decide +kernel

@[simp]
theorem magnitude_infinity : magnitude infinity = ⊤ := by
  rw [magnitude, parts_infinity]

@[simp]
theorem ofModel_infinity : Float.ofModel (.pack (.infinity .positive)) = infinity :=
  eq_of_parts (by decide +kernel)

theorem parts_positive (canonical : Canonical m e) (top : e ≤ 971) :
    parts (positive canonical) = .finite false m e := by
  have unpacked : (parts (positive canonical)).unpacked = .finite .positive m e canonical.pos :=
    (unpack_eq _).symm.trans (unpack_pack .positive canonical top)
  cases found : parts (positive canonical) with
  | nan | infinite negative =>
    rw [found] at unpacked
    cases unpacked
  | finite negative m' e' =>
    rw [found, Parts.unpacked] at unpacked
    split at unpacked
    · cases unpacked
    · injection unpacked with sign mantissa exponent
      rw [mantissa, exponent]
      cases negative with
      | false => rfl
      | true => cases sign

theorem magnitude_positive (canonical : Canonical m e) (top : e ≤ 971) :
    magnitude (positive canonical) = (m * 2 ^ e : ℚ) := by
  rw [magnitude, parts_positive canonical top]

/-- What is too great for a number is infinite. -/
theorem positive_eq_infinity (canonical : Canonical m e) (beyond : 971 < e) :
    positive canonical = infinity := by
  have bias : (Format.binary64.exponentBias : Int) = 1023 := rfl
  have bits : (Format.binary64.mantissaBitsWithoutImplicit : Int) = 52 := rfl
  have words : 2 ^ Format.binary64.exponentBits = 2048 := rfl
  have packed : UnpackedFloat.pack Format.binary64 (.finite .positive m e canonical.pos) =
      UnpackedFloat.pack Format.binary64 (.infinity .positive) :=
    if_pos (by omega)
  rw [positive, Float.Model.pack, ofModel_infinity.symm]
  simp only [packed]
  rfl

theorem infinity_mul (canonical : Canonical m e) (top : e ≤ 971) :
    infinity * positive canonical = infinity := by
  show Float.ofModel (.pack (UnpackedFloat.mul _ infinity.toModel.unpack
    (Float.Model.pack _).unpack)) = _
  rw [unpack_pack .positive canonical top, unpack_eq, parts_infinity]
  exact ofModel_infinity

theorem infinity_div (canonical : Canonical m e) (top : e ≤ 971) :
    infinity / positive canonical = infinity := by
  show Float.ofModel (.pack (UnpackedFloat.div _ infinity.toModel.unpack
    (Float.Model.pack _).unpack)) = _
  rw [unpack_pack .positive canonical top, unpack_eq, parts_infinity]
  exact ofModel_infinity

theorem isPositive_infinity : IsPositive infinity :=
  .inl parts_infinity

theorem isPositive_positive (canonical : Canonical m e) : IsPositive (positive canonical) := by
  rcases Int.lt_or_le 971 e with beyond | top
  · rw [positive_eq_infinity canonical beyond]
    exact isPositive_infinity
  · exact .inr ⟨m, e, parts_positive canonical top, canonical.pos⟩

theorem IsPositive.cases (h : IsPositive x) :
    x = infinity ∨ ∃ m e, ∃ c : Canonical m e, e ≤ 971 ∧ x = positive c := by
  rcases h with infinite | ⟨m, e, finite, pos⟩
  · exact .inl (eq_of_parts (infinite.trans parts_infinity.symm))
  · obtain ⟨top, ⟨zero, -⟩ | canonical⟩ := canonical_of_parts finite
    · exact absurd zero pos.ne'
    · exact .inr ⟨m, e, canonical, top, eq_positive finite canonical⟩

theorem rising_positive {c : Canonical m e} {d : Canonical n f} (h : Below m e n f) :
    Rising (positive c) (positive d) := by
  refine ⟨isPositive_positive c, isPositive_positive d, ?_⟩
  rcases Int.lt_or_le 971 f with beyond | top
  · rw [positive_eq_infinity d beyond, magnitude_infinity]
    exact le_top
  · have top' : e ≤ 971 := by
      unfold Below at h
      omega
    rw [magnitude_positive c top', magnitude_positive d top]
    exact_mod_cast h.le c d

/-- The least positive number. -/
def leastPositive : Float := 5e-324

@[simp]
theorem parts_leastPositive : parts leastPositive = .finite false 1 (-1074) := by
  decide +kernel

theorem IsPositive.rising_least (h : IsPositive x) : Rising leastPositive x := by
  have canonical : Canonical 1 (-1074) := ⟨Nat.one_pos, by norm_num, by norm_num, .inl rfl⟩
  rw [eq_positive parts_leastPositive canonical]
  rcases h.cases with rfl | ⟨m, e, c, -, rfl⟩
  · exact ⟨isPositive_positive canonical, isPositive_infinity, magnitude_infinity ▸ le_top⟩
  · have least := c.least
    have pos := c.pos
    refine rising_positive ?_
    unfold Below
    omega

/-- Finite positive numbers are compared by their exponents first. -/
theorem le_iff_below (hx : parts x = .finite false m e) (pos : 0 < m)
    (hy : parts y = .finite false n f) (pos' : 0 < n) : x ≤ y ↔ Below m e n f := by
  have unpacked {z : Float} {k : Nat} {g : Int} (pos : 0 < k) (h : parts z = .finite false k g) :
      z.toModel.unpack = .finite .positive k g pos := by
    rw [unpack_eq, h, Parts.unpacked, dif_neg pos.ne']
    rfl
  have compared : x ≤ y ↔ x.toModel.unpack.le y.toModel.unpack = true :=
    decide_eq_true_iff
  rw [compared, unpacked pos hx, unpacked pos' hy]
  show ((compare e f).then (compare m n)).isLE = true ↔ Below m e n f
  unfold Below
  rcases lt_trichotomy e f with less | rfl | greater
  · simp [compare_lt_iff_lt.mpr less, less]
  · rw [compare_eq_iff_eq.mpr rfl, Ordering.eq_then, Nat.isLE_compare]
    simp
  · simp [compare_gt_iff_gt.mpr greater, greater.not_gt, greater.ne']

theorem rising_of_below (hx : parts x = .finite false m e) (pos : 0 < m)
    (hy : parts y = .finite false n f) (pos' : 0 < n) (h : Below m e n f) : Rising x y := by
  obtain ⟨-, ⟨zero, -⟩ | c⟩ := canonical_of_parts hx
  · exact absurd zero pos.ne'
  obtain ⟨-, ⟨zero, -⟩ | d⟩ := canonical_of_parts hy
  · exact absurd zero pos'.ne'
  rw [eq_positive hx c, eq_positive hy d]
  exact rising_positive h

/-- What is greater than zero is positive. -/
theorem isPositive_of_lt (h : 0.0 < x) : IsPositive x := by
  have zero : (0.0 : Float).toModel.unpack = .zero .positive := by
    rw [unpack_eq]
    have found : parts 0.0 = .finite false 0 (-1074) := by decide +kernel
    rw [found]
    rfl
  have compared : UnpackedFloat.lt (.zero .positive) x.toModel.unpack = true := by
    rw [← zero]
    exact decide_eq_true_iff.mp h
  rw [unpack_eq] at compared
  cases found : parts x with
  | nan =>
    rw [found] at compared
    cases compared
  | infinite negative =>
    rw [found] at compared
    cases negative with
    | false => exact .inl found
    | true => cases compared
  | finite negative m e =>
    rw [found, Parts.unpacked] at compared
    split at compared
    · cases compared
    · rename_i some_
      cases negative with
      | false => exact .inr ⟨m, e, found, Nat.pos_of_ne_zero some_⟩
      | true => cases compared

/-- **An operation that keeps the order of exact results keeps the order of numbers**, if it gives
the nearest ones. -/
theorem Rising.operation (h : Rising x y) (op : Float → Float) (scale : ℚ → ℚ)
    (mono : Monotone scale) (infinite : op infinity = infinity)
    (enough : ∀ v : ℚ, 2 ^ (-1074 : Int) ≤ v → magnitude x ≤ v → 2 ^ (-1074 : Int) ≤ scale v)
    (nearest : ∀ {m e n f} (c : Canonical m e) (d : Canonical n f), e ≤ 971 →
      Nearest (scale (m * 2 ^ e)) n f → op (positive c) = positive d) : Rising (op x) (op y) := by
  have result {m : Nat} {e : Int} (c : Canonical m e) (top : e ≤ 971)
      (le : magnitude x ≤ (m * 2 ^ e : ℚ)) : ∃ n f, ∃ d : Canonical n f,
        Nearest (scale (m * 2 ^ e)) n f ∧ op (positive c) = positive d := by
    have least : (2 : ℚ) ^ (-1074 : Int) ≤ m * 2 ^ e := by
      have one : (1 : ℚ) ≤ m := by exact_mod_cast c.pos
      calc (2 : ℚ) ^ (-1074 : Int) ≤ 2 ^ e := zpow_le_zpow_right₀ one_le_two c.least
        _ ≤ m * 2 ^ e := le_mul_of_one_le_left (by positivity) one
    obtain ⟨n, f, d, near⟩ := exists_nearest (enough _ least le)
    exact ⟨n, f, d, near, nearest c d top near⟩
  rcases h.second.cases with rfl | ⟨m', e', c', top', rfl⟩
  · rw [infinite]
    refine ⟨?_, isPositive_infinity, magnitude_infinity ▸ le_top⟩
    rcases h.first.cases with rfl | ⟨m, e, c, top, rfl⟩
    · rw [infinite]
      exact isPositive_infinity
    · obtain ⟨n, f, d, -, same⟩ := result c top (magnitude_positive c top).le
      rw [same]
      exact isPositive_positive d
  · have le := h.le
    rw [magnitude_positive c' top'] at le
    obtain ⟨n', f', d', near', same'⟩ := result c' top' le
    rcases h.first.cases with rfl | ⟨m, e, c, top, rfl⟩
    · rw [magnitude_infinity, top_le_iff] at le
      exact absurd le (WithTop.coe_ne_top)
    · obtain ⟨n, f, d, near, same⟩ := result c top (magnitude_positive c top).le
      rw [magnitude_positive c top, WithTop.coe_le_coe] at le
      rw [same, same']
      exact rising_positive (near.below d near' d' (mono le))

/-- Products with one number that is no less than one. -/
theorem Rising.mul (h : Rising x y) (hk : parts k = .finite false n f) (full : 2 ^ 52 ≤ n)
    (one : (1 : ℚ) ≤ n * 2 ^ f) : Rising (x * k) (y * k) := by
  obtain ⟨top', ⟨zero, -⟩ | d⟩ := canonical_of_parts hk
  · omega
  rw [eq_positive hk d]
  refine h.operation (· * positive d) (· * (n * 2 ^ f)) ?_ (infinity_mul d top') ?_ ?_
  · exact fun v w le => mul_le_mul_of_nonneg_right le (by positivity)
  · intro v least _
    exact least.trans (le_mul_of_one_le_right (le_trans (by positivity) least) one)
  · intro m e n' f' c d' top near
    refine mul_positive top top' d' near ?_
    exact Nat.le_trans full (Nat.le_mul_of_pos_left n c.pos)

/-- Quotients by one number, of numbers that are great enough. -/
theorem Rising.div (h : Rising x y) (hk : parts k = .finite false n f) (pos : 0 < n)
    (enough : ((2 ^ (-1074 : Int) * (n * 2 ^ f) : ℚ) : WithTop ℚ) ≤ magnitude x) :
    Rising (x / k) (y / k) := by
  obtain ⟨top', ⟨zero, -⟩ | d⟩ := canonical_of_parts hk
  · omega
  have some_ : (0 : ℚ) < n * 2 ^ f := by
    have := d.pos
    positivity
  rw [eq_positive hk d]
  refine h.operation (· / positive d) (· / (n * 2 ^ f)) ?_ (infinity_div d top') ?_ ?_
  · exact fun v w le => div_le_div_of_nonneg_right le some_.le
  · intro v _ le
    exact (le_div_iff₀ some_).mpr (WithTop.coe_le_coe.mp (enough.trans le))
  · intro m e n' f' c d' top near
    exact div_positive top top' d' near

theorem digitCount_mono {i j : Nat} (le : i ≤ j) : digitCount i ≤ digitCount j :=
  (Nat.length_toDigits_le_iff (by decide) (digitCount_pos j)).mpr
    (Nat.lt_of_le_of_lt le (lt_pow_digitCount j))

/-- Whole numbers, as far as they are numbers. -/
theorem rising_ofNat {i j : Nat} (pos : 0 < i) (le : i ≤ j) (few : digitCount j ≤ 310) :
    Rising (Float.ofNat i) (Float.ofNat j) := by
  have number {n : Nat} (pos : 0 < n) (few : digitCount n ≤ 310) :
      ∃ m e, ∃ c : Canonical m e, Nearest n m e ∧ Float.ofNat n = positive c := by
    have one : (1 : ℚ) ≤ n := by exact_mod_cast pos
    have least : (2 : ℚ) ^ (-1074 : Int) ≤ n :=
      le_trans (zpow_le_one_of_nonpos₀ one_le_two (by norm_num)) one
    obtain ⟨m, e, c, near⟩ := exists_nearest least
    have scaled : Nearest (n * 10 ^ (0 : Int)) m e := by rwa [zpow_zero, mul_one]
    exact ⟨m, e, c, near, ofScientific_eq c scaled pos (by omega) (by omega)⟩
  obtain ⟨m, e, c, near, same⟩ := number pos (Nat.le_trans (digitCount_mono le) few)
  obtain ⟨n, f, d, near', same'⟩ := number (Nat.lt_of_lt_of_le pos le) few
  rw [same, same']
  exact rising_positive (near.below c near' d (by exact_mod_cast le))

/-! ## Whole parts -/

theorem wholePart_eq_floor (m : Nat) (e : Int) : wholePart m e = ⌊(m * 2 ^ e : ℚ)⌋₊ := by
  cases e with
  | ofNat e =>
    have whole : (m * 2 ^ (Int.ofNat e) : ℚ) = (m * 2 ^ e : Nat) := by simp
    rw [whole, Nat.floor_natCast, wholePart, Nat.pow_eq]
  | negSucc e =>
    have ratio : (m * 2 ^ (Int.negSucc e) : ℚ) = m / (2 ^ (e + 1) : Nat) := by
      rw [zpow_negSucc, div_eq_mul_inv]
      norm_cast
    rw [ratio, Nat.floor_div_eq_div, wholePart, Nat.pow_eq]

/-- **Two counts in order**, the second of which may be missing because it is infinite. -/
inductive Counted : Except DrawingError Int → Except DrawingError Int → Prop where
  | whole {i j : Nat} (le : i ≤ j) : Counted (.ok i) (.ok j)
  | infinite (i : Nat) : Counted (.ok i) (.error .infinite)
  | both : Counted (.error .infinite) (.error .infinite)

theorem Counted.ok_of_ok {r : Except DrawingError Int} {j : Int} (h : Counted r (.ok j)) :
    ∃ i ≤ j, r = .ok i := by
  cases h with
  | whole le => exact ⟨_, Int.ofNat_le.mpr le, rfl⟩

theorem Counted.of_ok {r : Except DrawingError Int} {i : Int} (h : Counted (.ok i) r) :
    r = .error .infinite ∨ ∃ j, i ≤ j ∧ r = .ok j := by
  cases h with
  | whole le => exact .inr ⟨_, Int.ofNat_le.mpr le, rfl⟩
  | infinite i => exact .inl rfl

/-- A count that is in order with itself is there or infinite, so it comes after zero. -/
theorem Counted.zero {r : Except DrawingError Int} (h : Counted r r) :
    Counted (.ok (0 : Nat)) r := by
  cases h with
  | whole => exact .whole (Nat.zero_le _)
  | both => exact .infinite 0

/-- A count that is in order with itself comes before what is infinite. -/
theorem Counted.to_infinite {r : Except DrawingError Int} (h : Counted r r) :
    Counted r (.error .infinite) := by
  cases h with
  | whole => exact .infinite _
  | both => exact .both

@[simp]
theorem truncate_infinity : Drawing.truncate infinity = .error .infinite := by
  rw [Drawing.truncate, parts_infinity]

theorem truncate_positive (canonical : Canonical m e) (top : e ≤ 971) :
    Drawing.truncate (positive canonical) = .ok (⌊(m * 2 ^ e : ℚ)⌋₊ : Nat) := by
  rw [Drawing.truncate, parts_positive canonical top, ← wholePart_eq_floor]
  rfl

/-- **Whole parts keep the order.** -/
theorem Rising.truncate (h : Rising x y) : Counted (Drawing.truncate x) (Drawing.truncate y) := by
  rcases h.second.cases with rfl | ⟨n, f, d, top', rfl⟩
  · rw [truncate_infinity]
    rcases h.first.cases with rfl | ⟨m, e, c, top, rfl⟩
    · rw [truncate_infinity]
      exact .both
    · rw [truncate_positive c top]
      exact .infinite _
  · rcases h.first.cases with rfl | ⟨m, e, c, top, rfl⟩
    · have le := h.le
      rw [magnitude_infinity, magnitude_positive d top', top_le_iff] at le
      cases le
    · have le := h.le
      rw [magnitude_positive c top, magnitude_positive d top', WithTop.coe_le_coe] at le
      rw [truncate_positive c top, truncate_positive d top']
      exact .whole (Nat.floor_mono le)

/-- Whole parts have few digits. -/
theorem digitCount_of_truncate {i : Nat} (positive_ : IsPositive x)
    (h : Drawing.truncate x = .ok (i : Int)) : digitCount i ≤ 310 := by
  rcases positive_.cases with rfl | ⟨m, e, c, top, rfl⟩
  · rw [truncate_infinity] at h
    cases h
  · rw [truncate_positive c top] at h
    injection h with same
    have same : ⌊(m * 2 ^ e : ℚ)⌋₊ = i := by exact_mod_cast same
    have below : (i : ℚ) < 10 ^ 310 := by
      have room : (m : ℚ) ≤ 2 ^ 53 := by exact_mod_cast c.lt.le
      have tenth : (2 : ℚ) ^ 93 ≤ 10 ^ 28 := by norm_num
      calc (i : ℚ) ≤ m * 2 ^ e := by rw [← same]; exact Nat.floor_le (by positivity)
        _ ≤ 2 ^ 53 * 2 ^ (971 : Int) := by gcongr
        _ = (2 ^ 93) ^ 11 * 2 := by rw [zpow_ofNat, ← pow_add, ← pow_mul, ← pow_succ]
        _ ≤ (10 ^ 28) ^ 11 * 2 := by gcongr
        _ < (10 ^ 28) ^ 11 * 10 ^ 2 := by gcongr; norm_num
        _ = 10 ^ 310 := by rw [← pow_mul, ← pow_add]
    refine (Nat.length_toDigits_le_iff (by decide) (by decide)).mpr ?_
    exact_mod_cast below

end Positive

end SlideDeck.Number
