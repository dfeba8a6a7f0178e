import SlideDeck.Number.Shortest
import SlideDeck.Proofs.Number.Nearest

/-!
# The shortest decimal lies nearest

The search for the shortest decimal gives only decimals that it has found to round to the number
(`onGrid?_holds`), and it finds one at the latest on the grid with seventeen digits behind the first
one, which is finer than half the gap between two numbers (`onGrid?_isSome`).

**The law** (`shortest_nearest`): the shortest decimal of a number lies nearest to that number.
-/

namespace SlideDeck.Number

/-- The value of a decimal. -/
def Decimal.value (d : Decimal) : ℚ :=
  d.digits * 10 ^ d.exponent

namespace Neighbourhood

variable {n : Neighbourhood}

/-! ## Comparisons over one denominator -/

theorem scale_le_iff (pos : 0 < n.den) (e : Int) (count of : Nat) :
    (n.scale e count of).2 ≤ (n.scale e count of).1 ↔ (of : ℚ) / n.den ≤ count * 10 ^ e := by
  have posq : (0 : ℚ) < n.den := by exact_mod_cast pos
  rw [zpow_eq_div, mul_div_assoc', div_le_div_iff₀ posq (by positivity)]
  simp only [scale, Nat.pow_eq]
  exact_mod_cast Iff.rfl

theorem le_scale_iff (pos : 0 < n.den) (e : Int) (count of : Nat) :
    (n.scale e count of).1 ≤ (n.scale e count of).2 ↔ (count * 10 ^ e : ℚ) ≤ of / n.den := by
  have posq : (0 : ℚ) < n.den := by exact_mod_cast pos
  rw [zpow_eq_div, mul_div_assoc', div_le_div_iff₀ (by positivity) posq]
  simp only [scale, Nat.pow_eq]
  exact_mod_cast Iff.rfl

/-- A decimal within the ends of the interval rounds to the number, and one at an end does so if the
interval is closed. -/
theorem holds_iff (pos : 0 < n.den) (e : Int) (count : Nat) :
    n.holds e count = true ↔
      if n.closed then (n.low : ℚ) / n.den ≤ count * 10 ^ e ∧ (count * 10 ^ e : ℚ) ≤ n.high / n.den
      else (n.low : ℚ) / n.den < count * 10 ^ e ∧ (count * 10 ^ e : ℚ) < n.high / n.den := by
  unfold holds
  simp only
  split
  · rw [Bool.and_eq_true, decide_eq_true_iff, decide_eq_true_iff, scale_le_iff pos,
      le_scale_iff pos]
  · rw [Bool.and_eq_true, decide_eq_true_iff, decide_eq_true_iff, ← not_le, ← not_le,
      le_scale_iff pos, scale_le_iff pos, not_le, not_le]

theorem holds_of_between (pos : 0 < n.den) {e : Int} {count : Nat}
    (low : (n.low : ℚ) / n.den < count * 10 ^ e) (high : (count * 10 ^ e : ℚ) < n.high / n.den) :
    n.holds e count = true := by
  rw [holds_iff pos]
  split
  · exact ⟨low.le, high.le⟩
  · exact ⟨low, high⟩

/-! ## The search -/

/-- What is found on a grid rounds to the number. -/
theorem onGrid?_holds {e : Int} {count : Nat} (h : n.onGrid? e = some count) :
    n.holds e count = true := by
  unfold onGrid? at h
  simp only at h
  split at h
  · cases h
  · rename_i below _
    cases h
    exact below
  · rename_i _ above
    cases h
    exact above
  · rename_i below above
    split at h
    · cases h
      exact below
    · split at h
      · cases h
        exact above
      · cases h
        rcases Nat.mod_two_eq_zero_or_one
          ((n.scale e 1 n.value).2 / (n.scale e 1 n.value).1) with even | odd
        · rw [even]
          exact below
        · rw [odd]
          exact above

/-- Something is found on a grid whose upper neighbour of the number rounds to the number. -/
theorem onGrid?_isSome {e : Int}
    (h : n.holds e ((n.scale e 1 n.value).2 / (n.scale e 1 n.value).1 + 1) = true) :
    (n.onGrid? e).isSome = true := by
  unfold onGrid?
  simp only [h]
  split
  · contradiction
  · rfl
  · rfl
  · split
    · rfl
    · split <;> rfl

/-- A search that finds something on its last grid finds a decimal that rounds to the number. -/
theorem search_holds (grids : Nat) (e : Int) (last : (n.onGrid? (e - grids)).isSome = true) :
    n.holds (n.search grids e).exponent (n.search grids e).digits = true := by
  induction grids generalizing e with
  | zero =>
    rw [Nat.cast_zero, Int.sub_zero] at last
    obtain ⟨count, found⟩ := Option.isSome_iff_exists.mp last
    simp only [search, found, Option.getD_some]
    exact onGrid?_holds found
  | succ grids ih =>
    simp only [search]
    cases found : n.onGrid? e with
    | some count => exact onGrid?_holds found
    | none =>
      refine ih (e - 1) ?_
      rwa [Int.sub_sub, Int.add_comm 1, ← Nat.cast_succ]

/-! ## The finest grid -/

/-- The power of ten of a number's first digit is not above the number. -/
theorem pow_magnitude_le (pos : 0 < n.den) (some : 0 < n.value) :
    (10 : ℚ) ^ n.magnitude ≤ n.value / n.den := by
  unfold magnitude
  simp only
  split
  · rename_i le
    have reached := (le_scale_iff pos _ 1 n.value).mp le
    rwa [Nat.cast_one, one_mul] at reached
  · have upper : (10 : ℚ) ^ (digitCount n.value - 1) ≤ n.value := by
      exact_mod_cast pow_digitCount_le some.ne'
    have lower : (n.den : ℚ) ≤ 10 ^ digitCount n.den := by
      exact_mod_cast (lt_pow_digitCount n.den).le
    have more := digitCount_pos n.value
    have posq : (0 : ℚ) < n.den := by exact_mod_cast pos
    have split : (digitCount n.value : Int) - digitCount n.den - 1 =
        ((digitCount n.value - 1 : Nat) : Int) - (digitCount n.den : Nat) := by omega
    rw [split, zpow_sub₀ (by norm_num), zpow_natCast, zpow_natCast]
    exact div_le_div₀ (by positivity) upper posq lower

/-- The upper neighbour of the number on a grid is above the number, by no more than the grid's
step. -/
theorem above_bounds (pos : 0 < n.den) (e : Int) :
    let above := (n.scale e 1 n.value).2 / (n.scale e 1 n.value).1 + 1
    (n.value : ℚ) / n.den < above * 10 ^ e ∧ (above * 10 ^ e : ℚ) ≤ n.value / n.den + 10 ^ e := by
  simp only
  generalize hb : (n.scale e 1 n.value).2 / (n.scale e 1 n.value).1 = below
  have step : 0 < (n.scale e 1 n.value).1 := by
    simp only [scale, Nat.pow_eq]
    positivity
  have counted : ∀ count, (n.scale e count n.value).1 = count * (n.scale e 1 n.value).1 := by
    intro count
    simp only [scale, Nat.pow_eq]
    ring
  have value : ∀ count, (n.scale e count n.value).2 = (n.scale e 1 n.value).2 := fun _ => rfl
  constructor
  · rw [← not_le, ← le_scale_iff pos, not_le, counted, value, ← hb]
    exact Nat.lt_mul_of_div_lt (Nat.lt_succ_self _) step
  · have reached : (below * 10 ^ e : ℚ) ≤ n.value / n.den := by
      rw [← le_scale_iff pos, counted, value, ← hb]
      exact Nat.div_mul_le_self _ _
    push_cast
    linarith

end Neighbourhood

/-! ## The law -/

section Law

variable {m : Nat} {e : Int}

theorem den_pos (m : Nat) (e : Int) : 0 < (neighbourhood m e).den := by
  simp only [neighbourhood, Nat.pow_eq]
  positivity

/-- The unit of a number, as the fraction that its neighbourhood is counted in. -/
theorem unit_eq (e : Int) (count : ℚ) :
    count * 2 ^ e.toNat / (4 * 2 ^ (-e).toNat) = count / 4 * 2 ^ e := by
  rw [zpow_eq_div]
  field_simp

theorem value_eq (m : Nat) (e : Int) :
    ((neighbourhood m e).value : ℚ) / (neighbourhood m e).den = m * 2 ^ e := by
  simp only [neighbourhood, Nat.pow_eq]
  push_cast
  rw [unit_eq]
  ring

theorem high_eq (m : Nat) (e : Int) :
    ((neighbourhood m e).high : ℚ) / (neighbourhood m e).den = (m + 1 / 2) * 2 ^ e := by
  simp only [neighbourhood, Nat.pow_eq]
  push_cast
  rw [unit_eq]
  ring

theorem low_eq (pos : 0 < m) (e : Int) :
    ((neighbourhood m e).low : ℚ) / (neighbourhood m e).den =
      (m - (if m = 2 ^ 52 ∧ -1074 < e then 1 / 4 else 1 / 2)) * 2 ^ e := by
  have cast : ∀ gap ≤ 2, ((4 * m - gap : Nat) : ℚ) = 4 * m - gap := by
    intro gap le
    rw [Nat.cast_sub (by omega)]
    push_cast
    rfl
  simp only [neighbourhood, Nat.pow_eq]
  push_cast
  rw [unit_eq]
  split
  · rw [cast 1 (by omega)]
    push_cast
    ring
  · rw [cast 2 (by omega)]
    push_cast
    ring

/-- A decimal that rounds to a number lies nearest to it. -/
theorem nearest_of_holds (canonical : Canonical m e) {k : Int} {count : Nat}
    (h : (neighbourhood m e).holds k count = true) : Nearest (count * 10 ^ k) m e := by
  rw [Neighbourhood.holds_iff (den_pos m e), low_eq canonical.pos, high_eq] at h
  have unit : (0 : ℚ) < 2 ^ e := by positivity
  have gap : (m : ℚ) - 1 / 2 ≤ m - (if m = 2 ^ 52 ∧ -1074 < e then 1 / 4 else 1 / 2) := by
    split <;> linarith
  rw [← le_div_iff₀ unit, ← lt_div_iff₀ unit, ← div_le_iff₀ unit, ← div_lt_iff₀ unit] at h
  have parity : (neighbourhood m e).closed = (m % 2 == 0) := rfl
  rw [parity] at h
  rcases Nat.mod_two_eq_zero_or_one m with even | odd
  · rw [if_pos (by simp [even])] at h
    refine ⟨⟨gap.trans h.1, h.2, fun odd => ?_⟩, fun power above => ?_⟩
    · rw [even] at odd
      cases odd
    · have low := h.1
      rwa [if_pos ⟨power, above⟩] at low
  · rw [if_neg (by simp [odd])] at h
    refine ⟨⟨gap.trans h.1.le, h.2.le, fun _ => ⟨lt_of_le_of_lt gap h.1, h.2⟩⟩, fun power => ?_⟩
    rw [power] at odd
    norm_num at odd

/-- On the grid of seventeen digits behind the first, the upper neighbour of a number rounds to it. -/
theorem holds_finest (canonical : Canonical m e) :
    ((neighbourhood m e).onGrid? ((neighbourhood m e).magnitude - (17 : Nat))).isSome = true := by
  have pos := den_pos m e
  refine Neighbourhood.onGrid?_isSome ?_
  obtain ⟨above, near⟩ :=
    Neighbourhood.above_bounds pos ((neighbourhood m e).magnitude - (17 : Nat))
  have some : 0 < (neighbourhood m e).value := by
    have mantissa := canonical.pos
    simp only [neighbourhood, Nat.pow_eq]
    positivity
  have reached := Neighbourhood.pow_magnitude_le pos some
  have unit : (0 : ℚ) < 2 ^ e := by positivity
  rw [value_eq] at above near reached
  have step : (10 : ℚ) ^ ((neighbourhood m e).magnitude - (17 : Nat)) < 1 / 2 * 2 ^ e := by
    have lt : (m : ℚ) ≤ 2 ^ 53 := by exact_mod_cast canonical.lt.le
    rw [zpow_sub₀ (by norm_num), zpow_natCast, div_lt_iff₀ (by positivity)]
    calc (10 : ℚ) ^ (neighbourhood m e).magnitude ≤ m * 2 ^ e := reached
      _ ≤ 2 ^ 53 * 2 ^ e := mul_le_mul_of_nonneg_right lt unit.le
      _ < 1 / 2 * 10 ^ 17 * 2 ^ e := mul_lt_mul_of_pos_right (by norm_num) unit
      _ = 1 / 2 * 2 ^ e * 10 ^ 17 := by ring
  refine Neighbourhood.holds_of_between pos ?_ ?_
  · rw [low_eq canonical.pos]
    refine lt_of_le_of_lt (mul_le_mul_of_nonneg_right ?_ unit.le) above
    split <;> linarith
  · rw [high_eq, add_mul]
    linarith

/-- A decimal is worth the same without its trailing zeros. -/
@[simp]
theorem trim_value (fuel : Nat) (d : Decimal) : (d.trim fuel).value = d.value := by
  induction fuel generalizing d with
  | zero => rfl
  | succ fuel ih =>
    rw [Decimal.trim]
    split
    · rename_i h
      rw [ih]
      have tens : (d.digits : ℚ) = 10 * (d.digits / 10 : Nat) := by
        exact_mod_cast (Nat.mul_div_cancel' (Nat.dvd_of_mod_eq_zero h.2)).symm
      simp only [Decimal.value]
      rw [tens, zpow_add_one₀ (by norm_num)]
      ring
    · rfl

/-- **The shortest decimal of a number lies nearest to it.** -/
theorem shortest_nearest (canonical : Canonical m e) : Nearest (shortest m e).value m e := by
  rw [shortest, if_neg canonical.pos.ne']
  simp only
  rw [trim_value]
  exact nearest_of_holds canonical (Neighbourhood.search_holds 17 _ (holds_finest canonical))

end Law

end SlideDeck.Number
