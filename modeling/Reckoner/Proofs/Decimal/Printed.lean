import Mathlib.Algebra.Order.Field.Power
import Mathlib.Algebra.Order.Ring.Rat
import Mathlib.Tactic.FieldSimp
import Mathlib.Tactic.Linarith
import Mathlib.Tactic.NormNum
import Mathlib.Tactic.Positivity
import Mathlib.Tactic.Ring
import Reckoner.Decimal

/-! # What a printed decimal stands for

The decimal that shows a float lies in the interval of the reals that round to the float
(`RoundingInterval.holds_shortest`), and it has places behind the point exactly when the float is
not a whole number. The search for it is over the naturals; here its intervals are intervals of
rational numbers, so that the grids of all powers of ten are compared with one and the same thing.
-/

namespace Reckoner

/-- The number that a decimal stands for. -/
def Decimal.toRat (d : Decimal) : ℚ :=
  d.coefficient * 10 ^ d.exponent

/-- A power with any exponent is a quotient of two with natural ones. -/
theorem zpow_mul_pow_toNat_neg {base : ℚ} (positive : 0 < base) (exponent : ℤ) :
    base ^ exponent * base ^ (-exponent).toNat = base ^ exponent.toNat := by
  rw [← zpow_natCast, ← zpow_natCast, ← zpow_add₀ positive.ne']
  congr 1
  omega

namespace RoundingInterval

variable {interval : RoundingInterval}

/-- The number around which the interval lies. -/
def center (interval : RoundingInterval) : ℚ :=
  interval.value * 2 ^ interval.exponent

/-- A number lies in the interval, or at one of its ends if these belong to it. -/
def Holds (interval : RoundingInterval) (point : ℚ) : Prop :=
  if interval.closed then
    interval.low * 2 ^ interval.exponent ≤ point ∧ point ≤ interval.high * 2 ^ interval.exponent
  else
    interval.low * 2 ^ interval.exponent < point ∧ point < interval.high * 2 ^ interval.exponent

/-- The value lies inside and not at an end. -/
structure IsProper (interval : RoundingInterval) : Prop where
  above : interval.low < interval.value
  below : interval.value < interval.high

/-- The interval of a float that is not zero has its value inside. -/
theorem isProper_ofBinary {significand : ℕ} {exponent : ℤ} (positive : significand ≠ 0) :
    (ofBinary significand exponent).IsProper where
  above := by
    simp only [ofBinary]
    split <;> omega
  below := by
    simp only [ofBinary]
    omega

/-- A proper interval holds its center. -/
theorem holds_center (proper : interval.IsProper) : interval.Holds interval.center := by
  have unit : (0 : ℚ) < 2 ^ interval.exponent := by positivity
  have above : (interval.low : ℚ) < interval.value := by exact_mod_cast proper.above
  have below : (interval.value : ℚ) < interval.high := by exact_mod_cast proper.below
  unfold Holds center
  split
  · exact ⟨by gcongr, by gcongr⟩
  · exact ⟨by gcongr, by gcongr⟩

/-! ## Grids -/

/-- How much the naturals of a grid are magnified. -/
def magnification (interval : RoundingInterval) (exponent : ℤ) : ℚ :=
  10 ^ (-exponent).toNat * 2 ^ (-interval.exponent).toNat

/-- A grid is magnified and not shrunk to nothing. -/
theorem magnification_pos (interval : RoundingInterval) (exponent : ℤ) :
    0 < interval.magnification exponent := by
  unfold magnification
  positivity

/-- A bound of the interval, in the units of a grid. -/
theorem cast_mul_scale (interval : RoundingInterval) (exponent : ℤ) (bound : ℕ) :
    ((bound * (Nat.pow 10 (-exponent).toNat * Nat.pow 2 interval.exponent.toNat) : ℕ) : ℚ) =
      bound * 2 ^ interval.exponent * interval.magnification exponent := by
  have halves := zpow_mul_pow_toNat_neg (two_pos : (0 : ℚ) < 2) interval.exponent
  simp only [Nat.pow_eq, Nat.cast_mul, Nat.cast_pow, Nat.cast_ofNat, ← halves, magnification]
  ring

/-- A multiple of a power of ten, in the units of a grid. -/
theorem cast_mul_spacing (interval : RoundingInterval) (exponent : ℤ) (multiple : ℕ) :
    ((multiple * (interval.grid exponent).spacing : ℕ) : ℚ) =
      multiple * 10 ^ exponent * interval.magnification exponent := by
  have tenths := zpow_mul_pow_toNat_neg (by norm_num : (0 : ℚ) < 10) exponent
  simp only [grid, Nat.pow_eq, Nat.cast_mul, Nat.cast_pow, Nat.cast_ofNat, ← tenths, magnification]
  ring

/-- A grid compares multiples of its power of ten with bounds of the interval. -/
theorem compare_grid (interval : RoundingInterval) (exponent : ℤ) (bound multiple : ℕ) :
    let scale := Nat.pow 10 (-exponent).toNat * Nat.pow 2 interval.exponent.toNat
    let point : ℚ := multiple * 10 ^ exponent
    (bound * scale ≤ multiple * (interval.grid exponent).spacing ↔
      bound * 2 ^ interval.exponent ≤ point) ∧
    (multiple * (interval.grid exponent).spacing ≤ bound * scale ↔
      point ≤ bound * 2 ^ interval.exponent) := by
  have unit := interval.magnification_pos exponent
  intro scale point
  constructor
  · rw [← @Nat.cast_le ℚ, cast_mul_scale, cast_mul_spacing, mul_le_mul_iff_left₀ unit]
  · rw [← @Nat.cast_le ℚ, cast_mul_scale, cast_mul_spacing, mul_le_mul_iff_left₀ unit]

/-- A grid contains the multiples that lie in the interval. -/
theorem contains_grid_iff {exponent : ℤ} {multiple : ℕ} :
    (interval.grid exponent).contains multiple = true ↔
      interval.Holds (multiple * 10 ^ exponent) := by
  obtain ⟨low_le, le_low⟩ := interval.compare_grid exponent interval.low multiple
  obtain ⟨high_le, le_high⟩ := interval.compare_grid exponent interval.high multiple
  have closed : (interval.grid exponent).closed = interval.closed := rfl
  unfold Grid.contains Holds
  rw [closed]
  split
  · rw [Bool.and_eq_true, decide_eq_true_eq, decide_eq_true_eq, ← low_le, ← le_high]
    rfl
  · rw [Bool.and_eq_true, decide_eq_true_eq, decide_eq_true_eq, ← not_le, ← not_le, ← not_le,
      ← not_le, ← le_low, ← high_le]
    rfl

/-- What is found on a grid is a multiple of its power of ten that lies in the interval. -/
theorem holds_of_onGrid? {exponent : ℤ} {decimal : Decimal}
    (found : interval.onGrid? exponent = some decimal) :
    decimal.exponent = exponent ∧ interval.Holds decimal.toRat := by
  obtain ⟨multiple, nearest, rfl⟩ := Option.map_eq_some_iff.mp found
  exact ⟨rfl, contains_grid_iff.mp (Grid.contains_of_nearest? nearest)⟩

/-- A whole number in units of the two grids, of ones and of the powers of two. -/
theorem value_mul_pow_of_center {n : ℕ} (whole : interval.center = n) :
    interval.value * Nat.pow 2 interval.exponent.toNat =
      n * Nat.pow 2 (-interval.exponent).toNat := by
  have halves := zpow_mul_pow_toNat_neg (two_pos : (0 : ℚ) < 2) interval.exponent
  have scaled : (interval.value : ℚ) * 2 ^ interval.exponent.toNat =
      n * 2 ^ (-interval.exponent).toNat := by
    rw [← halves, ← mul_assoc, ← whole, center]
  exact_mod_cast scaled

/-- When the value itself is a whole number, there is something on the grid of ones. -/
theorem onGrid?_zero_isSome (proper : interval.IsProper) {n : ℕ} (whole : interval.center = n) :
    (interval.onGrid? 0).isSome := by
  have spaced : 0 < (interval.grid 0).spacing := by
    simp only [grid, Nat.pow_eq]
    positivity
  have exact : (interval.grid 0).value = n * (interval.grid 0).spacing := by
    simpa [grid] using value_mul_pow_of_center whole
  have below : (interval.grid 0).below = n := Nat.div_eq_of_eq_mul_left spaced exact
  have contained : (interval.grid 0).contains (interval.grid 0).below = true := by
    rw [contains_grid_iff, below, zpow_zero, mul_one, ← whole]
    exact holds_center proper
  rw [onGrid?, Option.isSome_map, Grid.nearest?, contained]
  split <;> simp_all

/-! ## The shortest decimal -/

/-- The exact decimal of an interval is its center. -/
theorem toRat_exactly (interval : RoundingInterval) : interval.exactly.toRat = interval.center := by
  have halves := zpow_mul_pow_toNat_neg (two_pos : (0 : ℚ) < 2) interval.exponent
  unfold exactly Decimal.toRat center
  by_cases whole : 0 ≤ interval.exponent
  · have none : (-interval.exponent).toNat = 0 := by omega
    rw [none, pow_zero, mul_one] at halves
    simp [whole, halves]
  · have negative : interval.exponent = -((-interval.exponent).toNat : ℤ) := by omega
    simp only [whole, if_false, Nat.pow_eq, Nat.cast_mul, Nat.cast_pow, Nat.cast_ofNat]
    generalize (-interval.exponent).toNat = places at negative
    rw [negative, zpow_neg, zpow_neg, zpow_natCast, zpow_natCast,
      show (10 : ℚ) = 5 * 2 by norm_num, mul_pow]
    field_simp

/-- How many grids are searched. -/
def gridCount (interval : RoundingInterval) : ℕ :=
  (interval.coarsest - interval.exactly.exponent).toNat + 1

/-- The shortest decimal is the exact value, or on the first grid that has a point in the
interval. -/
theorem shortest_cases (interval : RoundingInterval) :
    (interval.shortest = interval.exactly ∧
      ∀ finer < interval.gridCount, interval.onGrid? (interval.coarsest - finer) = none) ∨
    ∃ finer : ℕ, interval.onGrid? (interval.coarsest - finer) = some interval.shortest ∧
      ∀ sooner < finer, interval.onGrid? (interval.coarsest - sooner) = none := by
  let onNext (finer : ℕ) := interval.onGrid? (interval.coarsest - finer)
  have searched : interval.shortest =
      ((List.range interval.gridCount).findSome? onNext).getD interval.exactly := rfl
  cases found : (List.range interval.gridCount).findSome? onNext with
  | none =>
    rw [found] at searched
    refine .inl ⟨searched, fun finer few => ?_⟩
    exact List.findSome?_eq_none_iff.mp found finer (List.mem_range.mpr few)
  | some decimal =>
    obtain ⟨before, finer, after, split, here, nothing⟩ := List.findSome?_eq_some_iff.mp found
    rw [found] at searched
    refine .inr ⟨finer, here.trans (congrArg some searched.symm), fun sooner earlier => ?_⟩
    have sorted : (before ++ finer :: after).Pairwise (· < ·) := split ▸ List.pairwise_lt_range
    have last : finer ∈ List.range interval.gridCount := by simp [split]
    have inside : sooner ∈ before ++ finer :: after := by
      rw [← split, List.mem_range]
      exact earlier.trans (List.mem_range.mp last)
    rcases List.mem_append.mp inside with sooner | same | later
    · exact nothing _ sooner
    · exact absurd earlier (lt_irrefl _)
    · rename_i later
      have order := (List.pairwise_cons.mp (List.pairwise_append.mp sorted).2.1).1 _ later
      omega

/-- **In the interval.** The decimal that is printed rounds to the float. -/
theorem holds_shortest (proper : interval.IsProper) : interval.Holds interval.shortest.toRat := by
  rcases interval.shortest_cases with ⟨exact, -⟩ | ⟨finer, found, -⟩
  · rw [exact, toRat_exactly]
    exact holds_center proper
  · exact (holds_of_onGrid? found).2

/-- The exact decimal has no exponent above zero. -/
theorem exponent_exactly_le (interval : RoundingInterval) : interval.exactly.exponent ≤ 0 := by
  unfold exactly
  split
  · exact le_rfl
  · dsimp only
    omega

/-- The search for a whole number starts on a grid that is not finer than the ones. -/
theorem coarsest_nonneg (proper : interval.IsProper) {n : ℕ} (whole : interval.center = n) :
    0 ≤ interval.coarsest := by
  have units := value_mul_pow_of_center whole
  have positive : n ≠ 0 := by
    rintro rfl
    have above := proper.above
    simp at units
    omega
  unfold coarsest
  rw [units, if_pos (Nat.le_mul_of_pos_left _ (Nat.pos_of_ne_zero positive))]
  exact Int.natCast_nonneg _

/-- A whole number is printed without places behind the point. -/
theorem exponent_shortest_nonneg (proper : interval.IsProper) {n : ℕ}
    (whole : interval.center = n) : 0 ≤ interval.shortest.exponent := by
  obtain ⟨coarse, start⟩ := Int.eq_ofNat_of_zero_le (coarsest_nonneg proper whole)
  have there := onGrid?_zero_isSome proper whole
  have ones : interval.coarsest - coarse = 0 := by omega
  rw [← ones] at there
  rcases interval.shortest_cases with ⟨-, nothing⟩ | ⟨finer, found, nothing⟩
  · have few : coarse < interval.gridCount := by
      have exact := interval.exponent_exactly_le
      unfold gridCount
      omega
    rw [nothing coarse few] at there
    cases there
  · by_contra negative
    have later : coarse < finer := by
      rw [(holds_of_onGrid? found).1] at negative
      omega
    rw [nothing coarse later] at there
    cases there

/-! ## The interval of a float -/

variable {significand : ℕ} {exponent : ℤ}

/-- The center of the interval of a float is its value. -/
theorem center_ofBinary (significand : ℕ) (exponent : ℤ) :
    (ofBinary significand exponent).center = significand * 2 ^ exponent := by
  simp only [center, ofBinary, Nat.cast_mul, Nat.cast_ofNat]
  rw [zpow_sub₀ two_ne_zero]
  ring

/-- The interval is measured in quarters of the last bit. -/
theorem quarter (exponent : ℤ) (bound : ℕ) :
    (bound : ℚ) * 2 ^ (exponent - 2) = bound * 2 ^ exponent / 4 := by
  rw [zpow_sub₀ two_ne_zero]
  ring

/-- The ends of the interval bound four times the points in it. -/
theorem bounds_of_holds {point : ℚ} (holds : (ofBinary significand exponent).Holds point) :
    (ofBinary significand exponent).low * 2 ^ exponent ≤ 4 * point ∧
      4 * point ≤ (4 * significand + 2 : ℕ) * 2 ^ exponent := by
  have quarters : (ofBinary significand exponent).exponent = exponent - 2 := rfl
  have high : (ofBinary significand exponent).high = 4 * significand + 2 := rfl
  unfold Holds at holds
  rw [quarters, high, quarter, quarter] at holds
  split at holds
  · constructor <;> linarith
  · constructor <;> linarith

/-- An odd float gives both ties away. -/
theorem strict_of_holds {point : ℚ} (odd : significand % 2 = 1)
    (holds : (ofBinary significand exponent).Holds point) :
    (ofBinary significand exponent).low * 2 ^ exponent < 4 * point ∧
      4 * point < (4 * significand + 2 : ℕ) * 2 ^ exponent := by
  have quarters : (ofBinary significand exponent).exponent = exponent - 2 := rfl
  have high : (ofBinary significand exponent).high = 4 * significand + 2 := rfl
  have isOpen : (ofBinary significand exponent).closed = false := by
    simp [ofBinary, odd]
  unfold Holds at holds
  rw [quarters, high, quarter, quarter, isOpen] at holds
  simp only [Bool.false_eq_true, if_false] at holds
  constructor <;> linarith

/-- The interval reaches down by half a unit of its significand, or less. -/
theorem le_low_ofBinary (significand : ℕ) (exponent : ℤ) :
    4 * significand ≤ (ofBinary significand exponent).low + 2 := by
  simp only [ofBinary]
  split <;> omega

/-- Where the last bit of a float is not above one, only the float itself is a whole number in its
interval. -/
theorem significand_eq_of_holds {places n : ℕ}
    (holds : (ofBinary significand (-places)).Holds n) : significand = n * 2 ^ places := by
  obtain ⟨low, high⟩ := bounds_of_holds holds
  have near := le_low_ofBinary significand (-places)
  have unit : (0 : ℚ) < 2 ^ places := by positivity
  rw [zpow_neg, zpow_natCast, ← div_eq_mul_inv] at low high
  rw [div_le_iff₀ unit, mul_assoc] at low
  rw [le_div_iff₀ unit, mul_assoc] at high
  have from_low : (ofBinary significand (-places)).low ≤ 4 * (n * 2 ^ places) := by
    exact_mod_cast low
  have to_high : 4 * (n * 2 ^ places) ≤ 4 * significand + 2 := by exact_mod_cast high
  omega

/-- With no exponent above zero, the only natural number in an interval is its center. -/
theorem center_eq_of_holds {n : ℕ} (fraction : exponent ≤ 0)
    (holds : (ofBinary significand exponent).Holds n) :
    (ofBinary significand exponent).center = n := by
  obtain ⟨places, rfl⟩ := Int.exists_eq_neg_ofNat fraction
  have unit : (2 : ℚ) ^ places ≠ 0 := by positivity
  rw [center_ofBinary, significand_eq_of_holds holds, zpow_neg, zpow_natCast, Nat.cast_mul,
    Nat.cast_pow, Nat.cast_ofNat, mul_assoc, mul_inv_cancel₀ unit, mul_one]

end RoundingInterval

/-! ## Whole numbers -/

namespace Decimal

/-- A decimal without places stands for a natural number. -/
theorem toRat_of_nonneg {d : Decimal} (whole : 0 ≤ d.exponent) :
    d.toRat = (d.coefficient * Nat.pow 10 d.exponent.toNat : ℕ) := by
  obtain ⟨zeros, same⟩ := Int.eq_ofNat_of_zero_le whole
  simp [toRat, same]

/-- A float without a bit below one is a whole number. -/
theorem exists_natCast_eq {significand : ℕ} {exponent : ℤ} (whole : 0 ≤ exponent) :
    ∃ n : ℕ, (significand : ℚ) * 2 ^ exponent = n := by
  obtain ⟨zeros, rfl⟩ := Int.eq_ofNat_of_zero_le whole
  exact ⟨significand * 2 ^ zeros, by simp⟩

/-- **Digits alone.** A float that is a whole number is printed by the digits of a number that
rounds to it, and every other with a point. -/
theorem magnitudeChars_of_ne_zero {significand : ℕ} (positive : significand ≠ 0) (exponent : ℤ) :
    ((∃ n : ℕ, (significand : ℚ) * 2 ^ exponent = n) ∧
      ∃ n : ℕ, magnitudeChars significand exponent = digits n ∧
        (RoundingInterval.ofBinary significand exponent).Holds n) ∨
    ((¬ ∃ n : ℕ, (significand : ℚ) * 2 ^ exponent = n) ∧
      '.' ∈ magnitudeChars significand exponent) := by
  let interval := RoundingInterval.ofBinary significand exponent
  have proper : interval.IsProper := RoundingInterval.isProper_ofBinary positive
  have center := RoundingInterval.center_ofBinary significand exponent
  have holds := RoundingInterval.holds_shortest proper
  have chars : magnitudeChars significand exponent = interval.shortest.chars := if_neg positive
  rw [chars]
  by_cases places : 0 ≤ interval.shortest.exponent
  · rw [toRat_of_nonneg places] at holds
    refine .inl ⟨?_, _, chars_of_nonneg places, holds⟩
    by_cases whole : 0 ≤ exponent
    · exact exists_natCast_eq whole
    · exact ⟨_, center.symm.trans (RoundingInterval.center_eq_of_holds (by omega) holds)⟩
  · refine .inr ⟨?_, point_mem_chars (by omega)⟩
    rintro ⟨n, whole⟩
    exact places (RoundingInterval.exponent_shortest_nonneg proper (center.trans whole))

end Decimal

end Reckoner
