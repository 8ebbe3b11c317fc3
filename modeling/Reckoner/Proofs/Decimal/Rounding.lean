import Mathlib

/-! # Rounding natural numbers

A natural number becomes a float by two shifts: one that drops bits and rounds to the nearest
mantissa, ties to even, and one that takes up the carry of the first. Two residual bits are kept of
those that are dropped, and they are enough to round (`Approximates.roundedMantissa_eq`). So a
natural number is rounded to the significand that is nearest, with the exponent that goes with it
(`ofNat_eq_of_roundsTo`), and one with zeros enough is not rounded at all (`ofNat_eq_of_exact`).
-/

namespace Reckoner

open Float.Model Float.Model.UnpackedFloat

/-! ## Rounding a mantissa -/

/-- A number is rounded to a natural number: no other is nearer, and a tie is given to an even
one. -/
structure RoundsTo (point : ℚ) (nearest : ℕ) : Prop where
  below : (nearest : ℚ) - 1 / 2 ≤ point
  above : point ≤ nearest + 1 / 2
  tie : nearest % 2 = 1 → (nearest : ℚ) - 1 / 2 < point ∧ point < nearest + 1 / 2

/-- What the mantissa and its two residual bits say of a number: these are its first bits, and
nothing follows them if the sticky bit is clear. -/
def Approximates (extended : ExtendedMantissa) (point : ℚ) : Prop :=
  let known : ℚ := extended.mantissa + (extended.roundBit.toNat : ℚ) / 2
  if extended.stickyBit then known < point ∧ point < known + 1 / 2 else point = known

namespace Approximates

variable {extended : ExtendedMantissa} {point : ℚ}

/-- Shifting by one bit halves the number that is approximated. -/
theorem shiftRightOne (approximates : Approximates extended point) :
    Approximates extended.shiftRightOne (point / 2) := by
  obtain ⟨mantissa, roundBit, stickyBit⟩ := extended
  have split : (mantissa : ℚ) = 2 * (mantissa / 2 : ℕ) + (mantissa % 2 : ℕ) := by
    exact_mod_cast (Nat.div_add_mod mantissa 2).symm
  have last : (mantissa % 2 != 0).toNat = mantissa % 2 := by
    rcases Nat.mod_two_eq_zero_or_one mantissa with even | odd <;> simp [*]
  simp only [Approximates, ExtendedMantissa.shiftRightOne, last, split] at approximates ⊢
  cases stickyBit with
  | true =>
    simp only [Bool.or_true, if_true] at approximates ⊢
    cases roundBit <;> simp at approximates ⊢ <;> constructor <;> linarith
  | false =>
    cases roundBit <;> simp at approximates ⊢
    · linarith
    · constructor <;> linarith

/-- Shifting by more bits halves it as often. -/
theorem shiftRight (approximates : Approximates extended point) (shift : ℕ) :
    Approximates (extended >>> shift) (point / 2 ^ shift) := by
  induction shift with
  | zero =>
    rw [pow_zero, div_one]
    exact approximates
  | succ shift ih =>
    rw [pow_succ, ← div_div]
    exact ih.shiftRightOne

/-- The two residual bits are enough to round. -/
theorem roundedMantissa_eq (approximates : Approximates extended point) {nearest : ℕ}
    (rounds : RoundsTo point nearest) : extended.roundedMantissa = nearest := by
  obtain ⟨mantissa, roundBit, stickyBit⟩ := extended
  obtain ⟨below, above, tie⟩ := rounds
  have even_or_odd := Nat.mod_two_eq_zero_or_one nearest
  have nat_le {a b : ℕ} (le : (a : ℚ) ≤ b) : a ≤ b := by exact_mod_cast le
  have nat_lt {a b : ℕ} (lt : (a : ℚ) < b) : a < b := by exact_mod_cast lt
  cases roundBit <;> cases stickyBit <;>
    simp only [Approximates, Bool.toNat_false, Bool.toNat_true, Nat.cast_zero, Nat.cast_one,
      zero_div, add_zero, Bool.false_eq_true, if_false, if_true] at approximates <;>
    simp only [ExtendedMantissa.roundedMantissa, ExtendedMantissa.accuracy,
      Accuracy.roundToNearestEven]
  case false.false =>
    have low : 2 * nearest ≤ 2 * mantissa + 1 := nat_le (by push_cast; linarith)
    have high : 2 * mantissa ≤ 2 * nearest + 1 := nat_le (by push_cast; linarith)
    omega
  case false.true =>
    have low : nearest < mantissa + 1 := nat_lt (by push_cast; linarith)
    have high : 2 * mantissa < 2 * nearest + 1 := nat_lt (by push_cast; linarith)
    omega
  case true.false =>
    have low : nearest ≤ mantissa + 1 := nat_le (by push_cast; linarith)
    have high : mantissa ≤ nearest := nat_le (by linarith)
    rcases even_or_odd with even | odd
    · omega
    · obtain ⟨after, before⟩ := tie odd
      have low : nearest < mantissa + 1 := nat_lt (by push_cast; linarith)
      have high : mantissa < nearest := nat_lt (by linarith)
      omega
  case true.true =>
    have low : 2 * nearest < 2 * mantissa + 3 := nat_lt (by push_cast; linarith)
    have high : mantissa < nearest := nat_lt (by linarith)
    omega

end Approximates

/-! ## Two shifts -/

/-- A significand of full length, its first bit among them. -/
structure IsNormal (significand : ℕ) : Prop where
  full : 2 ^ 52 ≤ significand
  fits : significand < 2 ^ 53

/-- The exponent of a float with so many bits. -/
theorem targetExponent_of_log2 {mantissa bits : ℕ} (exponent : ℤ) (least : 2 ^ bits ≤ mantissa)
    (most : mantissa < 2 ^ (bits + 1)) (above : -1074 ≤ bits + exponent - 52) :
    Format.binary64.targetExponent (totalExponent mantissa exponent) = bits + exponent - 52 := by
  have positive : mantissa ≠ 0 := by
    have := Nat.two_pow_pos bits
    omega
  have log : mantissa.log2 = bits := (Nat.log2_eq_iff positive).mpr ⟨least, most⟩
  have size : Format.binary64.mantissaBits = 53 := rfl
  have limit : Format.binary64.minExponent = -1074 := by decide
  rw [Format.targetExponent, totalExponent, log, size, limit]
  omega

/-- Shifting drops bits of the mantissa. -/
theorem mantissa_shiftRight (extended : ExtendedMantissa) (shift : ℕ) :
    (extended >>> shift).mantissa = extended.mantissa / 2 ^ shift := by
  induction shift with
  | zero => exact (Nat.div_one _).symm
  | succ shift ih =>
    have next : (extended >>> (shift + 1)).mantissa = (extended >>> shift).mantissa / 2 := rfl
    rw [next, ih, Nat.div_div_eq_div_mul, pow_succ]

/-- Bits that do not fit are shifted out. -/
theorem shiftToTargetExponent_eq {mantissa bits shift : ℕ} {exponent : ℤ}
    (least : 2 ^ bits ≤ mantissa) (most : mantissa < 2 ^ (bits + 1))
    (above : -1074 ≤ bits + exponent - 52) (excess : shift = bits - 52) :
    shiftToTargetExponent .binary64 mantissa exponent .exact =
      (ExtendedMantissa.mk mantissa false false >>> shift, exponent + shift) := by
  have target := targetExponent_of_log2 exponent least most above
  have amount : (bits + exponent - 52 - exponent).toNat = shift := by omega
  rw [shiftToTargetExponent, target, shiftToExponent, amount]
  rfl

/-- The parts of a float come from rounding the bits of the mantissa that fit; when the rounded
mantissa has one bit more, that bit is zero and is shifted out too. -/
theorem roundWithAccuracy_eq {mantissa bits shift significand carry : ℕ} {exponent : ℤ}
    (least : 2 ^ bits ≤ mantissa) (most : mantissa < 2 ^ (bits + 1))
    (above : -1074 ≤ bits + exponent - 52) (excess : shift = bits - 52)
    (rounds : (ExtendedMantissa.mk mantissa false false >>> shift).roundedMantissa =
      significand * 2 ^ carry)
    (normal : IsNormal significand) :
    ∃ positive, roundWithAccuracy .binary64 .positive mantissa exponent .exact =
      .finite .positive significand (exponent + shift + carry) positive := by
  obtain ⟨full, fits⟩ := normal
  have first := shiftToTargetExponent_eq least most above excess
  have least' : 2 ^ (52 + carry) ≤ significand * 2 ^ carry := by
    rw [pow_add]
    gcongr
  have most' : significand * 2 ^ carry < 2 ^ (52 + carry + 1) := by
    rw [show 52 + carry + 1 = 53 + carry by omega, pow_add]
    gcongr
  have second := @shiftToTargetExponent_eq (significand * 2 ^ carry) (52 + carry) carry
    (exponent + shift) least' most' (by omega) (by omega)
  have final : (ExtendedMantissa.mk (significand * 2 ^ carry) false false >>> carry).mantissa =
      significand := by
    rw [mantissa_shiftRight]
    exact Nat.mul_div_cancel _ (Nat.two_pow_pos carry)
  have positive : 0 < significand := by omega
  refine ⟨positive, ?_⟩
  simp only [roundWithAccuracy, first, rounds, second, final, positive.ne', dite_false]

/-- A natural number is first given the bits that a mantissa has. -/
theorem ofNat_eq_roundWithAccuracy {n bits : ℕ} (least : 2 ^ bits ≤ n)
    (most : n < 2 ^ (bits + 1)) :
    UnpackedFloat.ofNat .binary64 n =
      roundWithAccuracy .binary64 .positive (n * 2 ^ (52 - bits)) (-(52 - bits : ℕ)) .exact := by
  have target := targetExponent_of_log2 0 least most (by omega)
  have amount : (0 - ((bits : ℤ) + 0 - 52)).toNat = 52 - bits := by omega
  have positive : compare (n : ℤ) 0 = .gt := by
    have := Nat.two_pow_pos bits
    rw [Int.compare_eq_gt]
    omega
  rw [UnpackedFloat.ofNat, UnpackedFloat.ofInt, UnpackedFloat.normalize, positive]
  simp only [UnpackedFloat.round, Int.toNat_natCast, target, decreaseExponent, amount,
    Nat.shiftLeft_eq]
  rw [zero_sub]

/-- A natural number with enough zeros behind the bits of a mantissa is a float itself. -/
theorem ofNat_eq_of_exact {n places significand : ℕ} (same : significand = n * 2 ^ places)
    (normal : IsNormal significand) :
    ∃ positive, UnpackedFloat.ofNat .binary64 n =
      .finite .positive significand (-places : ℤ) positive := by
  obtain ⟨full, fits⟩ := normal
  have nonzero : n ≠ 0 := by
    rintro rfl
    omega
  have least := Nat.log2_self_le nonzero
  have most := @Nat.lt_log2_self n
  generalize n.log2 = bits at least most
  have exact_bits : bits + places = 52 := by
    have lower : 2 ^ (bits + places) < 2 ^ 53 := by
      calc
        2 ^ (bits + places) = 2 ^ bits * 2 ^ places := pow_add ..
        _ ≤ n * 2 ^ places := by gcongr
        _ < 2 ^ 53 := by omega
    have upper : 2 ^ 52 < 2 ^ (bits + 1 + places) := by
      calc
        2 ^ 52 ≤ n * 2 ^ places := by omega
        _ < 2 ^ (bits + 1) * 2 ^ places := by gcongr
        _ = 2 ^ (bits + 1 + places) := (pow_add ..).symm
    have := (Nat.pow_lt_pow_iff_right (by norm_num)).mp lower
    have := (Nat.pow_lt_pow_iff_right (by norm_num)).mp upper
    omega
  have width : 52 - bits = places := by omega
  rw [ofNat_eq_roundWithAccuracy least most, width, ← same]
  have unshifted := @roundWithAccuracy_eq significand 52 0 significand 0 (-places) (by omega)
    (by omega) (by omega) rfl (by rw [pow_zero, mul_one]; rfl) ⟨full, fits⟩
  simpa using unshifted

/-- A natural number with more bits than a mantissa is rounded. -/
theorem ofNat_eq_of_roundsTo {n excess significand carry : ℕ} (least : 2 ^ (excess + 52) ≤ n)
    (most : n < 2 ^ (excess + 53))
    (rounds : RoundsTo (n / 2 ^ excess) (significand * 2 ^ carry))
    (normal : IsNormal significand) :
    ∃ positive, UnpackedFloat.ofNat .binary64 n =
      .finite .positive significand (excess + carry : ℕ) positive := by
  have whole : Approximates ⟨n, false, false⟩ n := by simp [Approximates]
  have rounded := (whole.shiftRight excess).roundedMantissa_eq rounds
  have none : 52 - (excess + 52) = 0 := by omega
  have shifted := @roundWithAccuracy_eq n (excess + 52) excess significand carry 0 least most
    (by omega) (by omega) rounded normal
  rw [ofNat_eq_roundWithAccuracy least most, none, pow_zero, mul_one, Nat.cast_zero, neg_zero]
  simpa using shifted

end Reckoner
