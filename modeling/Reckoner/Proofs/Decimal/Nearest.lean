import Reckoner.Operator
import Reckoner.Proofs.Decimal.Printed
import Reckoner.Proofs.Decimal.Rounding

/-! # The nearest float

What lies in the interval of a float is rounded to it. The bits of a float are its parts packed
together, so a whole number that lies in the interval of a float becomes this float and no other
(`Number.ofInt64_of_holds`).
-/

namespace Reckoner

open Float.Model Float.Model.UnpackedFloat

/-! ## The parts of a float -/

namespace Binary

variable {significand : ℕ} {exponent : ℤ}

theorem hiddenBit_eq : hiddenBit = 2 ^ 52 := by
  decide

theorem leastExponent_eq : leastExponent = -1074 :=
  rfl

/-- The parts that a finite float can have. -/
structure IsCanonical (significand : ℕ) (exponent : ℤ) : Prop where
  fits : significand < 2 ^ 53
  least : -1074 ≤ exponent
  most : exponent < 972
  full : -1074 < exponent → 2 ^ 52 ≤ significand

/-- A canonical number above the least exponent is normal. -/
theorem IsCanonical.isNormal (canonical : IsCanonical significand exponent)
    (above : -1074 < exponent) : IsNormal significand :=
  ⟨canonical.full above, canonical.fits⟩

/-- A canonical zero has the least exponent. -/
theorem IsCanonical.eq_least_of_zero (canonical : IsCanonical 0 exponent) : exponent = -1074 := by
  by_contra other
  have full := canonical.full (lt_of_le_of_ne canonical.least (Ne.symm other))
  omega

/-- The bits of a float without a sign. The hidden bit counts as one unit of the exponent. -/
def bits (significand : ℕ) (exponent : ℤ) : ℕ :=
  (exponent - leastExponent).toNat * hiddenBit + significand

/-- The first bit of a word is the sign. -/
theorem toNat_signBit {word : ℕ} (small : word < 2 ^ 64) :
    (word / 2 ^ 63 % 2 == 1).toNat = word / 2 ^ 63 := by
  have bit : word / 2 ^ 63 = 0 ∨ word / 2 ^ 63 = 1 := by omega
  rcases bit with zero | one
  · rw [zero]
    rfl
  · rw [one]
    rfl

/-- The four kinds of words, told by the exponent that is stored and by the fraction. -/
theorem ofBits_cases (word : ℕ) :
    (word / 2 ^ 52 % 2048 = 0 ∧
      ofBits word = .finite (word / 2 ^ 63 % 2 == 1) (word % 2 ^ 52) (-1074)) ∨
    (word / 2 ^ 52 % 2048 ≠ 0 ∧ word / 2 ^ 52 % 2048 < 2047 ∧
      ofBits word = .finite (word / 2 ^ 63 % 2 == 1) (2 ^ 52 + word % 2 ^ 52)
        ((word / 2 ^ 52 % 2048 : ℕ) - 1075)) ∨
    (word / 2 ^ 52 % 2048 = 2047 ∧ word % 2 ^ 52 = 0 ∧
      ofBits word = .infinite (word / 2 ^ 63 % 2 == 1)) ∨
    (word / 2 ^ 52 % 2048 = 2047 ∧ word % 2 ^ 52 ≠ 0 ∧ ofBits word = .undefined) := by
  unfold ofBits
  simp only [Nat.shiftRight_eq_div_pow, hiddenBit_eq, leastExponent_eq]
  by_cases subnormal : word / 2 ^ 52 % 2048 = 0
  · exact .inl ⟨subnormal, if_pos subnormal⟩
  rw [if_neg subnormal]
  by_cases normal : word / 2 ^ 52 % 2048 < 2047
  · refine .inr (.inl ⟨subnormal, normal, ?_⟩)
    rw [if_pos normal]
    congr 1
    omega
  rw [if_neg normal]
  have full : word / 2 ^ 52 % 2048 = 2047 := by omega
  by_cases whole : word % 2 ^ 52 = 0
  · exact .inr (.inr (.inl ⟨full, whole, if_pos whole⟩))
  · exact .inr (.inr (.inr ⟨full, whole, if_neg whole⟩))

/-- The word of a finite float is its sign and its canonical parts. -/
theorem ofBits_eq_finite {word : ℕ} {negative : Bool} (small : word < 2 ^ 64)
    (parts : ofBits word = .finite negative significand exponent) :
    IsCanonical significand exponent ∧
      word = negative.toNat * 2 ^ 63 + bits significand exponent := by
  have sign := toNat_signBit small
  unfold bits
  rw [hiddenBit_eq, leastExponent_eq]
  rcases ofBits_cases word with
    ⟨_, known⟩ | ⟨_, _, known⟩ | ⟨-, -, known⟩ | ⟨-, -, known⟩
  · obtain ⟨rfl, rfl, rfl⟩ := Binary.finite.inj (known.symm.trans parts)
    rw [sign]
    refine ⟨⟨?_, ?_, ?_, ?_⟩, ?_⟩ <;> omega
  · obtain ⟨rfl, rfl, rfl⟩ := Binary.finite.inj (known.symm.trans parts)
    rw [sign]
    refine ⟨⟨?_, ?_, ?_, ?_⟩, ?_⟩ <;> omega
  · cases known.symm.trans parts
  · cases known.symm.trans parts

/-- A word is packed of its exponent and its mantissa. -/
theorem toNat_packComponents (exponent : BitVec 11) (mantissa : BitVec 52) :
    (packComponents .binary64 .positive exponent mantissa).toNat =
      exponent.toNat * 2 ^ 52 + mantissa.toNat := by
  have joined : packComponents .binary64 .positive exponent mantissa =
      (0#1 ++ exponent) ++ mantissa := rfl
  rw [joined, BitVec.toNat_append, ← Nat.shiftLeft_add_eq_or_of_lt mantissa.isLt,
    BitVec.toNat_append, ← Nat.shiftLeft_add_eq_or_of_lt exponent.isLt, Nat.shiftLeft_eq,
    Nat.shiftLeft_eq]
  simp

/-- A float is packed into the bits of its parts. -/
theorem toNat_pack (canonical : IsCanonical significand exponent)
    (normal : IsNormal significand) (positive : 0 < significand) :
    (UnpackedFloat.pack .binary64 (.finite .positive significand exponent positive)).toNat =
      bits significand exponent := by
  have bias : Format.binary64.exponentBias = 1023 := by decide
  have width : 52 + 1 = Format.binary64.mantissaBits := rfl
  obtain ⟨full, fits⟩ := normal
  have least := canonical.least
  have most := canonical.most
  have log : significand.log2 = 52 := (Nat.log2_eq_iff positive.ne').mpr ⟨full, fits⟩
  have biased : ∃ stored : ℕ, (exponent + 1075).toNat = stored ∧ 0 < stored ∧ stored < 2047 :=
    ⟨_, rfl, by omega, by omega⟩
  obtain ⟨stored, same, _, small⟩ := biased
  have sum : (exponent + (1023 : ℕ) + (52 : ℕ)).toNat = stored := by omega
  rw [UnpackedFloat.pack]
  simp only [bias, sum, log]
  rw [if_neg (by omega), if_pos width, toNat_packComponents]
  simp only [BitVec.toNat_ofNat, bits, hiddenBit_eq, leastExponent_eq]
  omega

/-- A float is known by its sign and its parts. -/
theorem toBits_of_ofFloat {x : Float} {negative : Bool}
    (parts : ofFloat x = .finite negative significand exponent) :
    IsCanonical significand exponent ∧
      x.toBits.toNat = negative.toNat * 2 ^ 63 + bits significand exponent :=
  ofBits_eq_finite x.toBits.toNat_lt parts

end Binary

/-! ## Reading back -/

namespace Number

variable {x : Float} {significand n : ℕ} {exponent : ℤ}

/-- A natural number below 2^63 becomes the float that packs it. -/
theorem ofInt64_ofNat (fits : n < 2 ^ 63) :
    ofInt64 (Int64.ofNat n) = .ofModel (.pack (UnpackedFloat.ofNat .binary64 n)) := by
  have value := Int64.toInt_ofNat_of_lt fits
  have word : n.toUInt64.toNat = n := by
    have size : UInt64.size = 2 ^ 64 := rfl
    rw [Nat.toUInt64_eq, UInt64.toNat_ofNat_of_lt']
    omega
  rw [ofInt64, value, if_pos (Int.natCast_nonneg n), Int.toNat_natCast]
  have direct : n.toUInt64.toFloat =
      .ofModel (.pack (UnpackedFloat.ofNat .binary64 n.toUInt64.toNat)) := rfl
  rw [direct, word]

/-- A float has no more than its bits. -/
theorem eq_of_toBits {first second : Float} (same : first.toBits = second.toBits) :
    first = second := by
  obtain ⟨⟨bits, _⟩⟩ := first
  obtain ⟨⟨other, _⟩⟩ := second
  obtain rfl : bits = other := same
  rfl

/-- An integer becomes the float that it is rounded to. -/
theorem ofInt64_eq_of_ofNat (fits : n < 2 ^ 63)
    (parts : Binary.ofFloat x = .finite false significand exponent)
    (normal : IsNormal significand)
    (rounded : ∃ positive, UnpackedFloat.ofNat .binary64 n =
      .finite .positive significand exponent positive) :
    ofInt64 (Int64.ofNat n) = x := by
  obtain ⟨positive, rounded⟩ := rounded
  obtain ⟨canonical, word⟩ := Binary.toBits_of_ofFloat parts
  rw [Bool.toNat_false, zero_mul, zero_add] at word
  have packed := Binary.toNat_pack canonical normal positive
  apply eq_of_toBits
  rw [ofInt64_ofNat fits, rounded, ← UInt64.toNat_inj, word]
  exact packed

end Number

namespace RoundingInterval

variable {significand n zeros : ℕ}

/-- What lies in the interval of a significand rounds to it. -/
theorem roundsTo_of_holds (holds : (ofBinary significand zeros).Holds n) :
    RoundsTo (n / 2 ^ zeros) significand := by
  have unit : (0 : ℚ) < 2 ^ zeros := by positivity
  have near : (4 * significand : ℚ) ≤ (ofBinary significand zeros).low + 2 := by
    exact_mod_cast le_low_ofBinary significand zeros
  obtain ⟨low, high⟩ := bounds_of_holds holds
  rw [zpow_natCast, ← le_div_iff₀ unit, mul_div_assoc] at low
  rw [zpow_natCast, ← div_le_iff₀ unit, mul_div_assoc] at high
  push_cast at high
  refine ⟨by linarith, by linarith, fun odd => ?_⟩
  obtain ⟨low, high⟩ := strict_of_holds odd holds
  rw [zpow_natCast, ← lt_div_iff₀ unit, mul_div_assoc] at low
  rw [zpow_natCast, ← div_lt_iff₀ unit, mul_div_assoc] at high
  push_cast at high
  exact ⟨by linarith, by linarith⟩

/-- The ends of the interval bound four times the natural numbers in it. -/
theorem bounds_of_holds_natCast (holds : (ofBinary significand zeros).Holds n) :
    (ofBinary significand zeros).low * 2 ^ zeros ≤ 4 * n ∧
      4 * n ≤ (4 * significand + 2) * 2 ^ zeros := by
  obtain ⟨low, high⟩ := bounds_of_holds holds
  rw [zpow_natCast] at low high
  exact ⟨by exact_mod_cast low, by exact_mod_cast high⟩

/-- Below a power of two floats lie twice as dense. -/
theorem low_hiddenBit (zeros : ℕ) : (ofBinary (2 ^ 52) zeros).low = 2 ^ 54 - 1 := by
  have above : (-1074 : ℤ) < zeros := by omega
  simp [ofBinary, Binary.hiddenBit_eq, Binary.leastExponent_eq, above]

/-- A number in the interval of a float that has one bit less than the float lies between a power of
two and the float before it. -/
theorem roundsTo_carry_of_holds {excess : ℕ} (normal : IsNormal significand)
    (holds : (ofBinary significand (excess + 1 : ℕ)).Holds n) (small : n < 2 ^ (excess + 53)) :
    RoundsTo (n / 2 ^ excess) (significand * 2 ^ 1) := by
  have unit : (0 : ℚ) < 2 ^ excess := by positivity
  obtain ⟨from_low, -⟩ := bounds_of_holds_natCast holds
  have near := le_low_ofBinary significand (excess + 1 : ℕ)
  have power : (ofBinary significand (excess + 1 : ℕ)).low < 2 ^ 54 := by
    apply Nat.lt_of_mul_lt_mul_right (a := 2 ^ (excess + 1))
    calc
      _ ≤ 4 * n := from_low
      _ < 4 * 2 ^ (excess + 53) := by omega
      _ = 2 ^ 54 * 2 ^ (excess + 1) := by ring
  have full := normal.full
  obtain rfl : significand = 2 ^ 52 := by omega
  have at_least : ((2 ^ 54 - 1 : ℕ) : ℚ) * 2 ^ excess ≤ 2 * n := by
    have doubled : (2 ^ 54 - 1) * 2 ^ excess ≤ 2 * n := by
      rw [low_hiddenBit, pow_succ] at from_low
      omega
    exact_mod_cast doubled
  have at_most : (n : ℚ) < 2 ^ 53 * 2 ^ excess := by
    rw [add_comm, pow_add] at small
    exact_mod_cast small
  rw [← le_div_iff₀ unit, mul_div_assoc] at at_least
  rw [← div_lt_iff₀ unit] at at_most
  norm_num at at_least at_most
  refine ⟨?_, ?_, fun odd => ?_⟩
  · norm_num
    linarith
  · norm_num
    linarith
  · norm_num at odd

/-- A whole number in the interval of a float with zeros behind its bits is rounded to it. -/
theorem ofNat_eq_of_holds (some : 0 < zeros) (normal : IsNormal significand)
    (holds : (ofBinary significand zeros).Holds n) :
    ∃ positive, UnpackedFloat.ofNat .binary64 n =
      .finite .positive significand zeros positive := by
  obtain ⟨from_low, to_high⟩ := bounds_of_holds_natCast holds
  have near := le_low_ofBinary significand zeros
  have full := normal.full
  have fits := normal.fits
  have small : n < 2 ^ (zeros + 53) := by
    have room : (4 * significand + 2) * 2 ^ zeros < 2 ^ 55 * 2 ^ zeros := by
      gcongr
      omega
    rw [add_comm, pow_add]
    omega
  by_cases large : 2 ^ (zeros + 52) ≤ n
  · have rounds : RoundsTo (n / 2 ^ zeros) (significand * 2 ^ 0) := by
      rw [pow_zero, mul_one]
      exact roundsTo_of_holds holds
    exact ofNat_eq_of_roundsTo large small rounds normal
  · obtain ⟨excess, rfl⟩ := Nat.exists_eq_add_one.mpr some
    have least : 2 ^ (excess + 52) ≤ n := by
      have room : (2 ^ 54 - 2) * 2 ^ (excess + 1) ≤ 4 * n := by
        refine le_trans ?_ from_low
        gcongr
        omega
      rw [add_comm, pow_add]
      rw [pow_succ] at room
      omega
    have less : n < 2 ^ (excess + 53) := by
      rw [show excess + 53 = excess + 1 + 52 by omega]
      exact not_le.mp large
    exact ofNat_eq_of_roundsTo least less (roundsTo_carry_of_holds normal holds less) normal

end RoundingInterval

/-- A subnormal float is too small to be a whole number. -/
theorem Binary.IsCanonical.isNormal_of_eq {significand places n : ℕ}
    (canonical : IsCanonical significand (-places)) (positive : significand ≠ 0)
    (same : significand = n * 2 ^ places) : IsNormal significand := by
  apply canonical.isNormal
  by_contra least
  have many : 2 ^ 53 ≤ 2 ^ places := by
    apply Nat.pow_le_pow_right two_pos
    omega
  have nonzero : 0 < n := by
    apply Nat.pos_of_ne_zero
    rintro rfl
    omega
  have large : 2 ^ places ≤ n * 2 ^ places := Nat.le_mul_of_pos_left _ nonzero
  have fits := canonical.fits
  omega

/-- **Nearest.** A whole number in the interval of a float becomes this float. -/
theorem Number.ofInt64_of_holds {x : Float} {significand n : ℕ} {exponent : ℤ} (fits : n < 2 ^ 63)
    (parts : Binary.ofFloat x = .finite false significand exponent) (positive : significand ≠ 0)
    (holds : (RoundingInterval.ofBinary significand exponent).Holds n) :
    ofInt64 (Int64.ofNat n) = x := by
  obtain ⟨canonical, -⟩ := Binary.toBits_of_ofFloat parts
  by_cases fraction : exponent ≤ 0
  · obtain ⟨places, rfl⟩ := Int.exists_eq_neg_ofNat fraction
    have same := RoundingInterval.significand_eq_of_holds holds
    have normal := canonical.isNormal_of_eq positive same
    exact ofInt64_eq_of_ofNat fits parts normal (ofNat_eq_of_exact same normal)
  · obtain ⟨zeros, rfl⟩ := Int.eq_ofNat_of_zero_le (by omega : 0 ≤ exponent)
    have normal := canonical.isNormal (by omega)
    exact ofInt64_eq_of_ofNat fits parts normal
      (RoundingInterval.ofNat_eq_of_holds (by omega) normal holds)

end Reckoner
