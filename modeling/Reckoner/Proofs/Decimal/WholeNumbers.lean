import Reckoner.Proofs.Decimal.Nearest

/-! # Whole numbers and their texts

A float without a sign that is a whole number is shown by digits alone, and if it lies below 2^63
the integer that these write is one of 64 bits and becomes the float again
(`Decimal.floatText_of_isWhole`). Every other float is shown with a minus sign in front, with a
point, or by a name (`Decimal.floatText_of_not_isWhole`).
-/

namespace Reckoner

/-- A float is a natural number, and its sign bit is clear. -/
def Binary.IsWhole (binary : Binary) (n : ℕ) : Prop :=
  ∃ significand exponent, binary = .finite false significand exponent ∧
    (significand : ℚ) * 2 ^ exponent = n

namespace RoundingInterval

variable {significand n zeros : ℕ}

/-- What rounds to a float below 2^63 lies below 2^63 as well. -/
theorem lt_of_holds (normal : IsNormal significand) (small : significand * 2 ^ zeros < 2 ^ 63)
    (holds : (ofBinary significand zeros).Holds n) : n < 2 ^ 63 := by
  obtain ⟨full, fits⟩ := normal
  obtain ⟨-, to_high⟩ := bounds_of_holds_natCast holds
  have few : zeros < 11 := by
    have power : 2 ^ (52 + zeros) < 2 ^ 63 := by
      calc
        2 ^ (52 + zeros) = 2 ^ 52 * 2 ^ zeros := pow_add ..
        _ ≤ significand * 2 ^ zeros := by gcongr
        _ < 2 ^ 63 := small
    have := (Nat.pow_lt_pow_iff_right (by norm_num)).mp power
    omega
  have room : (4 * significand + 2) * 2 ^ zeros ≤ (2 ^ 55 - 2) * 2 ^ 10 := by
    gcongr
    · omega
    · norm_num
    · omega
  omega

/-- What rounds to a float from 2^63 on does not lie below 2^63, except for this first one, whose
interval reaches to both sides. -/
theorem le_of_holds (normal : IsNormal significand)
    (large : 2 ^ 63 ≤ significand * 2 ^ zeros) (other : significand = 2 ^ 52 → zeros ≠ 11)
    (holds : (ofBinary significand zeros).Holds n) : 2 ^ 63 ≤ n := by
  obtain ⟨full, fits⟩ := normal
  obtain ⟨from_low, -⟩ := bounds_of_holds_natCast holds
  have near := le_low_ofBinary significand zeros
  have many : 11 ≤ zeros := by
    have power : 2 ^ 63 < 2 ^ (53 + zeros) := by
      calc
        2 ^ 63 ≤ significand * 2 ^ zeros := large
        _ < 2 ^ 53 * 2 ^ zeros := by gcongr
        _ = 2 ^ (53 + zeros) := (pow_add ..).symm
    have := (Nat.pow_lt_pow_iff_right (by norm_num)).mp power
    omega
  by_cases first : zeros = 11
  · subst first
    have above : significand ≠ 2 ^ 52 := fun same => other same rfl
    omega
  · have room : (2 ^ 54 - 2) * 2 ^ 12 ≤ 4 * n := by
      refine le_trans ?_ from_low
      gcongr
      · omega
      · norm_num
      · omega
    omega

end RoundingInterval

namespace Decimal

/-- Different numbers have different digits. -/
theorem digits_injective {first second : ℕ} (same : digits first = digits second) :
    first = second := by
  have values := congrArg (fun chars => Nat.ofDigitChars 10 chars 0) same
  simpa [digits, Nat.ofDigitChars_ten_toDigits] using values

/-- The least float that is no 64-bit integer is shown by a number that is none either. -/
theorem magnitudeChars_two_pow :
    magnitudeChars (2 ^ 52) 11 = digits 9223372036854776000 := by
  decide +kernel

/-- The digits that show a float write a 64-bit integer if and only if the float is one. -/
theorem lt_iff_of_magnitudeChars {significand value n : ℕ} {exponent : ℤ}
    (canonical : Binary.IsCanonical significand exponent)
    (whole : (significand : ℚ) * 2 ^ exponent = value)
    (shown : magnitudeChars significand exponent = digits n)
    (holds : (RoundingInterval.ofBinary significand exponent).Holds n) :
    n < 2 ^ 63 ↔ value < 2 ^ 63 := by
  by_cases fraction : exponent ≤ 0
  · have same := RoundingInterval.center_eq_of_holds fraction holds
    rw [RoundingInterval.center_ofBinary, whole] at same
    rw [Nat.cast_injective same]
  · obtain ⟨zeros, rfl⟩ := Int.eq_ofNat_of_zero_le (by omega : 0 ≤ exponent)
    have normal := canonical.isNormal (by omega)
    have product : significand * 2 ^ zeros = value := by
      rw [zpow_natCast] at whole
      exact_mod_cast whole
    rw [← product]
    constructor
    · intro small
      by_contra large
      by_cases special : significand = 2 ^ 52 ∧ zeros = 11
      · obtain ⟨rfl, rfl⟩ := special
        have same := digits_injective (magnitudeChars_two_pow.symm.trans shown)
        omega
      · have above := RoundingInterval.le_of_holds normal (not_lt.mp large)
          (fun same last => special ⟨same, last⟩) holds
        omega
    · intro small
      exact RoundingInterval.lt_of_holds normal small holds

/-- The characters of the text of a float show its bits. -/
theorem toList_floatText (x : Float) : (floatText x).toList = binaryChars (.ofFloat x) :=
  String.toList_ofList

/-- The zero without a sign. -/
theorem ofInt64_zero_of_ofFloat {x : Float} {exponent : ℤ}
    (parts : Binary.ofFloat x = .finite false 0 exponent) : Number.ofInt64 (Int64.ofNat 0) = x := by
  obtain ⟨canonical, word⟩ := Binary.toBits_of_ofFloat parts
  rw [Bool.toNat_false, zero_mul, zero_add] at word
  have zero : (Number.ofInt64 (Int64.ofNat 0)).toBits = 0 := by decide
  apply Number.eq_of_toBits
  rw [zero, ← UInt64.toNat_inj, word, canonical.eq_least_of_zero]
  decide

/-- **Whole numbers.** A whole number is shown by the digits of an integer. It is one of 64 bits if
and only if the number is below 2^63, and then it becomes the number again. -/
theorem floatText_of_isWhole {x : Float} {value : ℕ} (whole : (Binary.ofFloat x).IsWhole value) :
    ∃ n, (floatText x).toList = digits n ∧ (n < 2 ^ 63 ↔ value < 2 ^ 63) ∧
      (n < 2 ^ 63 → Number.ofInt64 (Int64.ofNat n) = x) := by
  obtain ⟨significand, exponent, parts, same⟩ := whole
  obtain ⟨canonical, -⟩ := Binary.toBits_of_ofFloat parts
  have chars : (floatText x).toList = magnitudeChars significand exponent := by
    rw [toList_floatText, parts]
    rfl
  rw [chars]
  by_cases positive : significand = 0
  · subst positive
    have zero : value = 0 := by
      rw [Nat.cast_zero, zero_mul] at same
      exact_mod_cast same.symm
    exact ⟨0, rfl, by rw [zero], fun _ => ofInt64_zero_of_ofFloat parts⟩
  · rcases magnitudeChars_of_ne_zero positive exponent with ⟨-, n, shown, holds⟩ | ⟨fraction, -⟩
    · exact ⟨n, shown, lt_iff_of_magnitudeChars canonical same shown holds,
        fun fits => Number.ofInt64_of_holds fits parts positive holds⟩
    · exact absurd ⟨value, same⟩ fraction

/-- **All other numbers.** What is no whole number without a sign is shown with a minus sign in
front, or with a point or the first letter of a name. -/
theorem floatText_of_not_isWhole {x : Float} (other : ∀ n, ¬ (Binary.ofFloat x).IsWhole n) :
    (floatText x).toList.head? = some '-' ∨ ∃ c ∈ (floatText x).toList, c ∈ ['.', 'i', 'N'] := by
  rw [toList_floatText]
  cases parts : Binary.ofFloat x with
  | finite negative significand exponent =>
    cases negative with
    | true => exact .inl rfl
    | false =>
      rw [parts] at other
      have fraction : ¬ ∃ n : ℕ, (significand : ℚ) * 2 ^ exponent = n := by
        rintro ⟨n, same⟩
        exact other n ⟨significand, exponent, rfl, same⟩
      have positive : significand ≠ 0 := by
        rintro rfl
        exact fraction ⟨0, by simp⟩
      rcases magnitudeChars_of_ne_zero positive exponent with ⟨whole, -⟩ | ⟨-, point⟩
      · exact absurd whole fraction
      · exact .inr ⟨'.', point, by simp⟩
  | infinite negative =>
    cases negative with
    | true => exact .inl rfl
    | false => exact .inr ⟨'i', by simp [binaryChars, signed], by simp⟩
  | undefined => exact .inr ⟨'N', by simp [binaryChars], by simp⟩

end Decimal

end Reckoner
