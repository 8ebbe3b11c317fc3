import Reckoner.Proofs.Decimal.Nearest

/-! # Floats compared

Two floats are equal to a program when they have the same parts and are no NaN, or when both are
zeros (`Binary.beq_iff`). So this equality is symmetric and transitive, and what is equal to itself
is exactly what is no NaN. The parts of a float tell its bits as well, since there is only one NaN
(`Binary.ofFloat_inj`). Integers that are not negative become floats without a sign, and two of
these are equal only if they are the same (`Binary.eq_of_beq_of_isUnsigned`).
-/

namespace Reckoner.Binary

open Float.Model Float.Model.UnpackedFloat

/-! ## The bits of the parts -/

/-- The sign of a word is its first bit, -/
theorem toNat_unpackSign (word : UInt64) :
    (@unpackSign .binary64 word.toBitVec).toNat = word.toNat / 2 ^ 63 % 2 := by
  simp [unpackSign, Nat.shiftRight_eq_div_pow]

/-- the exponent the eleven bits that follow, -/
theorem toNat_unpackExponent (word : UInt64) :
    (@unpackExponent .binary64 word.toBitVec).toNat = word.toNat / 2 ^ 52 % 2048 := by
  simp [unpackExponent, Nat.shiftRight_eq_div_pow]

/-- and the mantissa the fifty-two bits that are left. -/
theorem toNat_unpackMantissa (word : UInt64) :
    (@unpackMantissa .binary64 word.toBitVec).toNat = word.toNat % 2 ^ 52 := by
  simp [unpackMantissa]

/-- The same parts in two forms. -/
@[simp]
def ofUnpacked : UnpackedFloat → Binary
  | .infinity sign => .infinite (sign == .negative)
  | .notANumber => .undefined
  | .zero sign => .finite (sign == .negative) 0 leastExponent
  | .finite sign mantissa exponent _ => .finite (sign == .negative) mantissa exponent

/-- A sign is negative if its bit is set. -/
theorem ofBitVec_beq_negative (bit : BitVec 1) :
    (Sign.ofBitVec bit == .negative) = (bit.toNat == 1) := by
  revert bit
  decide

/-- The hidden bit stands in front of the mantissa. -/
theorem toNat_hidden_append (mantissa : BitVec 52) :
    (1#1 ++ mantissa).toNat = 2 ^ 52 + mantissa.toNat := by
  rw [BitVec.toNat_append, ← Nat.shiftLeft_add_eq_or_of_lt mantissa.isLt]
  rfl

/-- Unpacking a float gives the parts that its bits stand for. -/
theorem ofFloat_eq (x : Float) : ofFloat x = ofUnpacked x.toModel.unpack := by
  have unpacked : x.toModel.unpack = UnpackedFloat.unpack .binary64 x.toBits.toBitVec := rfl
  have bias : Format.binary64.exponentBias = 1023 := by decide
  have full : @unpackExponent .binary64 x.toBits.toBitVec = -1#_ ↔
      x.toBits.toNat / 2 ^ 52 % 2048 = 2047 := by
    rw [← BitVec.toNat_inj, toNat_unpackExponent]
    rfl
  have least : @unpackExponent .binary64 x.toBits.toBitVec = 0#_ ↔
      x.toBits.toNat / 2 ^ 52 % 2048 = 0 := by
    rw [← BitVec.toNat_inj, toNat_unpackExponent]
    rfl
  have whole : @unpackMantissa .binary64 x.toBits.toBitVec = 0#_ ↔
      x.toBits.toNat % 2 ^ 52 = 0 := by
    rw [← BitVec.toNat_inj, toNat_unpackMantissa]
    rfl
  have sign : (Sign.ofBitVec (@unpackSign .binary64 x.toBits.toBitVec) == .negative) =
      (x.toBits.toNat / 2 ^ 63 % 2 == 1) := by
    rw [ofBitVec_beq_negative, toNat_unpackSign]
  rw [unpacked, UnpackedFloat.unpack, ofFloat]
  simp only [full, least, whole]
  rcases ofBits_cases x.toBits.toNat with
    ⟨subnormal, known⟩ | ⟨positive, small, known⟩ | ⟨special, zero, known⟩ | ⟨special, other, known⟩
  · rw [known, if_neg (by omega), if_pos subnormal]
    by_cases zero : x.toBits.toNat % 2 ^ 52 = 0
    · rw [dif_pos zero, ofUnpacked, sign, zero, leastExponent_eq]
    · rw [dif_neg zero]
      simp only [ofUnpacked, sign, toNat_unpackMantissa, toNat_unpackExponent, subnormal, bias]
      rfl
  · rw [known, if_neg (by omega), if_neg positive]
    simp only [ofUnpacked, sign, toNat_hidden_append, toNat_unpackMantissa, toNat_unpackExponent,
      bias]
    rfl
  · rw [known, if_pos special, if_pos zero, ofUnpacked, sign]
  · rw [known, if_pos special, if_neg other, ofUnpacked]

/-! ## The order -/

/-- A zero of either sign. -/
@[simp]
def IsZero : Binary → Prop
  | .finite _ significand _ => significand = 0
  | .infinite _ | .undefined => False

/-- Equal as numbers. -/
def Equals (first second : Binary) : Prop :=
  first ≠ .undefined ∧ (first = second ∨ first.IsZero ∧ second.IsZero)

/-- The order of the program takes two numbers as equal when they are equal in this sense. -/
theorem compare_eq_iff (u v : UnpackedFloat) :
    u.compare v = some .eq ↔ (ofUnpacked u).Equals (ofUnpacked v) := by
  have reflexive (sign : Sign) : compare sign sign = .eq := by cases sign <;> decide
  cases u with
  | notANumber => simp [UnpackedFloat.compare, Equals]
  | infinity sign =>
    cases v with
    | infinity sign' =>
      cases sign <;> cases sign' <;> simp [UnpackedFloat.compare, Equals, reflexive]
    | _ => cases sign <;> simp [UnpackedFloat.compare, Equals]
  | zero =>
    cases v with
    | zero => simp [UnpackedFloat.compare, Equals]
    | notANumber => simp [UnpackedFloat.compare, Equals]
    | infinity sign => cases sign <;> simp [UnpackedFloat.compare, Equals]
    | finite sign _ _ positive =>
      cases sign <;> simp [UnpackedFloat.compare, Equals, positive.ne, positive.ne']
  | finite sign _ _ positive =>
    cases v with
    | finite sign' =>
      cases sign <;> cases sign' <;>
        simp [UnpackedFloat.compare, Equals, positive.ne', Ordering.then_eq_eq, and_comm]
    | notANumber => simp [UnpackedFloat.compare, Equals]
    | infinity sign => cases sign <;> simp [UnpackedFloat.compare, Equals]
    | zero => cases sign <;> simp [UnpackedFloat.compare, Equals, positive.ne']

/-- Floats are equal to a program when they are equal as numbers. -/
theorem beq_iff {x y : Float} : (x == y) = true ↔ (ofFloat x).Equals (ofFloat y) := by
  have unpacked : (x == y) = (x.toModel.unpack.compare y.toModel.unpack == some .eq) := rfl
  rw [unpacked, beq_iff_eq, compare_eq_iff, ofFloat_eq, ofFloat_eq]

/-- A float is a NaN if its bits stand for no number. -/
theorem isNaN_iff {x : Float} : x.isNaN = true ↔ ofFloat x = .undefined := by
  have unpacked : x.isNaN = x.toModel.unpack.isNaN := rfl
  rw [unpacked, ofFloat_eq]
  cases x.toModel.unpack <;> simp [UnpackedFloat.isNaN]

namespace Equals

variable {first second third : Binary}

/-- Numbers are equal both ways. -/
theorem symm (same : first.Equals second) : second.Equals first := by
  obtain ⟨number, rfl | ⟨zero, other_zero⟩⟩ := same
  · exact ⟨number, .inl rfl⟩
  · refine ⟨?_, .inr ⟨other_zero, zero⟩⟩
    rintro rfl
    exact other_zero

/-- Equality is handed on. -/
theorem trans (same : first.Equals second) (next : second.Equals third) : first.Equals third := by
  obtain ⟨number, rfl | ⟨zero, other_zero⟩⟩ := same
  · exact next
  · obtain ⟨-, rfl | ⟨-, last_zero⟩⟩ := next
    · exact ⟨number, .inr ⟨zero, other_zero⟩⟩
    · exact ⟨number, .inr ⟨zero, last_zero⟩⟩

/-- Everything but a NaN equals itself. -/
theorem refl_iff : first.Equals first ↔ first ≠ .undefined :=
  ⟨fun same => same.1, fun number => ⟨number, .inl rfl⟩⟩

end Equals

/-! ## Bits -/

variable {x y : Float}

/-- The bits of the one NaN that there is. -/
def undefinedBits : ℕ :=
  2047 * 2 ^ 52 + 2 ^ 51

/-- The sign of an infinity tells all its bits. -/
theorem ofBits_eq_infinite {word : ℕ} {negative : Bool} (small : word < 2 ^ 64)
    (parts : ofBits word = .infinite negative) :
    word = negative.toNat * 2 ^ 63 + 2047 * 2 ^ 52 := by
  rcases ofBits_cases word with
    ⟨-, known⟩ | ⟨-, -, known⟩ | ⟨_, _, known⟩ | ⟨-, -, known⟩
  · cases known.symm.trans parts
  · cases known.symm.trans parts
  · obtain rfl := Binary.infinite.inj (known.symm.trans parts)
    rw [toNat_signBit small]
    omega
  · cases known.symm.trans parts

/-- A word that stands for no number has all bits of the exponent and some of the fraction. -/
theorem ofBits_eq_undefined {word : ℕ} (parts : ofBits word = .undefined) :
    word / 2 ^ 52 % 2048 = 2047 ∧ word % 2 ^ 52 ≠ 0 := by
  rcases ofBits_cases word with
    ⟨-, known⟩ | ⟨-, -, known⟩ | ⟨-, -, known⟩ | ⟨full, fraction, -⟩
  · cases known.symm.trans parts
  · cases known.symm.trans parts
  · cases known.symm.trans parts
  · exact ⟨full, fraction⟩

/-- All floats that are no number have the same bits. -/
theorem toBits_of_undefined (parts : ofFloat x = .undefined) :
    x.toBits.toNat = undefinedBits := by
  obtain ⟨biased, fraction⟩ := ofBits_eq_undefined parts
  have full : @unpackExponent .binary64 x.toBits.toBitVec = -1#_ := by
    rw [← BitVec.toNat_inj, toNat_unpackExponent, biased]
    rfl
  have some : @unpackMantissa .binary64 x.toBits.toBitVec ≠ 0#_ := by
    rw [ne_eq, ← BitVec.toNat_inj, toNat_unpackMantissa]
    exact fraction
  have word : x.toBits.toBitVec = packedNaN .binary64 := x.toModel.valid.eq_packedNaN full some
  calc
    x.toBits.toNat = (packedNaN .binary64).toNat := congrArg BitVec.toNat word
    _ = undefinedBits := by decide

/-- **One NaN.** The parts of a float tell its bits. -/
theorem ofFloat_inj (same : ofFloat x = ofFloat y) : x = y := by
  apply Number.eq_of_toBits
  rw [← UInt64.toNat_inj]
  cases parts : ofFloat x with
  | finite negative significand exponent =>
    rw [(toBits_of_ofFloat parts).2, (toBits_of_ofFloat (same.symm.trans parts)).2]
  | infinite negative =>
    rw [ofBits_eq_infinite x.toBits.toNat_lt parts,
      ofBits_eq_infinite y.toBits.toNat_lt (same.symm.trans parts)]
  | undefined => rw [toBits_of_undefined parts, toBits_of_undefined (same.symm.trans parts)]

/-! ## Floats without a sign -/

/-- A number whose sign bit is clear. -/
def IsUnsigned : Binary → Prop
  | .finite negative _ _ | .infinite negative => negative = false
  | .undefined => False

/-- The greatest word that is no NaN and has no sign is that of the infinity. -/
theorem isUnsigned_ofBits {word : ℕ} (most : word ≤ 2047 * 2 ^ 52) : (ofBits word).IsUnsigned := by
  have sign : (word / 2 ^ 63 % 2 == 1) = false := by
    rw [beq_eq_false_iff_ne]
    omega
  rcases ofBits_cases word with
    ⟨-, known⟩ | ⟨-, -, known⟩ | ⟨-, -, known⟩ | ⟨_, _, -⟩
  · rw [known, sign, IsUnsigned]
  · rw [known, sign, IsUnsigned]
  · rw [known, sign, IsUnsigned]
  · omega

/-- The word of the infinity has all bits of the exponent and none of the fraction. -/
theorem toNat_packedInfinity :
    (packedInfinity .binary64 .positive).toNat = 2047 * 2 ^ 52 := by
  decide

/-- A positive number is packed into a word without a sign, whatever its parts are. -/
theorem toNat_pack_le {significand : ℕ} {exponent : ℤ} (positive : 0 < significand) :
    (UnpackedFloat.pack .binary64 (.finite .positive significand exponent positive)).toNat ≤
      2047 * 2 ^ 52 := by
  have width : 2 ^ Format.binary64.exponentBits = 2048 := rfl
  have fraction := (BitVec.ofNat 52 significand).isLt
  rw [UnpackedFloat.pack]
  simp only [width]
  split
  case isTrue => exact toNat_packedInfinity.le
  case isFalse small =>
    split
    · rw [toNat_packComponents, BitVec.toNat_ofNat, Nat.mod_eq_of_lt (by omega)]
      omega
    · rw [toNat_packComponents, BitVec.toNat_ofNat, Nat.zero_mod, zero_mul, zero_add]
      omega

/-- A natural number is unpacked as a zero or as a positive number. -/
theorem ofNat_cases (n : ℕ) : UnpackedFloat.ofNat .binary64 n = .zero .positive ∨
    ∃ significand exponent positive,
      UnpackedFloat.ofNat .binary64 n = .finite .positive significand exponent positive := by
  have rounded (mantissa : ℕ) (exponent : ℤ) :
      roundWithAccuracy .binary64 .positive mantissa exponent .exact = .zero .positive ∨
      ∃ significand exponent' positive,
        roundWithAccuracy .binary64 .positive mantissa exponent .exact =
          .finite .positive significand exponent' positive := by
    rw [roundWithAccuracy]
    simp only
    split
    case isTrue => exact .inl rfl
    case isFalse nonzero => exact .inr ⟨_, _, Nat.pos_of_ne_zero nonzero, rfl⟩
  rw [UnpackedFloat.ofNat, UnpackedFloat.ofInt, UnpackedFloat.normalize]
  split
  case h_1 negative =>
    rw [Int.compare_eq_lt] at negative
    omega
  case h_2 => exact .inl rfl
  case h_3 => exact rounded _ _

/-- An integer that is not negative becomes a number without a sign. -/
theorem isUnsigned_ofInt64 {n : Int64} (nonnegative : 0 ≤ n.toInt) :
    (ofFloat (Number.ofInt64 n)).IsUnsigned := by
  have direct : n.toInt.toNat.toUInt64.toFloat =
      .ofModel (.pack (UnpackedFloat.ofNat .binary64 n.toInt.toNat.toUInt64.toNat)) := rfl
  rw [Number.ofInt64, if_pos nonnegative, direct]
  apply isUnsigned_ofBits
  rcases ofNat_cases n.toInt.toNat.toUInt64.toNat with zero | ⟨_, _, positive, rounded⟩
  · rw [zero]
    decide
  · rw [rounded]
    exact toNat_pack_le positive

/-- The two zeros. -/
theorem ofFloat_of_isZero {x : Float} (zero : (ofFloat x).IsZero) :
    ∃ negative, ofFloat x = .finite negative 0 leastExponent := by
  cases parts : ofFloat x with
  | finite negative significand exponent =>
    rw [parts] at zero
    obtain rfl : significand = 0 := zero
    exact ⟨negative, by rw [(toBits_of_ofFloat parts).1.eq_least_of_zero, leastExponent_eq]⟩
  | _ => simp [parts] at zero

/-- Numbers without a sign are equal to a program only when they are the same. -/
theorem eq_of_beq_of_isUnsigned {x y : Float} (unsigned : (ofFloat x).IsUnsigned)
    (other_unsigned : (ofFloat y).IsUnsigned) (same : (x == y) = true) : x = y := by
  apply ofFloat_inj
  obtain ⟨-, parts | ⟨zero, other_zero⟩⟩ := beq_iff.mp same
  · exact parts
  · obtain ⟨negative, parts⟩ := ofFloat_of_isZero zero
    obtain ⟨negative', parts'⟩ := ofFloat_of_isZero other_zero
    rw [parts] at unsigned
    rw [parts'] at other_unsigned
    obtain rfl : negative = false := unsigned
    obtain rfl : negative' = false := other_unsigned
    rw [parts, parts']

/-- A number without a sign is a number. -/
theorem IsUnsigned.ne_undefined {binary : Binary} (unsigned : binary.IsUnsigned) :
    binary ≠ .undefined := by
  rintro rfl
  exact unsigned

end Reckoner.Binary
