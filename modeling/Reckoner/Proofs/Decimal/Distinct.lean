import Reckoner.Proofs.Decimal.Comparison
import Reckoner.Proofs.Decimal.WholeNumbers

/-! # No two floats have the same text

A text has the digits of one number only (`Decimal.toRat_eq_of_chars`), this number lies in the
interval of the float that is shown, and the intervals of two floats have nothing in common
(`RoundingInterval.eq_of_holds`). So the text of a float tells its bits (`Decimal.floatText_inj`).
The characters of a text are few (`Decimal.mem_floatText`); there is neither a blank nor a
parenthesis among them.
-/

namespace Reckoner

/-! ## Characters -/

namespace Decimal

/-- The digits of a number are decimal digits. -/
theorem isDigit_of_mem_digits {n : ℕ} {c : Char} (inside : c ∈ digits n) : c.isDigit = true :=
  Nat.isDigit_of_mem_toDigits (by decide) (by decide) inside

/-- There is no point among digits. -/
theorem point_notMem {chars : List Char} (decimal : ∀ c ∈ chars, c.isDigit = true) :
    '.' ∉ chars := by
  intro inside
  exact absurd (decimal '.' inside) (by decide)

/-- The digits behind the point, as many as there are places. -/
def fraction (places n : ℕ) : List Char :=
  (digits n).leftpad places '0'

/-- A decimal with places is its whole part, a point and its fraction. -/
theorem chars_of_neg {d : Decimal} (negative : d.exponent < 0) :
    d.chars = digits (d.coefficient / 10 ^ (-d.exponent).toNat) ++
      '.' :: fraction (-d.exponent).toNat (d.coefficient % 10 ^ (-d.exponent).toNat) := by
  have fewer : ¬ 0 ≤ d.exponent := by omega
  simp [chars, fewer, fraction]

/-- The places of a fraction are digits. -/
theorem isDigit_of_mem_fraction {places n : ℕ} {c : Char} (inside : c ∈ fraction places n) :
    c.isDigit = true := by
  rcases List.mem_append.mp inside with zero | digit
  · rw [(List.mem_replicate.mp zero).2]
    decide
  · exact isDigit_of_mem_digits digit

/-- The places of a fraction are read as the number that they were made of. -/
theorem ofDigitChars_fraction (places n : ℕ) :
    Nat.ofDigitChars 10 (fraction places n) 0 = n := by
  rw [fraction, List.leftpad, Nat.ofDigitChars_append, Nat.ofDigitChars_replicate_zero, mul_zero]
  exact Nat.ofDigitChars_ten_toDigits

/-- A fraction fills its places. -/
theorem length_fraction {places n : ℕ} (some : 0 < places) (below : n < 10 ^ places) :
    (fraction places n).length = places := by
  have short : (digits n).length ≤ places :=
    (Nat.length_toDigits_le_iff (by decide) some).mpr below
  rw [fraction, List.length_leftpad, max_eq_left short]

/-- A decimal is written with digits and a point. -/
theorem isDigit_or_point_of_mem_chars {d : Decimal} {c : Char} (inside : c ∈ d.chars) :
    c.isDigit = true ∨ c = '.' := by
  by_cases whole : 0 ≤ d.exponent
  · rw [chars_of_nonneg whole] at inside
    exact .inl (isDigit_of_mem_digits inside)
  · rw [chars_of_neg (by omega), List.mem_append, List.mem_cons] at inside
    rcases inside with digit | rfl | digit
    · exact .inl (isDigit_of_mem_digits digit)
    · exact .inr rfl
    · exact .inl (isDigit_of_mem_fraction digit)

/-- No decimal is written as nothing. -/
theorem chars_ne_nil (d : Decimal) : d.chars ≠ [] := by
  by_cases whole : 0 ≤ d.exponent
  · rw [chars_of_nonneg whole]
    exact Nat.toDigits_ne_nil
  · rw [chars_of_neg (by omega)]
    simp

/-- With places behind the point, the digits tell how many there are and what the coefficient is. -/
theorem eq_of_chars_of_neg {d other : Decimal} (negative : d.exponent < 0)
    (other_negative : other.exponent < 0) (same : d.chars = other.chars) : d = other := by
  obtain ⟨coefficient, exponent⟩ := d
  obtain ⟨coefficient', exponent'⟩ := other
  obtain ⟨places, rfl⟩ := Int.exists_eq_neg_ofNat negative.le
  obtain ⟨places', rfl⟩ := Int.exists_eq_neg_ofNat other_negative.le
  have some : 0 < places := by simpa using negative
  have other_some : 0 < places' := by simpa using other_negative
  rw [chars_of_neg negative, chars_of_neg other_negative,
    List.append_cons_inj_of_notMem (point_notMem fun _ => isDigit_of_mem_digits)
      (point_notMem fun _ => isDigit_of_mem_fraction)] at same
  simp only [neg_neg, Int.toNat_natCast] at same
  obtain ⟨whole, -, fractions⟩ := same
  have many := congrArg List.length fractions
  rw [length_fraction some (Nat.mod_lt _ (by positivity)),
    length_fraction other_some (Nat.mod_lt _ (by positivity))] at many
  subst many
  have values := congrArg (fun chars => Nat.ofDigitChars 10 chars 0) fractions
  simp only [ofDigitChars_fraction] at values
  rw [← Nat.div_add_mod coefficient (10 ^ places), digits_injective whole, values,
    Nat.div_add_mod]

/-- **One number.** Decimals that are written alike are the same number. -/
theorem toRat_eq_of_chars {d other : Decimal} (same : d.chars = other.chars) :
    d.toRat = other.toRat := by
  have point {first second : Decimal} (whole : 0 ≤ first.exponent) (places : second.exponent < 0) :
      first.chars ≠ second.chars := by
    intro same
    have inside := point_mem_chars places
    rw [← same, chars_of_nonneg whole] at inside
    exact point_notMem (fun _ => isDigit_of_mem_digits) inside
  by_cases whole : 0 ≤ d.exponent
  · by_cases other_whole : 0 ≤ other.exponent
    · rw [chars_of_nonneg whole, chars_of_nonneg other_whole] at same
      rw [toRat_of_nonneg whole, toRat_of_nonneg other_whole, digits_injective same]
    · exact absurd same (point whole (by omega))
  · by_cases other_whole : 0 ≤ other.exponent
    · exact absurd same.symm (point other_whole (by omega))
    · rw [eq_of_chars_of_neg (by omega) (by omega) same]

end Decimal

/-! ## Intervals -/

namespace RoundingInterval

open Binary (IsCanonical)

variable {significand other step : ℕ} {exponent exponent' : ℤ} {point : ℚ}

/-- A float with all its bits reaches down no further than a quarter of its last bit below the power
of two that it starts from. -/
theorem le_low_of_full (above : -1074 < exponent) (full : 2 ^ 52 ≤ significand) :
    2 ^ 54 - 1 ≤ (ofBinary significand exponent).low := by
  simp only [ofBinary, Binary.hiddenBit_eq, Binary.leastExponent_eq]
  split <;> omega

/-- The interval of a float ends where that of a greater one begins, or before. Between even floats
there is a gap. -/
theorem high_le_low (lower : IsCanonical significand exponent)
    (upper : IsCanonical other (exponent + step)) (less : step = 0 → significand < other) :
    4 * significand + 2 ≤ (ofBinary other (exponent + step)).low * 2 ^ step ∧
      (significand % 2 = 0 → other % 2 = 0 →
        4 * significand + 2 < (ofBinary other (exponent + step)).low * 2 ^ step) := by
  have near := le_low_ofBinary other (exponent + step)
  cases step with
  | zero =>
    have before := less rfl
    rw [pow_zero, mul_one]
    omega
  | succ step =>
    have least := lower.least
    have fits := lower.fits
    have above : -1074 < exponent + (step + 1 : ℕ) := by omega
    have low := le_low_of_full above (upper.full above)
    have doubled : (2 ^ 54 - 1) * 2 ≤
        (ofBinary other (exponent + (step + 1 : ℕ))).low * 2 ^ (step + 1) := by
      apply Nat.mul_le_mul low
      exact Nat.le_self_pow (Nat.succ_ne_zero step) 2
    omega

/-- A point in the interval of a float is in the interval of no greater one. -/
theorem not_holds_of_lt (lower : IsCanonical significand exponent)
    (upper : IsCanonical other (exponent + step)) (less : step = 0 → significand < other)
    (holds : (ofBinary significand exponent).Holds point) :
    ¬ (ofBinary other (exponent + step)).Holds point := by
  intro other_holds
  obtain ⟨meet, apart⟩ := high_le_low lower upper less
  have unit : (0 : ℚ) < 2 ^ exponent := by positivity
  have units (low : ℕ) : (low : ℚ) * 2 ^ (exponent + step) =
      (low * 2 ^ step : ℕ) * 2 ^ exponent := by
    rw [zpow_add₀ two_ne_zero, zpow_natCast]
    push_cast
    ring
  obtain ⟨-, to_high⟩ := bounds_of_holds holds
  obtain ⟨from_low, -⟩ := bounds_of_holds other_holds
  rw [units] at from_low
  have touch := le_of_mul_le_mul_right (from_low.trans to_high) unit
  rcases Nat.mod_two_eq_zero_or_one significand with even | odd
  · rcases Nat.mod_two_eq_zero_or_one other with other_even | other_odd
    · have gap := apart even other_even
      have closed := Nat.cast_le.mp touch
      omega
    · obtain ⟨strict, -⟩ := strict_of_holds other_odd other_holds
      rw [units] at strict
      have past := Nat.cast_lt.mp (lt_of_mul_lt_mul_right (strict.trans_le to_high) unit.le)
      omega
  · obtain ⟨-, strict⟩ := strict_of_holds odd holds
    have past := Nat.cast_lt.mp (lt_of_mul_lt_mul_right (from_low.trans_lt strict) unit.le)
    omega

/-- **Apart.** No point is in the intervals of two floats. -/
theorem eq_of_holds (first : IsCanonical significand exponent)
    (second : IsCanonical other exponent') (holds : (ofBinary significand exponent).Holds point)
    (other_holds : (ofBinary other exponent').Holds point) :
    significand = other ∧ exponent = exponent' := by
  rcases lt_trichotomy exponent exponent' with before | rfl | behind
  · obtain ⟨step, rfl⟩ := Int.le.dest before.le
    have some : step = 0 → significand < other := by omega
    exact absurd other_holds (not_holds_of_lt first second some holds)
  · rcases lt_trichotomy significand other with less | rfl | more
    · have same : exponent = exponent + (0 : ℕ) := by simp
      rw [same] at second other_holds
      exact absurd other_holds (not_holds_of_lt first second (fun _ => less) holds)
    · exact ⟨rfl, rfl⟩
    · have same : exponent = exponent + (0 : ℕ) := by simp
      rw [same] at first holds
      exact absurd holds (not_holds_of_lt second first (fun _ => more) other_holds)
  · obtain ⟨step, rfl⟩ := Int.le.dest behind.le
    have some : step = 0 → other < significand := by omega
    exact absurd holds (not_holds_of_lt second first some other_holds)

end RoundingInterval

/-! ## Texts -/

namespace Decimal

open Binary (IsCanonical)

variable {significand other : ℕ} {exponent exponent' : ℤ}

/-- The decimal that shows a float without its sign. -/
def shown (significand : ℕ) (exponent : ℤ) : Decimal :=
  if significand = 0 then ⟨0, 0⟩ else (RoundingInterval.ofBinary significand exponent).shortest

/-- A magnitude is written as the decimal that is shown for it. -/
theorem magnitudeChars_eq (significand : ℕ) (exponent : ℤ) :
    magnitudeChars significand exponent = (shown significand exponent).chars := by
  unfold magnitudeChars shown
  split <;> rfl

/-- The decimal that is shown lies in the interval of its float. -/
theorem holds_shown (positive : significand ≠ 0) (exponent : ℤ) :
    (RoundingInterval.ofBinary significand exponent).Holds (shown significand exponent).toRat := by
  rw [shown, if_neg positive]
  exact RoundingInterval.holds_shortest (RoundingInterval.isProper_ofBinary positive)

/-- Only zero is shown as zero. -/
theorem toRat_shown_eq_zero_iff (exponent : ℤ) :
    (shown significand exponent).toRat = 0 ↔ significand = 0 := by
  constructor
  · intro zero
    by_contra positive
    have unit : (0 : ℚ) < 2 ^ exponent := by positivity
    have near := RoundingInterval.le_low_ofBinary significand exponent
    have above : 0 < (RoundingInterval.ofBinary significand exponent).low := by omega
    obtain ⟨from_low, -⟩ := RoundingInterval.bounds_of_holds (holds_shown positive exponent)
    rw [zero, mul_zero] at from_low
    apply not_lt_of_ge from_low
    positivity
  · rintro rfl
    simp [shown, toRat]

/-- Two canonical magnitudes are written alike only if they have the same parts. -/
theorem magnitudeChars_inj (first : IsCanonical significand exponent)
    (second : IsCanonical other exponent')
    (same : magnitudeChars significand exponent = magnitudeChars other exponent') :
    significand = other ∧ exponent = exponent' := by
  rw [magnitudeChars_eq, magnitudeChars_eq] at same
  have number := toRat_eq_of_chars same
  by_cases zero : significand = 0
  · have other_zero : other = 0 := by
      rw [← toRat_shown_eq_zero_iff exponent', ← number, toRat_shown_eq_zero_iff]
      exact zero
    subst zero other_zero
    exact ⟨rfl, first.eq_least_of_zero.trans second.eq_least_of_zero.symm⟩
  · have other_positive : other ≠ 0 := by
      rw [ne_eq, ← toRat_shown_eq_zero_iff exponent', ← number, toRat_shown_eq_zero_iff]
      exact zero
    have holds := holds_shown zero exponent
    rw [number] at holds
    exact RoundingInterval.eq_of_holds first second holds (holds_shown other_positive exponent')

/-- A magnitude is written with digits and a point. -/
theorem isDigit_or_point_of_mem_magnitudeChars {c : Char}
    (inside : c ∈ magnitudeChars significand exponent) : c.isDigit = true ∨ c = '.' := by
  rw [magnitudeChars_eq] at inside
  exact isDigit_or_point_of_mem_chars inside

/-- No magnitude is written as nothing. -/
theorem magnitudeChars_ne_nil (significand : ℕ) (exponent : ℤ) :
    magnitudeChars significand exponent ≠ [] := by
  rw [magnitudeChars_eq]
  exact chars_ne_nil _

/-- Nothing else occurs in it. -/
theorem notMem_magnitudeChars {c : Char} (other : ¬ (c.isDigit = true ∨ c = '.')) :
    c ∉ magnitudeChars significand exponent :=
  fun inside => other (isDigit_or_point_of_mem_magnitudeChars inside)

/-- A sign adds at most the minus. -/
theorem mem_signed {negative : Bool} {magnitude : List Char} {c : Char} :
    c ∈ signed negative magnitude ↔ negative = true ∧ c = '-' ∨ c ∈ magnitude := by
  cases negative <;> simp [signed]

/-- What is shown with a minus sign or without tells the sign and the rest. -/
theorem signed_inj {negative negative' : Bool} {magnitude magnitude' : List Char}
    (unsigned : '-' ∉ magnitude) (unsigned' : '-' ∉ magnitude')
    (same : signed negative magnitude = signed negative' magnitude') :
    negative = negative' ∧ magnitude = magnitude' := by
  cases negative <;> cases negative'
  · exact ⟨rfl, same⟩
  · have sign : '-' ∈ magnitude := by
      rw [show magnitude = '-' :: magnitude' from same]
      exact List.mem_cons_self
    exact absurd sign unsigned
  · have sign : '-' ∈ magnitude' := by
      rw [← show '-' :: magnitude = magnitude' from same]
      exact List.mem_cons_self
    exact absurd sign unsigned'
  · exact ⟨rfl, (List.cons.inj same).2⟩

/-- A float is written with digits, a point, a minus and the letters of its names. -/
theorem mem_binaryChars {binary : Binary} {c : Char} (inside : c ∈ binaryChars binary) :
    c.isDigit = true ∨ c ∈ ['.', '-', 'i', 'n', 'f', 'N', 'a'] := by
  cases binary with
  | finite negative significand exponent =>
    rcases mem_signed.mp inside with ⟨-, rfl⟩ | magnitude
    · simp
    · rcases isDigit_or_point_of_mem_magnitudeChars magnitude with digit | rfl
      · exact .inl digit
      · simp
  | infinite negative =>
    rcases mem_signed.mp inside with ⟨-, rfl⟩ | letter
    · simp
    · have letters : ['i', 'n', 'f'] ⊆ ['.', '-', 'i', 'n', 'f', 'N', 'a'] := by simp
      exact .inr (letters letter)
  | undefined =>
    have letters : ['N', 'a', 'N'] ⊆ ['.', '-', 'i', 'n', 'f', 'N', 'a'] := by simp
    exact .inr (letters inside)

/-- Only an infinity is written with an i. -/
theorem letter_i_mem_iff {binary : Binary} :
    'i' ∈ binaryChars binary ↔ ∃ negative, binary = .infinite negative := by
  cases binary <;> simp [binaryChars, mem_signed, notMem_magnitudeChars]

/-- Only a NaN is written with a capital N. -/
theorem letter_N_mem_iff {binary : Binary} : 'N' ∈ binaryChars binary ↔ binary = .undefined := by
  cases binary <;> simp [binaryChars, mem_signed, notMem_magnitudeChars]

/-- The same for the text of a float. -/
theorem mem_floatText {x : Float} {c : Char} (inside : c ∈ (floatText x).toList) :
    c.isDigit = true ∨ c ∈ ['.', '-', 'i', 'n', 'f', 'N', 'a'] := by
  rw [toList_floatText] at inside
  exact mem_binaryChars inside

/-- No float has an empty text. -/
theorem toList_floatText_ne_nil (x : Float) : (floatText x).toList ≠ [] := by
  rw [toList_floatText]
  cases Binary.ofFloat x with
  | finite negative significand exponent =>
    cases negative with
    | true => exact List.cons_ne_nil _ _
    | false => exact magnitudeChars_ne_nil significand exponent
  | infinite negative => cases negative <;> exact List.cons_ne_nil _ _
  | undefined => exact List.cons_ne_nil _ _

/-- **Distinct texts.** Floats that are shown by the same text are the same float. -/
theorem floatText_inj {x y : Float} (same : floatText x = floatText y) : x = y := by
  have chars : binaryChars (.ofFloat x) = binaryChars (.ofFloat y) := String.ofList_injective same
  -- The names have letters that no digits have, so only texts of one kind can be the same.
  have infinite : (∃ negative, Binary.ofFloat x = .infinite negative) ↔
      ∃ negative, Binary.ofFloat y = .infinite negative := by
    rw [← letter_i_mem_iff, ← letter_i_mem_iff, chars]
  have undefined : Binary.ofFloat x = .undefined ↔ Binary.ofFloat y = .undefined := by
    rw [← letter_N_mem_iff, ← letter_N_mem_iff, chars]
  apply Binary.ofFloat_inj
  cases parts : Binary.ofFloat x with
  | finite negative significand exponent =>
    cases parts' : Binary.ofFloat y with
    | finite negative' significand' exponent' =>
      rw [parts, parts'] at chars
      obtain ⟨rfl, magnitudes⟩ := signed_inj (notMem_magnitudeChars (by decide))
        (notMem_magnitudeChars (by decide)) chars
      obtain ⟨rfl, rfl⟩ := magnitudeChars_inj (Binary.toBits_of_ofFloat parts).1
        (Binary.toBits_of_ofFloat parts').1 magnitudes
      rfl
    | infinite => simp [parts, parts'] at infinite
    | undefined => simp [parts, parts'] at undefined
  | infinite negative =>
    obtain ⟨negative', parts'⟩ := infinite.mp ⟨negative, parts⟩
    rw [parts, parts'] at chars
    obtain ⟨rfl, -⟩ := signed_inj (by decide) (by decide) chars
    exact parts'.symm
  | undefined => exact (undefined.mp parts).symm

end Decimal

end Reckoner
