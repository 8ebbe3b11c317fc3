import Reckoner.Lexeme.Scan

/-! # The pieces of a text

A text falls into pieces from the left: blanks, runs of digits that no digit follows, and symbols,
up to the first character that is none of these. What the scan makes of each piece is said here
once, and `Text.pieceInduction` is the induction that goes with it, so that statements about the
scan follow the text and not the code.
-/

namespace Reckoner

namespace Text

/-- No digit stands at the front of the text. -/
def NoDigitNext (text : List Char) : Prop :=
  ∀ c ∈ text.head?, c.isDigit = false

/-- A run of digits in front of a text, as long as it can be. -/
structure IsRun (digits rest : List Char) : Prop where
  nonempty : digits ≠ []
  digits : ∀ c ∈ digits, c.isDigit = true
  ends : NoDigitNext rest

@[simp]
theorem noDigitNext_nil : NoDigitNext [] := by
  simp [NoDigitNext]

/-- Only the first character decides whether a digit comes next. -/
@[simp]
theorem noDigitNext_cons {c : Char} {rest : List Char} :
    NoDigitNext (c :: rest) ↔ c.isDigit = false := by
  simp [NoDigitNext]

/-- Behind a run of digits no digit comes next. -/
theorem noDigitNext_dropWhile (text : List Char) : NoDigitNext (text.dropWhile Char.isDigit) := by
  intro c first
  have stops := List.head?_dropWhile_not Char.isDigit text
  rw [Option.mem_def.mp first] at stops
  simpa using stops

/-- The digits that a text starts with. -/
theorem isRun_takeWhile {c : Char} {rest : List Char} (digit : c.isDigit = true) :
    IsRun (c :: rest.takeWhile Char.isDigit) (rest.dropWhile Char.isDigit) where
  nonempty := by simp
  digits := by
    intro d inside
    rcases List.mem_cons.mp inside with rfl | later
    · exact digit
    · exact List.all_eq_true.mp List.all_takeWhile d later
  ends := noDigitNext_dropWhile rest

namespace IsRun

variable {digits rest : List Char}

/-- The digits in front of a text are those of its run. -/
theorem takeWhile_append (run : IsRun digits rest) :
    (digits ++ rest).takeWhile Char.isDigit = digits := by
  rw [List.takeWhile_append_of_pos run.digits]
  have stop : rest.takeWhile Char.isDigit = [] := by
    cases rest with
    | nil => rfl
    | cons c rest => simp [noDigitNext_cons.mp run.ends]
  rw [stop, List.append_nil]

/-- What is left without them is what follows the run. -/
theorem dropWhile_append (run : IsRun digits rest) :
    (digits ++ rest).dropWhile Char.isDigit = rest := by
  rw [List.dropWhile_append_of_pos run.digits]
  cases rest with
  | nil => rfl
  | cons c rest => simp [noDigitNext_cons.mp run.ends]

end IsRun

/-- **Piecewise induction.** What holds of the empty text, carries over from behind a blank, a run
of digits and a symbol to in front of it, and holds before every other character, holds of every
text. -/
@[elab_as_elim]
theorem pieceInduction {motive : List Char → Prop} (empty : motive [])
    (blank : ∀ c rest, isBlank c = true → motive rest → motive (c :: rest))
    (run : ∀ digits rest, IsRun digits rest → motive rest → motive (digits ++ rest))
    (symbol : ∀ c rest token, Token.ofSymbol? c = some token → motive rest → motive (c :: rest))
    (foreign : ∀ c rest, isBlank c = false → c.isDigit = false → Token.ofSymbol? c = none →
      motive (c :: rest))
    (text : List Char) : motive text := by
  induction length : text.length using Nat.strongRecOn generalizing text with
  | ind size ih =>
    cases text with
    | nil => exact empty
    | cons c rest =>
      have shorter (later : List Char) (few : later.length ≤ rest.length) : motive later :=
        ih later.length (by simp only [List.length_cons] at length; omega) later rfl
      by_cases separates : isBlank c = true
      · exact blank c rest separates (shorter rest (Nat.le_refl _))
      by_cases digit : c.isDigit = true
      · have few := (List.dropWhile_sublist (l := rest) Char.isDigit).length_le
        have whole := run _ _ (isRun_takeWhile digit) (shorter _ few)
        rwa [List.cons_append, List.takeWhile_append_dropWhile] at whole
      cases known : Token.ofSymbol? c with
      | some token => exact symbol c rest token known (shorter rest (Nat.le_refl _))
      | none => exact foreign c rest (by simpa using separates) (by simpa using digit) known

end Text

/-! ## Symbols -/

namespace Token

/-- The characters that write a token alone. -/
theorem exists_ofSymbol?_iff {c : Char} :
    (∃ token, ofSymbol? c = some token) ↔ c ∈ ['+', '-', 'x', '÷', '(', ')'] := by
  constructor
  · rintro ⟨token, known⟩
    have carried := ofSymbol?_eq_some_iff.mp known
    cases token with
    | operator op =>
      obtain rfl : op.symbol = c := by simpa [content?] using carried
      cases op <;> decide
    | openParen =>
      obtain rfl : '(' = c := by simpa [content?] using carried
      decide
    | closeParen =>
      obtain rfl : ')' = c := by simpa [content?] using carried
      decide
    | number value => simp [content?] at carried
    | endOfInput => simp [content?] at carried
  · intro listed
    simp only [List.mem_cons, List.not_mem_nil, or_false] at listed
    rcases listed with rfl | rfl | rfl | rfl | rfl | rfl
    · exact ⟨.operator .add, ofSymbol?_eq_some_iff.mpr rfl⟩
    · exact ⟨.operator .sub, ofSymbol?_eq_some_iff.mpr rfl⟩
    · exact ⟨.operator .mul, ofSymbol?_eq_some_iff.mpr rfl⟩
    · exact ⟨.operator .div, ofSymbol?_eq_some_iff.mpr rfl⟩
    · exact ⟨.openParen, ofSymbol?_eq_some_iff.mpr rfl⟩
    · exact ⟨.closeParen, ofSymbol?_eq_some_iff.mpr rfl⟩

/-- A symbol is no blank. -/
theorem isBlank_eq_false_of_ofSymbol? {c : Char} {token : Token}
    (known : ofSymbol? c = some token) : Text.isBlank c = false := by
  have listed := exists_ofSymbol?_iff.mp ⟨token, known⟩
  simp only [List.mem_cons, List.not_mem_nil, or_false] at listed
  rcases listed with rfl | rfl | rfl | rfl | rfl | rfl <;> decide

/-- A symbol is no digit. -/
theorem isDigit_eq_false_of_ofSymbol? {c : Char} {token : Token}
    (known : ofSymbol? c = some token) : c.isDigit = false := by
  have listed := exists_ofSymbol?_iff.mp ⟨token, known⟩
  simp only [List.mem_cons, List.not_mem_nil, or_false] at listed
  rcases listed with rfl | rfl | rfl | rfl | rfl | rfl <;> decide

end Token

/-! ## Literals -/

namespace Literal

/-- The bound is 2^63. -/
theorem bound_eq : bound = 9223372036854775808 := by
  decide

/-- A run of digits is a literal of the integer that it writes, if there is such an integer. -/
theorem ofDigits?_eq_some_iff {digits : List Char} {value : Int64} :
    ofDigits? digits = some value ↔ value.toInt = Nat.ofDigitChars 10 digits 0 := by
  have below := value.toInt_lt
  rw [ofDigits?_eq, bound_eq]
  split
  · rename_i fits
    have same := Int64.toInt_ofNat_of_lt fits
    rw [Option.some.injEq, ← Int64.toInt_inj, same]
    exact eq_comm
  · rename_i large
    constructor
    · intro impossible
      cases impossible
    · intro same
      omega

/-- A run of digits is no literal if its value is beyond the largest integer. -/
theorem ofDigits?_eq_none_iff {digits : List Char} :
    ofDigits? digits = none ↔ Int64.maxValue.toInt < Nat.ofDigitChars 10 digits 0 := by
  have most : Int64.maxValue.toInt = 2 ^ 63 - 1 := by decide
  rw [ofDigits?_eq, bound_eq, most]
  split
  · simp
    omega
  · simp
    omega

end Literal

/-! ## The scan, piece by piece -/

namespace Lexemes

variable {found : List Lexeme} {here : Location} {c : Char} {digits rest : List Char}

/-- At the end of a text its lexemes are handed out in order. -/
theorem scanFrom_nil : scanFrom found here [] = .ok ⟨found.reverse, here⟩ := by
  rw [scanFrom]

/-- A blank is passed without a lexeme. -/
theorem scanFrom_blank (blank : Text.isBlank c = true) :
    scanFrom found here (c :: rest) = scanFrom found (here.step c) rest := by
  rw [scanFrom, if_pos blank]

/-- A symbol becomes a lexeme of one character. -/
theorem scanFrom_symbol {token : Token} (known : Token.ofSymbol? c = some token) :
    scanFrom found here (c :: rest) =
      scanFrom (⟨token, here, c.toString⟩ :: found) (here.step c) rest := by
  have solid := Token.isBlank_eq_false_of_ofSymbol? known
  have other := Token.isDigit_eq_false_of_ofSymbol? known
  rw [scanFrom, if_neg (by simp [solid]), if_neg (by simp [other])]
  simp only [known]

/-- Any other character ends the scan where it stands. -/
theorem scanFrom_foreign (solid : Text.isBlank c = false) (other : c.isDigit = false)
    (unknown : Token.ofSymbol? c = none) :
    scanFrom found here (c :: rest) = .error (.unrecognized c here) := by
  rw [scanFrom, if_neg (by simp [solid]), if_neg (by simp [other])]
  simp only [unknown]

/-- A run of digits at the front of a text is taken as a whole. -/
theorem scanFrom_run (run : Text.IsRun digits rest) :
    scanFrom found here (digits ++ rest) =
      match Literal.ofDigits? digits with
      | some value =>
        scanFrom (⟨.number value, here, String.ofList digits⟩ :: found) (here.advance digits) rest
      | none => .error (.literalTooLarge here) := by
  cases digits with
  | nil => exact absurd rfl run.nonempty
  | cons c others =>
    have digit := run.digits c List.mem_cons_self
    have taken := run.takeWhile_append
    have left := run.dropWhile_append
    rw [List.cons_append, List.takeWhile_cons_of_pos digit, List.cons.injEq] at taken
    rw [List.cons_append, List.dropWhile_cons_of_pos digit] at left
    rw [List.cons_append, scanFrom, if_neg (by simp [Text.isBlank_eq_false_of_isDigit digit]),
      if_pos digit]
    cases literal : Literal.ofDigits? (c :: others) with
    | none => simp only [taken.2, literal]
    | some value => simp only [taken.2, left, literal]

/-- A run of digits becomes one lexeme, located at its first digit. -/
theorem scanFrom_literal {value : Int64} (run : Text.IsRun digits rest)
    (literal : Literal.ofDigits? digits = some value) :
    scanFrom found here (digits ++ rest) =
      scanFrom (⟨.number value, here, String.ofList digits⟩ :: found) (here.advance digits)
        rest := by
  rw [scanFrom_run run]
  simp only [literal]

/-- A run that is too large ends the scan at its first digit. -/
theorem scanFrom_tooLarge (run : Text.IsRun digits rest)
    (large : Literal.ofDigits? digits = none) :
    scanFrom found here (digits ++ rest) = .error (.literalTooLarge here) := by
  rw [scanFrom_run run]
  simp only [large]

end Lexemes

end Reckoner
