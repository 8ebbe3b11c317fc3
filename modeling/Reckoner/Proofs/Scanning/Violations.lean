import Reckoner.Proofs.Scanning.Places

/-! # What keeps a text from being scanned

Two things are wrong with a text, wherever they stand in it: a character outside the alphabet, and
a run of digits, taken as long as it goes, whose value no 64-bit integer has. A text without either
is scanned, and in any other the scan stops at the leftmost of them (`Lexemes.scan_outcome`),
although it checks the value of a run after every digit.
-/

namespace Reckoner

namespace Text

/-- The characters that may stand in a text: blanks, digits, the symbols of the operators, and
parentheses. -/
def InAlphabet (c : Char) : Prop :=
  isBlank c = true ∨ c.isDigit = true ∨ c ∈ ['+', '-', 'x', '÷', '(', ')']

/-- A run of digits that goes on neither to the left nor to the right. -/
structure IsMaximalRun (text before digits after : List Char) : Prop where
  split : before ++ (digits ++ after) = text
  starts : ∀ c ∈ before.getLast?, c.isDigit = false
  run : IsRun digits after

end Text

open Text

/-- Something is wrong with a text right behind the characters `before`, and the fault says what. -/
inductive Violation (text : List Char) : (before : List Char) → ScanFault → Prop where
  | foreign {before : List Char} {c : Char} {after : List Char}
    (split : before ++ c :: after = text) (outside : ¬ InAlphabet c) :
    Violation text before (.unrecognized c (.behind before))
  | tooLarge {before digits after : List Char} (maximal : IsMaximalRun text before digits after)
    (large : Int64.maxValue.toInt < Nat.ofDigitChars 10 digits 0) :
    Violation text before (.literalTooLarge (.behind before))

/-- A fault is a violation of a text, and every other lies at no smaller offset. -/
structure IsLeftmost (text : List Char) (fault : ScanFault) : Prop where
  violation : ∃ before, Violation text before fault
  least : ∀ before other, Violation text before other →
    fault.location.offset ≤ other.location.offset

namespace Violation

variable {text before after : List Char} {c : Char} {fault : ScanFault}

/-- A violation lies in front of a character. -/
theorem exists_split (violation : Violation text before fault) :
    ∃ c after, before ++ c :: after = text := by
  cases violation with
  | foreign split outside => exact ⟨_, _, split⟩
  | @tooLarge digits after maximal large =>
    cases digits with
    | nil => exact absurd rfl maximal.run.nonempty
    | cons c digits => exact ⟨c, digits ++ after, maximal.split⟩

/-- A fault lies where the violation does. -/
theorem location (violation : Violation text before fault) :
    fault.location = .behind before := by
  cases violation <;> rfl

/-- What is wrong at a character: it is none of the alphabet, or a number starts there that is too
large. -/
theorem of_split (violation : Violation text before fault) (split : before ++ c :: after = text) :
    (¬ InAlphabet c ∧ fault = .unrecognized c (.behind before)) ∨
      (c.isDigit = true ∧ (∀ d ∈ before.getLast?, d.isDigit = false) ∧
        Int64.maxValue.toInt <
          Nat.ofDigitChars 10 ((c :: after).takeWhile Char.isDigit) 0 ∧
        fault = .literalTooLarge (.behind before)) := by
  cases violation with
  | foreign other outside =>
    obtain ⟨rfl, -⟩ := List.cons.inj (List.append_cancel_left (other.trans split.symm))
    exact .inl ⟨outside, rfl⟩
  | @tooLarge digits rest maximal large =>
    have same := List.append_cancel_left (maximal.split.trans split.symm)
    have taken := maximal.run.takeWhile_append
    rw [same] at taken
    have digit : c.isDigit = true := by
      cases digits with
      | nil => exact absurd rfl maximal.run.nonempty
      | cons d digits =>
        obtain ⟨rfl, -⟩ := List.cons.inj same
        exact maximal.run.digits d List.mem_cons_self
    exact .inr ⟨digit, maximal.starts, by rwa [taken], rfl⟩

/-- No place of a text has two things wrong with it. -/
theorem unique {other : ScanFault} (violation : Violation text before fault)
    (second : Violation text before other) : fault = other := by
  obtain ⟨c, after, split⟩ := violation.exists_split
  rcases violation.of_split split with ⟨outside, rfl⟩ | ⟨digit, -, -, rfl⟩ <;>
    rcases second.of_split split with ⟨outside', rfl⟩ | ⟨digit', -, -, rfl⟩
  · rfl
  · exact absurd (.inr (.inl digit')) outside
  · exact absurd (.inr (.inl digit)) outside'
  · rfl

end Violation

/-- The part of a text that a scan has passed has nothing wrong with it, and does not end within a
run of digits. -/
structure SoundUpTo (text passed rest : List Char) : Prop where
  split : passed ++ rest = text
  sound : ∀ before fault, Violation text before fault → passed <+: before
  cut : NoDigitNext rest ∨ ∀ c ∈ passed.getLast?, c.isDigit = false

namespace SoundUpTo

variable {text passed piece rest : List Char}

/-- A scan may pass one more piece if nothing is wrong at any of its characters. -/
theorem extend (upTo : SoundUpTo text passed (piece ++ rest))
    (sound : ∀ inner c more fault, inner ++ c :: more = piece →
      ¬ Violation text (passed ++ inner) fault)
    (cut : NoDigitNext rest ∨ ∀ c ∈ (passed ++ piece).getLast?, c.isDigit = false) :
    SoundUpTo text (passed ++ piece) rest where
  split := by rw [List.append_assoc, upTo.split]
  sound := by
    intro before fault violation
    obtain ⟨inner, rfl⟩ := upTo.sound before fault violation
    obtain ⟨c, after, split⟩ := violation.exists_split
    rw [← upTo.split, List.append_assoc] at split
    have same := List.append_cancel_left split
    rcases List.prefix_or_prefix_of_prefix (List.prefix_append piece rest)
      (same ▸ List.prefix_append inner (c :: after)) with whole | ⟨more, inside⟩
    · exact (List.prefix_append_right_inj passed).mpr whole
    · cases more with
      | nil =>
        obtain rfl : inner = piece := by simpa using inside
        exact List.prefix_rfl
      | cons d more => exact absurd violation (sound inner d more fault inside)
  cut := cut

/-- A character of the alphabet that is no digit is passed. -/
theorem step {c : Char} (upTo : SoundUpTo text passed (c :: rest)) (inside : InAlphabet c)
    (other : c.isDigit = false) : SoundUpTo text (passed ++ [c]) rest := by
  have split := upTo.split
  refine extend upTo ?_ (.inr (by simp [other]))
  intro inner d more fault only violation
  obtain ⟨rfl, rfl, rfl⟩ : inner = [] ∧ d = c ∧ more = [] := by
    simpa [List.append_eq_cons_iff] using only
  rw [List.append_nil] at violation
  rcases violation.of_split split with ⟨outside, -⟩ | ⟨digit, -⟩
  · exact outside inside
  · rw [other] at digit
    cases digit

/-- A run of digits that make a literal is passed. -/
theorem literal {digits : List Char} (upTo : SoundUpTo text passed (digits ++ rest))
    (run : IsRun digits rest)
    (fits : ¬ Int64.maxValue.toInt < Nat.ofDigitChars 10 digits 0) :
    SoundUpTo text (passed ++ digits) rest := by
  have split := upTo.split
  refine extend upTo ?_ (.inl run.ends)
  intro inner d more fault inside violation
  have here : (passed ++ inner) ++ d :: (more ++ rest) = text := by
    rw [← split, ← inside]
    simp
  have digit : d.isDigit = true := run.digits d (by simp [← inside])
  rcases violation.of_split here with ⟨outside, -⟩ | ⟨-, starts, large, -⟩
  · exact outside (.inr (.inl digit))
  · rcases List.eq_nil_or_concat inner with rfl | ⟨before, last, rfl⟩
    · -- The run starts here, so it is the one whose value is known.
      rw [List.nil_append] at inside
      rw [← List.cons_append, inside, run.takeWhile_append] at large
      exact fits large
    · have last_digit := run.digits last (by simp [← inside])
      rw [starts last (by simp)] at last_digit
      cases last_digit

/-- A run of digits in front of the rest starts where it stands. -/
theorem starts {digits : List Char} (upTo : SoundUpTo text passed (digits ++ rest))
    (run : IsRun digits rest) : IsMaximalRun text passed digits rest where
  split := upTo.split
  run := run
  starts := by
    rcases upTo.cut with ends | starts
    · cases digits with
      | nil => exact absurd rfl run.nonempty
      | cons c digits =>
        rw [List.cons_append, noDigitNext_cons, run.digits c List.mem_cons_self] at ends
        cases ends
    · exact starts

/-- Nothing is wrong with a text that was passed as a whole. -/
theorem not_violation {before : List Char} {fault : ScanFault} (upTo : SoundUpTo text passed []) :
    ¬ Violation text before fault := by
  intro violation
  obtain ⟨c, after, split⟩ := violation.exists_split
  obtain ⟨more, rfl⟩ := upTo.sound before fault violation
  have short := congrArg List.length (split.trans upTo.split.symm)
  simp at short

/-- Nothing is wrong in front of a text. -/
theorem begin (text : List Char) : SoundUpTo text [] text where
  split := rfl
  sound := by simp
  cut := .inr (by simp)

end SoundUpTo

/-- Symbols belong to the alphabet. -/
theorem inAlphabet_of_ofSymbol? {c : Char} {token : Token}
    (known : Token.ofSymbol? c = some token) : InAlphabet c :=
  .inr (.inr (Token.exists_ofSymbol?_iff.mp ⟨token, known⟩))

/-- What is no blank, no digit and no symbol does not belong to it. -/
theorem not_inAlphabet {c : Char} (solid : isBlank c = false) (other : c.isDigit = false)
    (unknown : Token.ofSymbol? c = none) : ¬ InAlphabet c := by
  rintro (blank | digit | symbol)
  · simp [solid] at blank
  · simp [other] at digit
  · obtain ⟨token, known⟩ := Token.exists_ofSymbol?_iff.mpr symbol
    simp [unknown] at known

/-- How a scan of a text ends, by what is wrong with the text. -/
structure Ends (text : List Char) (outcome : Except ScanFault Lexemes) : Prop where
  sound : ∀ row, outcome = .ok row → ∀ before fault, ¬ Violation text before fault
  first : ∀ fault, outcome = .error fault →
    ∃ before, Violation text before fault ∧
      ∀ place other, Violation text place other → before <+: place

namespace Lexemes

/-- **One violation decides.** A scan that has passed nothing wrong ends as the text demands. -/
theorem ends_scanFrom {text passed rest : List Char} (upTo : SoundUpTo text passed rest)
    (found : List Lexeme) : Ends text (scanFrom found (.behind passed) rest) := by
  induction rest using Text.pieceInduction generalizing passed found with
  | empty =>
    rw [scanFrom_nil]
    exact ⟨fun _ _ _ _ => upTo.not_violation, by simp⟩
  | blank c rest separates ih =>
    have other : c.isDigit = false := by
      cases digit : c.isDigit with
      | false => rfl
      | true => simp [isBlank_eq_false_of_isDigit digit] at separates
    rw [scanFrom_blank separates, ← Location.behind_concat]
    exact ih (upTo.step (.inl separates) other) found
  | run digits rest run ih =>
    cases literal : Literal.ofDigits? digits with
    | none =>
      have large := Literal.ofDigits?_eq_none_iff.mp literal
      rw [scanFrom_tooLarge run literal]
      refine ⟨by simp, fun fault stops => ⟨passed, ?_, upTo.sound⟩⟩
      cases stops
      exact .tooLarge (upTo.starts run) large
    | some value =>
      have fits : ¬ Int64.maxValue.toInt < Nat.ofDigitChars 10 digits 0 := by
        simp [← Literal.ofDigits?_eq_none_iff, literal]
      rw [scanFrom_literal run literal, ← Location.behind_append]
      exact ih (upTo.literal run fits) _
  | symbol c rest token known ih =>
    rw [scanFrom_symbol known, ← Location.behind_concat]
    exact ih (upTo.step (inAlphabet_of_ofSymbol? known)
      (Token.isDigit_eq_false_of_ofSymbol? known)) _
  | foreign c rest solid other unknown =>
    rw [scanFrom_foreign solid other unknown]
    refine ⟨by simp, fun fault stops => ⟨passed, ?_, upTo.sound⟩⟩
    cases stops
    exact .foreign upTo.split (not_inAlphabet solid other unknown)

end Lexemes

namespace Location

/-- Behind more characters the offset is not smaller. -/
theorem offset_behind_le {before more : List Char} :
    (behind before).offset ≤ (behind (before ++ more)).offset := by
  rw [behind_append, offset_advance]
  exact Nat.le_add_right _ _

/-- Characters take room: only nothing takes none. -/
theorem eq_nil_of_offset_le {before more : List Char}
    (room : (behind (before ++ more)).offset ≤ (behind before).offset) : more = [] := by
  rw [behind_append, offset_advance] at room
  have none : (String.ofList more).utf8ByteSize = 0 := by omega
  have empty := congrArg String.toList (String.utf8ByteSize_eq_zero_iff.mp none)
  simpa using empty

end Location

namespace Ends

variable {text : List Char} {outcome : Except ScanFault Lexemes}

/-- A scan succeeds if and only if nothing is wrong. -/
theorem exists_ok_iff (ends : Ends text outcome) :
    (∃ row, outcome = .ok row) ↔
      (∀ c ∈ text, InAlphabet c) ∧
        ∀ before digits after, IsMaximalRun text before digits after →
          (Nat.ofDigitChars 10 digits 0 : Int) ≤ Int64.maxValue.toInt := by
  constructor
  · rintro ⟨row, scanned⟩
    have sound := ends.sound row scanned
    constructor
    · intro c inside
      obtain ⟨before, after, rfl⟩ := List.append_of_mem inside
      exact Classical.byContradiction fun outside => sound before _ (.foreign rfl outside)
    · intro before digits after maximal
      exact Int.not_lt.mp fun large => sound before _ (.tooLarge maximal large)
  · rintro ⟨alphabet, fits⟩
    cases outcome with
    | ok row => exact ⟨row, rfl⟩
    | error fault =>
      obtain ⟨before, violation, -⟩ := ends.first fault rfl
      cases violation with
      | foreign split outside => exact absurd (alphabet _ (by simp [← split])) outside
      | tooLarge maximal large =>
        have small := fits _ _ _ maximal
        omega

/-- A scan stops with a fault if and only if it is the leftmost violation. -/
theorem eq_error_iff (ends : Ends text outcome) (fault : ScanFault) :
    outcome = .error fault ↔ IsLeftmost text fault := by
  constructor
  · intro stops
    obtain ⟨before, violation, first⟩ := ends.first fault stops
    refine ⟨⟨before, violation⟩, fun place other second => ?_⟩
    obtain ⟨more, rfl⟩ := first place other second
    rw [violation.location, second.location]
    exact Location.offset_behind_le
  · rintro ⟨⟨before, violation⟩, least⟩
    cases outcome with
    | ok row => exact absurd violation (ends.sound row rfl before fault)
    | error stop =>
      obtain ⟨place, second, first⟩ := ends.first stop rfl
      obtain ⟨more, rfl⟩ := first before fault violation
      have nearest := least place stop second
      rw [violation.location, second.location] at nearest
      obtain rfl := Location.eq_nil_of_offset_le nearest
      rw [List.append_nil] at violation
      rw [violation.unique second]

end Ends

namespace Lexemes

/-- **The outcome of a scan.** A text is scanned if and only if all its characters are in the
alphabet and none of its runs of digits is above what 64 bits hold. When it is not, the fault is the
leftmost violation. Whether a run is too large depends on its value alone, and so not on how many
digits the check that goes from digit to digit has seen. -/
theorem scan_outcome (text : String) :
    ((∃ row, scan text = .ok row) ↔
      (∀ c ∈ text.toList, InAlphabet c) ∧
        ∀ before digits after, IsMaximalRun text.toList before digits after →
          (Nat.ofDigitChars 10 digits 0 : Int) ≤ Int64.maxValue.toInt) ∧
    (∀ fault, scan text = .error fault ↔ IsLeftmost text.toList fault) ∧
    ∀ digits, (Literal.ofDigits? digits).isSome ↔
      (Nat.ofDigitChars 10 digits 0 : Int) ≤ Int64.maxValue.toInt := by
  have ends : Ends text.toList (scan text) := ends_scanFrom (.begin _) []
  refine ⟨ends.exists_ok_iff, ends.eq_error_iff, fun digits => ?_⟩
  rw [Option.isSome_iff_ne_none, ne_eq, Literal.ofDigits?_eq_none_iff, Int.not_lt]

end Lexemes

end Reckoner
