import Reckoner.Proofs.Scanning.Tiling

/-! # Scanning texts put together

A scan that has come to the end of one text goes on with the next as if this one stood alone, except
that all its locations lie behind the first (`Lexemes.scan_append`). Only a run of digits that goes
on from the one text into the other is read as one. A scan that fails in the first text never gets
to see the second.
-/

namespace Reckoner

namespace Location

/-- A location of a text, counted from the start of some characters in front of this text: it has
moved by the bytes and by the line feeds of these characters and, as long as it stands on the first
line of its own text, by the columns of their last line. -/
def shifted (earlier : List Char) (here : Location) : Location where
  offset := (String.ofList earlier).utf8ByteSize + here.offset
  line := earlier.count '\n' + here.line
  column := if here.line = 1 then (behind earlier).column - 1 + here.column else here.column

/-- Shifting a location and passing a character may be done in either order. -/
theorem step_shifted (earlier : List Char) {here : Location} (counted : 0 < here.line) (c : Char) :
    (here.shifted earlier).step c = (here.step c).shifted earlier := by
  by_cases newline : c = '\n'
  · have later : here.line + 1 ≠ 1 := Nat.ne_of_gt (Nat.succ_lt_succ counted)
    simp only [step, shifted, newline, ↓reduceIte, later, Nat.add_assoc]
  · by_cases first : here.line = 1
    · simp only [step, shifted, newline, first, ↓reduceIte, Nat.add_assoc]
    · simp only [step, shifted, newline, first, ↓reduceIte, Nat.add_assoc]

/-- Counting on behind other characters is counting anew and shifting. -/
theorem behind_append_eq_shifted (earlier before : List Char) :
    behind (earlier ++ before) = (behind before).shifted earlier := by
  induction before using List.reverseRecOn with
  | nil =>
    simp [behind, shifted, Nat.add_comm]
  | append_singleton before c ih =>
    have counted : 0 < (behind before).line := Nat.lt_add_right _ Nat.zero_lt_one
    rw [← List.append_assoc, behind_concat, ih, step_shifted earlier counted, behind_concat]

end Location

/-- A fault of a text, located behind some characters in front of it. -/
def ScanFault.shifted (earlier : List Char) : ScanFault → ScanFault
  | .unrecognized found location => .unrecognized found (location.shifted earlier)
  | .literalTooLarge location => .literalTooLarge (location.shifted earlier)

/-- A lexeme of a text, located behind some characters in front of it. -/
def Lexeme.shifted (earlier : List Char) (lexeme : Lexeme) : Lexeme :=
  { lexeme with location := lexeme.location.shifted earlier }

namespace Text

/-- A run of digits goes on from the one text into the other. -/
def RunsOn (first second : List Char) : Prop :=
  (∃ c ∈ first.getLast?, c.isDigit = true) ∧ ∃ c ∈ second.head?, c.isDigit = true

/-- Only the end of the first text decides whether a run goes on. -/
theorem RunsOn.append_left {first second : List Char} (runs : RunsOn first second)
    (before : List Char) :
    RunsOn (before ++ first) second := by
  obtain ⟨⟨c, last, digit⟩, continues⟩ := runs
  refine ⟨⟨c, ?_, digit⟩, continues⟩
  rw [List.getLast?_append, Option.mem_def.mp last]
  rfl

/-- A run of digits that does not go on has no digit behind it. -/
theorem noDigitNext_of_not_runsOn {digits second : List Char} (nonempty : digits ≠ [])
    (decimal : ∀ c ∈ digits, c.isDigit = true) (apart : ¬ RunsOn digits second) :
    NoDigitNext second := by
  have last := List.getLast?_eq_some_getLast nonempty
  have digit := decimal _ (List.getLast_mem nonempty)
  intro c first
  rw [← Bool.not_eq_true]
  exact fun continues => apart ⟨⟨_, last, digit⟩, ⟨c, first, continues⟩⟩

/-- If no digit comes next, no run goes on. -/
theorem not_runsOn_of_noDigitNext {first second : List Char} (ends : NoDigitNext second) :
    ¬ RunsOn first second := by
  rintro ⟨-, c, continues, digit⟩
  rw [ends c continues] at digit
  cases digit

/-- The front of two texts is that of the first, unless this is empty. -/
theorem NoDigitNext.append {first second : List Char} (ends : NoDigitNext first)
    (apart : first = [] → NoDigitNext second) : NoDigitNext (first ++ second) := by
  cases first with
  | nil => exact apart rfl
  | cons c first => exact noDigitNext_cons.mpr (noDigitNext_cons.mp ends)

end Text

namespace Literal

/-- A number that is too large does not become smaller by more digits. -/
theorem ofDigits?_append_eq_none {digits : List Char} (large : ofDigits? digits = none)
    (more : List Char) : ofDigits? (digits ++ more) = none := by
  have above := ofDigits?_eq_none_iff.mp large
  have grows := le_ofDigitChars more (Nat.ofDigitChars 10 digits 0)
  rw [← Nat.ofDigitChars_append] at grows
  exact ofDigits?_eq_none_iff.mpr (Int.lt_of_lt_of_le above (Int.ofNat_le.mpr grows))

end Literal

namespace Lexemes

open Text

variable {found : List Lexeme} {here : Location} {first : List Char}

/-! ## A text that cannot be scanned -/

/-- Digits whose number is too large stop the scan, whatever stands behind them. -/
theorem scanFrom_tooLarge_append {digits : List Char} (nonempty : digits ≠ [])
    (decimal : ∀ c ∈ digits, c.isDigit = true) (large : Literal.ofDigits? digits = none)
    (more : List Char) : scanFrom found here (digits ++ more) = .error (.literalTooLarge here) := by
  have run : IsRun (digits ++ more.takeWhile Char.isDigit) (more.dropWhile Char.isDigit) := by
    refine ⟨by simp [nonempty], ?_, noDigitNext_dropWhile more⟩
    intro c inside
    rcases List.mem_append.mp inside with before | after
    · exact decimal c before
    · exact List.all_eq_true.mp List.all_takeWhile c after
  have split := List.takeWhile_append_dropWhile (p := Char.isDigit) (l := more)
  rw [← split, ← List.append_assoc, scanFrom_tooLarge run]
  exact Literal.ofDigits?_append_eq_none large _

/-- A scan that fails in a text fails in the same way with more text behind it. -/
theorem scanFrom_append_of_error {fault : ScanFault}
    (failed : scanFrom found here first = .error fault) (second : List Char) :
    scanFrom found here (first ++ second) = .error fault := by
  induction first using pieceInduction generalizing found here with
  | empty =>
    rw [scanFrom_nil] at failed
    cases failed
  | blank c rest separates ih =>
    rw [scanFrom_blank separates] at failed
    rw [List.cons_append, scanFrom_blank separates]
    exact ih failed
  | run digits rest run ih =>
    rw [List.append_assoc]
    cases literal : Literal.ofDigits? digits with
    | none =>
      rw [scanFrom_tooLarge run literal] at failed
      cases failed
      exact scanFrom_tooLarge_append run.nonempty run.digits literal _
    | some value =>
      rw [scanFrom_literal run literal] at failed
      -- What fails stands behind the run, so nothing is appended to the run itself.
      have ends : NoDigitNext (rest ++ second) := run.ends.append fun nothing => by
        rw [nothing, scanFrom_nil] at failed
        cases failed
      rw [scanFrom_literal ⟨run.nonempty, run.digits, ends⟩ literal]
      exact ih failed
  | symbol c rest token known ih =>
    rw [scanFrom_symbol known] at failed
    rw [List.cons_append, scanFrom_symbol known]
    exact ih failed
  | foreign c rest solid other unknown =>
    rw [scanFrom_foreign solid other unknown] at failed
    rw [List.cons_append, scanFrom_foreign solid other unknown]
    exact failed

/-! ## A text that can be scanned -/

/-- A scan goes on behind a text with the lexemes and the location that it has there. -/
theorem scanFrom_append_of_ok {row : Lexemes} (scanned : scanFrom found here first = .ok row)
    {second : List Char} (apart : ¬ RunsOn first second) :
    scanFrom found here (first ++ second) = scanFrom row.body.reverse row.finish second := by
  induction first using pieceInduction generalizing found here with
  | empty =>
    rw [scanFrom_nil] at scanned
    cases scanned
    rw [List.nil_append, List.reverse_reverse]
  | blank c rest separates ih =>
    rw [scanFrom_blank separates] at scanned
    rw [List.cons_append, scanFrom_blank separates]
    exact ih scanned fun runs => apart (runs.append_left [c])
  | run digits rest run ih =>
    rw [List.append_assoc]
    cases literal : Literal.ofDigits? digits with
    | none =>
      rw [scanFrom_tooLarge run literal] at scanned
      cases scanned
    | some value =>
      rw [scanFrom_literal run literal] at scanned
      have ends : NoDigitNext (rest ++ second) := run.ends.append fun nothing => by
        rw [nothing, List.append_nil] at apart
        exact noDigitNext_of_not_runsOn run.nonempty run.digits apart
      rw [scanFrom_literal ⟨run.nonempty, run.digits, ends⟩ literal]
      exact ih scanned fun runs => apart (runs.append_left digits)
  | symbol c rest token known ih =>
    rw [scanFrom_symbol known] at scanned
    rw [List.cons_append, scanFrom_symbol known]
    exact ih scanned fun runs => apart (runs.append_left [c])
  | foreign c rest solid other unknown =>
    rw [scanFrom_foreign solid other unknown] at scanned
    cases scanned

/-- The outcome of a scan with all its locations behind some characters in front of the text. -/
def shifted (earlier : List Char) : Except ScanFault Lexemes → Except ScanFault Lexemes
  | .ok row => .ok ⟨row.body.map (Lexeme.shifted earlier), row.finish.shifted earlier⟩
  | .error fault => .error (fault.shifted earlier)

/-- Behind other characters a text is scanned as it is alone, with its locations shifted. -/
theorem scanFrom_shifted (earlier before text : List Char) (found : List Lexeme) :
    scanFrom (found.map (Lexeme.shifted earlier)) (.behind (earlier ++ before)) text =
      shifted earlier (scanFrom found (.behind before) text) := by
  have place (before : List Char) := Location.behind_append_eq_shifted earlier before
  induction text using pieceInduction generalizing found before with
  | empty => simp [scanFrom_nil, shifted, place]
  | blank c rest separates ih =>
    rw [scanFrom_blank separates, scanFrom_blank separates, ← Location.behind_concat,
      ← Location.behind_concat, List.append_assoc]
    exact ih (before ++ [c]) found
  | run digits rest run ih =>
    cases literal : Literal.ofDigits? digits with
    | none =>
      rw [scanFrom_tooLarge run literal, scanFrom_tooLarge run literal, place]
      rfl
    | some value =>
      rw [scanFrom_literal run literal, scanFrom_literal run literal, ← Location.behind_append,
        ← Location.behind_append, List.append_assoc, ← ih, place before]
      rfl
  | symbol c rest token known ih =>
    rw [scanFrom_symbol known, scanFrom_symbol known, ← Location.behind_concat,
      ← Location.behind_concat, List.append_assoc, ← ih, place before]
    rfl
  | foreign c rest solid other unknown =>
    rw [scanFrom_foreign solid other unknown, scanFrom_foreign solid other unknown, place]
    rfl

/-- The scan of two texts is that of the second, shifted, behind the lexemes of the first. -/
theorem scan_append_eq {first second : String} {row : Lexemes} (scanned : scan first = .ok row)
    (apart : ¬ RunsOn first.toList second.toList) :
    scan (first ++ second) = (shifted first.toList (scan second)).map (prepend row.body) := by
  obtain ⟨-, -, -, -, ends⟩ := exists_tiling_of_scan scanned
  have finish : row.finish = .behind (first.toList ++ []) := by rw [List.append_nil, ends]
  have found : row.body.reverse = [].map (Lexeme.shifted first.toList) ++ row.body.reverse := rfl
  rw [scan, String.toList_append, scanFrom_append_of_ok scanned apart, found, scanFrom_append,
    finish, scanFrom_shifted, List.reverse_reverse]
  rfl

/-- **Concatenation.** A fault of a text is a fault of every longer text that starts with it. Behind
a text that can be scanned, and unless a run of digits goes on, a second text is scanned exactly if
it can be scanned alone: it then has its own lexemes, the end of the input among them, behind those
of the first, or else its own fault, each with its location shifted by the first text. -/
theorem scan_append (first second : String) :
    (∀ fault, scan first = .error fault → scan (first ++ second) = .error fault) ∧
    ∀ row, scan first = .ok row → ¬ RunsOn first.toList second.toList →
      ((∃ joined, scan (first ++ second) = .ok joined) ↔ ∃ later, scan second = .ok later) ∧
      (∀ later, scan second = .ok later → ∃ joined, scan (first ++ second) = .ok joined ∧
        joined.toList = row.body ++ later.toList.map (Lexeme.shifted first.toList)) ∧
      ∀ fault, scan second = .error fault →
        scan (first ++ second) = .error (fault.shifted first.toList) := by
  constructor
  · intro fault failed
    rw [scan, String.toList_append]
    exact scanFrom_append_of_error failed second.toList
  · intro row scanned apart
    have joint := scan_append_eq scanned apart
    cases alone : scan second with
    | ok later =>
      rw [alone] at joint
      refine ⟨by simp [joint, shifted, Except.map], ?_, by simp⟩
      rintro _ ⟨⟩
      refine ⟨_, joint, ?_⟩
      simp [prepend, toList, Lexeme.atEnd, Lexeme.shifted]
    | error fault =>
      rw [alone] at joint
      refine ⟨by simp [joint, shifted, Except.map], by simp, ?_⟩
      rintro _ ⟨⟩
      exact joint

/-- The first text ends on its second line, and the second text has two lines of its own. -/
example :
    scan "(1 +\n 2" = .ok ⟨[⟨.openParen, ⟨0, 1, 1⟩, "("⟩, ⟨.number 1, ⟨1, 1, 2⟩, "1"⟩,
      ⟨.operator .add, ⟨3, 1, 4⟩, "+"⟩, ⟨.number 2, ⟨6, 2, 2⟩, "2"⟩], ⟨7, 2, 3⟩⟩ ∧
    scan ")\n÷3" = .ok ⟨[⟨.closeParen, ⟨0, 1, 1⟩, ")"⟩, ⟨.operator .div, ⟨2, 2, 1⟩, "÷"⟩,
      ⟨.number 3, ⟨4, 2, 2⟩, "3"⟩], ⟨5, 2, 3⟩⟩ ∧
    scan "(1 +\n 2)\n÷3" = .ok ⟨[⟨.openParen, ⟨0, 1, 1⟩, "("⟩, ⟨.number 1, ⟨1, 1, 2⟩, "1"⟩,
      ⟨.operator .add, ⟨3, 1, 4⟩, "+"⟩, ⟨.number 2, ⟨6, 2, 2⟩, "2"⟩,
      ⟨.closeParen, ⟨7, 2, 3⟩, ")"⟩, ⟨.operator .div, ⟨9, 3, 1⟩, "÷"⟩,
      ⟨.number 3, ⟨11, 3, 2⟩, "3"⟩], ⟨12, 3, 3⟩⟩ := by
  refine ⟨?_, ?_, ?_⟩ <;> cbv

end Lexemes

end Reckoner
