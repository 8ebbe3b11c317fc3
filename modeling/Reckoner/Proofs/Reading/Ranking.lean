import Reckoner.Journal
import Reckoner.Proofs.Reading.OnePass
import Reckoner.Proofs.Scanning.Parentheses

/-! # Which fault comes first

A text may have many things wrong with it and is reported with one. A fault of the scan comes before
all others, and different numbers of opening and closing parentheses come before everything that the
grammar could object to (`rank_of_faults`). The numbers are those of the characters of the text, and
until they have been compared no operator is applied.
-/

namespace Reckoner

/-- A token that one character writes is as frequent in a row as this character in its text. -/
theorem Lexemes.count_of_scan {text : String} {row : Lexemes} (scanned : scan text = .ok row)
    {c : Char} {token : Token} (written : Token.ofSymbol? c = some token) :
    row.count (· == token) = text.toList.count c := by
  have known : tokens? text.toList = some row.tokens :=
    tokens?_eq_some_iff.mpr ⟨row, scanned, rfl⟩
  rw [count_eq_countP]
  exact count_of_tokens? known written

/-- The grammar finds no faults but its own. -/
theorem Pushdown.ne_of_check {row : Lexemes} {fault : Fault} (failed : check row = .error fault) :
    (∀ stop, fault ≠ .scan stop) ∧
      ∀ opening closing, fault ≠ .unmatchedParentheses opening closing := by
  obtain ⟨lexeme, -, reached, refused⟩ := exists_refused_of_check failed
  rcases step_eq_error refused with rfl | rfl | rfl
  · simp
  · simp
  · cases reached.opened <;> simp [misplaced]

/-- The reading of a text ends with a fault of the scan exactly if the scan has this fault.
Otherwise it ends with the numbers of the parentheses exactly if the text has different numbers of
them, and these are the numbers it tells. In both cases nothing has been computed, and nothing is
traced. -/
structure RanksFaults {α : Type} (text : String) (result : Except Fault α) (steps : List (Step α))
    (records : List Record) : Prop where
  scan : ∀ stop, result = .error (.scan stop) ↔ Lexemes.scan text = .error stop
  unmatched : ∀ opening closing, result = .error (.unmatchedParentheses opening closing) ↔
    (∃ row, Lexemes.scan text = .ok row) ∧ text.toList.count '(' ≠ text.toList.count ')' ∧
      opening = text.toList.count '(' ∧ closing = text.toList.count ')'
  untouched :
    (∃ stop, Lexemes.scan text = .error stop) ∨ text.toList.count '(' ≠ text.toList.count ')' →
      steps = [] ∧ ∀ record ∈ records, record.level ≠ .trace

namespace RanksFaults

variable {α : Type} {algebra : Algebra α} {ofStep : Step α → List Record} {text : String}

/-- A text that cannot be cut into lexemes has that fault. -/
theorem of_scan_eq_error {stop : ScanFault} (failed : Lexemes.scan text = .error stop) :
    RanksFaults text (readText algebra text).result (readText algebra text).steps
      (Journal.ofReading algebra ofStep text) where
  scan := by simp [readText, failed]
  unmatched := by simp [readText, failed]
  untouched := by simp [readText, Journal.ofReading, failed]

variable {row : Lexemes}

/-- A text with different counts of parentheses has that fault. -/
theorem of_unmatched (scanned : Lexemes.scan text = .ok row)
    (unmatched : text.toList.count '(' ≠ text.toList.count ')') :
    RanksFaults text (readText algebra text).result (readText algebra text).steps
      (Journal.ofReading algebra ofStep text) := by
  have opening : row.count (· == .openParen) = text.toList.count '(' :=
    Lexemes.count_of_scan scanned (Token.ofSymbol?_eq_some_iff.mpr rfl)
  have closing : row.count (· == .closeParen) = text.toList.count ')' :=
    Lexemes.count_of_scan scanned (Token.ofSymbol?_eq_some_iff.mpr rfl)
  have outcome := Lexemes.read_eq_of_unmatched algebra
    (show row.count (· == .openParen) ≠ row.count (· == .closeParen) by rwa [opening, closing])
  rw [opening, closing] at outcome
  constructor
  · simp [readText, scanned, outcome]
  · simp [readText, scanned, outcome, unmatched, eq_comm]
  · simp [readText, Journal.ofReading, scanned, outcome, Record.scanned, Record.ended]

/-- Any other fault is found in reading. -/
theorem of_matched (scanned : Lexemes.scan text = .ok row)
    (matched : text.toList.count '(' = text.toList.count ')') :
    RanksFaults text (readText algebra text).result (readText algebra text).steps
      (Journal.ofReading algebra ofStep text) := by
  have counts : row.count (· == .openParen) = row.count (· == .closeParen) := by
    rw [Lexemes.count_of_scan scanned (Token.ofSymbol?_eq_some_iff.mpr rfl),
      Lexemes.count_of_scan scanned (Token.ofSymbol?_eq_some_iff.mpr rfl)]
    exact matched
  have grammatical {fault : Fault} (failed : (row.read algebra).result = .error fault) :=
    Pushdown.ne_of_check ((Pushdown.check_eq_error_iff algebra counts).mpr failed)
  rw [readText_of_scan algebra scanned]
  constructor
  · intro stop
    simp only [scanned, reduceCtorEq, iff_false]
    exact fun failed => (grammatical failed).1 stop rfl
  · intro opening closing
    simp only [matched, ne_eq, not_true_eq_false, false_and, and_false, iff_false]
    exact fun failed => (grammatical failed).2 opening closing rfl
  · simp [scanned, matched]

/-- Whatever a text is read as, its faults have the same rank. -/
theorem of_reading (algebra : Algebra α) (ofStep : Step α → List Record) (text : String) :
    RanksFaults text (readText algebra text).result (readText algebra text).steps
      (Journal.ofReading algebra ofStep text) := by
  cases scanned : Lexemes.scan text with
  | error stop => exact of_scan_eq_error scanned
  | ok row =>
    by_cases matched : text.toList.count '(' = text.toList.count ')'
    · exact of_matched scanned matched
    · exact of_unmatched scanned matched

end RanksFaults

/-- **The rank of faults.** Both for its number and for its tree, a text is reported with the fault
of its scan if there is one, else with the numbers of its parentheses if they differ, and only
otherwise with what the grammar finds. -/
theorem rank_of_faults (text : String) :
    RanksFaults text (valueOf text) (readText .value text).steps (Journal.ofValue text) ∧
      RanksFaults text (treeOf text) (readText .tree text).steps (Journal.ofTree text) :=
  ⟨.of_reading .value _ text, .of_reading .tree _ text⟩

end Reckoner
