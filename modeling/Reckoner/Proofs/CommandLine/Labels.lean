import Reckoner.CommandLine.Report
import Reckoner.Proofs.Reading.OnePass
import Reckoner.Proofs.Scanning.Tiling
import Reckoner.Proofs.Scanning.Violations

/-! # What a label covers

A fault of a text lies at a character of it or at its end, unless it is about the number of
parentheses (`exists_culprit`). The offset of its label therefore cuts no character in two, and the
label covers this one character, or nothing at the end of the text (`Report.labels_of_rejected`).
-/

namespace Reckoner

open Text

/-- The token that was rejected in the course of reading. A parenthesis that is nested too deep is
an opening one. -/
def Fault.rejected? : Fault → Option Token
  | .scan _ => none
  | .unmatchedParentheses _ _ => none
  | .unclosedParenthesis _ found _ => some found
  | .operandExpected found _ => some found
  | .trailingInput found _ => some found
  | .nestingTooDeep _ _ => some .openParen

/-- The character that a fault of a text is about, right behind the characters `before`: one that
begins no token, the first digit of a number that is too large, or the first character of the lexeme
that was rejected. At the end of the text it is none. -/
inductive Culprit (text : String) : Fault → (before : List Char) → Option Char → Prop where
  | unrecognized {before after : List Char} {c : Char} (split : before ++ c :: after = text.toList)
    (outside : ¬ InAlphabet c) :
    Culprit text (.scan (.unrecognized c (.behind before))) before (some c)
  | literalTooLarge {before digits after : List Char} {c : Char}
    (maximal : IsMaximalRun text.toList before (c :: digits) after)
    (large : Int64.maxValue.toInt < Nat.ofDigitChars 10 (c :: digits) 0) :
    Culprit text (.scan (.literalTooLarge (.behind before))) before (some c)
  | lexeme {fault : Fault} {row : Lexemes} {lexeme : Lexeme} {before more after : List Char}
    {c : Char} (scanned : Lexemes.scan text = .ok row) (inside : lexeme ∈ row.body)
    (rejected : fault.rejected? = some lexeme.token)
    (located : fault.location? = some lexeme.location) (written : lexeme.raw.toList = c :: more)
    (decodes : Writes (c :: more) lexeme.token)
    (split : before ++ (c :: more ++ after) = text.toList)
    (behind : lexeme.location = .behind before) :
    Culprit text fault before (some c)
  | finish {fault : Fault} {row : Lexemes} (scanned : Lexemes.scan text = .ok row)
    (rejected : fault.rejected? = some .endOfInput)
    (located : fault.location? = some row.finish) (behind : row.finish = .behind text.toList) :
    Culprit text fault text.toList none

namespace Culprit

variable {text : String} {fault : Fault} {before : List Char} {culprit : Option Char}

/-- A fault is located where its culprit stands. -/
theorem location (about : Culprit text fault before culprit) :
    fault.location? = some (.behind before) := by
  cases about with
  | unrecognized => rfl
  | literalTooLarge => rfl
  | lexeme scanned inside rejected located written decodes split behind => rw [located, behind]
  | finish scanned rejected located behind => rw [located, behind]

/-- The culprit stands in the text. -/
theorem exists_split (about : Culprit text fault before culprit) :
    ∃ after, before ++ (culprit.toList ++ after) = text.toList := by
  cases about with
  | unrecognized split => exact ⟨_, split⟩
  | literalTooLarge maximal => exact ⟨_, maximal.split⟩
  | lexeme scanned inside rejected located written decodes split => exact ⟨_, split⟩
  | finish => exact ⟨[], by simp⟩

/-- Nothing is there if and only if the end of the input was rejected. -/
theorem eq_none_iff (about : Culprit text fault before culprit) :
    culprit = none ↔ fault.rejected? = some .endOfInput := by
  cases about with
  | unrecognized => simp [Fault.rejected?]
  | literalTooLarge => simp [Fault.rejected?]
  | lexeme scanned inside rejected located written decodes =>
    simp [rejected, decodes.ne_endOfInput]
  | finish scanned rejected => simp [rejected]

/-- Without a culprit, the fault is at the end of the text. -/
theorem eq_toList_of_none (about : Culprit text fault before none) : before = text.toList := by
  cases about
  rfl

/-- What is nested too deep is a parenthesis. -/
theorem of_nestingTooDeep {limit : Nat} {here : Location}
    (about : Culprit text (.nestingTooDeep limit here) before culprit) : culprit = some '(' := by
  cases about with
  | lexeme scanned inside rejected located written decodes =>
    obtain token := Option.some.inj rejected
    rw [← token] at decodes
    cases decodes
    rfl
  | finish scanned rejected => cases rejected

end Culprit

/-! ## Faults have culprits -/

/-- What violates the rules of scanning has a culprit. -/
theorem Violation.exists_culprit {text : String} {before : List Char} {fault : ScanFault}
    (violation : Violation text.toList before fault) :
    ∃ culprit, Culprit text (.scan fault) before culprit := by
  cases violation with
  | foreign split outside => exact ⟨_, .unrecognized split outside⟩
  | @tooLarge digits after maximal large =>
    cases digits with
    | nil => exact absurd rfl maximal.run.nonempty
    | cons c digits => exact ⟨_, .literalTooLarge maximal large⟩

namespace Pushdown

/-- What stands in the wrong place is what is rejected. -/
theorem rejected?_misplaced (opened : List Location) (found : Token) (location : Location) :
    (misplaced opened found location).rejected? = some found := by
  cases opened <;> rfl

/-- A refused lexeme is the one that the fault names. -/
theorem rejected?_of_step {checker : Pushdown} {lexeme : Lexeme} {fault : Fault}
    (refused : checker.step lexeme = .error fault) : fault.rejected? = some lexeme.token := by
  rcases step_eq_error refused with rfl | rfl | rfl
  · rw [(step_eq_nestingTooDeep refused).1]
    rfl
  · rfl
  · exact rejected?_misplaced _ _ _

end Pushdown

/-- A rejected lexeme of a text is at fault with its first character. -/
theorem Lexemes.exists_culprit {text : String} {row : Lexemes} {lexeme : Lexeme} {fault : Fault}
    (scanned : scan text = .ok row) (inside : lexeme ∈ row.toList)
    (rejected : fault.rejected? = some lexeme.token)
    (located : fault.location? = some lexeme.location) :
    ∃ before culprit, Culprit text fault before culprit := by
  obtain ⟨before, after, split, behind⟩ := exists_split_of_scan scanned inside
  rcases List.mem_append.mp inside with inside | last
  · have decodes := writes_of_scan scanned lexeme inside
    cases written : lexeme.raw.toList with
    | nil => exact absurd written decodes.ne_nil
    | cons c more =>
      rw [written] at split decodes
      exact ⟨before, some c,
        .lexeme scanned inside rejected located written decodes split behind⟩
  · obtain rfl := List.mem_singleton.mp last
    obtain ⟨-, -, -, -, finish⟩ := exists_tiling_of_scan scanned
    exact ⟨_, none, .finish scanned rejected located finish⟩

/-- Every fault of a text is about a character of it or about its end, unless the parentheses do not
match in number. -/
theorem exists_culprit {α : Type} {algebra : Algebra α} {text : String} {fault : Fault}
    (failed : (readText algebra text).result = .error fault) :
    (∃ opening closing, fault = .unmatchedParentheses opening closing) ∨
      ∃ before culprit, Culprit text fault before culprit := by
  cases scanned : Lexemes.scan text with
  | error stop =>
    obtain rfl : .scan stop = fault := by simpa [readText, scanned] using failed
    have ends : Ends text.toList (Lexemes.scan text) := Lexemes.ends_scanFrom (.begin _) []
    obtain ⟨before, violation, -⟩ := ends.first stop scanned
    exact .inr ⟨before, violation.exists_culprit⟩
  | ok row =>
    rw [readText_of_scan algebra scanned] at failed
    by_cases matched : row.count (· == .openParen) = row.count (· == .closeParen)
    · obtain ⟨lexeme, inside, reached, refused⟩ := Pushdown.exists_refused_of_check
        ((Pushdown.check_eq_error_iff algebra matched).mpr failed)
      exact .inr (Lexemes.exists_culprit scanned inside (Pushdown.rejected?_of_step refused)
        (Pushdown.location?_of_step refused))
    · rw [Lexemes.read_of_unmatched algebra matched] at failed
      cases failed
      exact .inl ⟨_, _, rfl⟩

/-! ## Labels -/

namespace Report

/-- A label of a text shows a fault: it starts where the fault lies, which is between two characters
of the text or at one of its ends, and covers the character that the fault is about. It is empty
exactly if the end of the input was rejected, and then it stands behind all of the text. -/
structure Shows (text : String) (fault : Fault) (label : Label) (before : List Char)
    (culprit : Option Char) (after : List Char) : Prop where
  about : Culprit text fault before culprit
  split : before ++ (culprit.toList ++ after) = text.toList
  located : ∃ here, fault.location? = some here ∧ label.offset = here.offset
  sliced : suffixFrom? label.offset text.toList = some (culprit.toList ++ after)
  covers : label.length = (String.ofList culprit.toList).utf8ByteSize
  deepest : ∀ limit here, fault = .nestingTooDeep limit here → culprit = some '('
  empty : label.length = 0 ↔ fault.rejected? = some .endOfInput
  ending : label.length = 0 → label.offset = text.utf8ByteSize

/-- The label at a location covers the character that stands there. -/
theorem labelAt_of_suffix {text : String} {here : Location} {culprit : Option Char}
    {after : List Char}
    (sliced : suffixFrom? here.offset text.toList = some (culprit.toList ++ after))
    (ending : culprit = none → after = []) :
    labelAt text here = ⟨here.offset, (String.ofList culprit.toList).utf8ByteSize⟩ := by
  cases culprit with
  | none => simp [labelAt, sliced, ending rfl]
  | some c => simp [labelAt, sliced]

/-- The label at a culprit shows its fault. -/
theorem shows_labelAt {text : String} {fault : Fault} {before : List Char}
    {culprit : Option Char} (about : Culprit text fault before culprit) :
    ∃ after, Shows text fault (labelAt text (.behind before)) before culprit after := by
  obtain ⟨after, split⟩ := about.exists_split
  have sliced : suffixFrom? (Location.behind before).offset text.toList =
      some (culprit.toList ++ after) := by
    rw [← split]
    exact suffixFrom?_append before _
  have ending : culprit = none → after = [] := by
    rintro rfl
    simpa [about.eq_toList_of_none] using split
  have label := labelAt_of_suffix sliced ending
  have width : (String.ofList culprit.toList).utf8ByteSize = 0 ↔ culprit = none := by
    cases culprit with
    | none => simp
    | some c => simp [Nat.ne_of_gt c.utf8Size_pos]
  refine ⟨after, about, split, ⟨_, about.location, ?_⟩, ?_, ?_, ?_, ?_, ?_⟩
  · rw [label]
  · rw [label, sliced]
  · rw [label]
  · rintro limit here rfl
    exact about.of_nestingTooDeep
  · rw [label, width, about.eq_none_iff]
  · rw [label, width]
    rintro rfl
    rw [about.eq_toList_of_none]
    simp [Location.behind]

/-- **What a report points at.** The report on a rejected text has no label exactly if the
parentheses do not match in number, and otherwise one, which shows the fault. -/
theorem labels_of_rejected {text : String} {fault : Fault}
    (rejected : valueOf text = .error fault ∨ treeOf text = .error fault) :
    ((ofFault text fault).labels = [] ↔
        ∃ opening closing, fault = .unmatchedParentheses opening closing) ∧
      ((¬ ∃ opening closing, fault = .unmatchedParentheses opening closing) →
        ∃ label before culprit after, (ofFault text fault).labels = [label] ∧
          Shows text fault label before culprit after) := by
  constructor
  · rw [← Fault.location?_eq_none_iff]
    cases located : fault.location? <;> simp [ofFault, located]
  · intro placed
    have culprits : ∃ before culprit, Culprit text fault before culprit := by
      rcases rejected with failed | failed
      · exact (exists_culprit failed).resolve_left placed
      · exact (exists_culprit failed).resolve_left placed
    obtain ⟨before, culprit, about⟩ := culprits
    obtain ⟨after, shown⟩ := shows_labelAt about
    exact ⟨_, before, culprit, after, by simp [ofFault, about.location], shown⟩

/-- A wide blank stands in front of the operators, and the second is rejected. -/
theorem labels_of_rejected_of_two_operators :
    valueOf "1\u2003÷ ÷" = .error (.operandExpected (.operator .div) ⟨7, 1, 5⟩) ∧
      (ofFault "1\u2003÷ ÷" (.operandExpected (.operator .div) ⟨7, 1, 5⟩)).labels = [⟨7, 2⟩] ∧
      ((ofFault "1\u2003÷ ÷" (.operandExpected (.operator .div) ⟨7, 1, 5⟩)).labels = [] ↔
        ∃ opening closing, Fault.operandExpected (.operator .div) ⟨7, 1, 5⟩ =
          .unmatchedParentheses opening closing) ∧
      ((¬ ∃ opening closing, Fault.operandExpected (.operator .div) ⟨7, 1, 5⟩ =
          .unmatchedParentheses opening closing) →
        ∃ label before culprit after,
          (ofFault "1\u2003÷ ÷" (.operandExpected (.operator .div) ⟨7, 1, 5⟩)).labels = [label] ∧
          Shows "1\u2003÷ ÷" (.operandExpected (.operator .div) ⟨7, 1, 5⟩) label before culprit
            after) := by
  have scanned : Lexemes.scan "1\u2003÷ ÷" =
      .ok ⟨[⟨.number 1, ⟨0, 1, 1⟩, "1"⟩, ⟨.operator .div, ⟨4, 1, 3⟩, "÷"⟩,
        ⟨.operator .div, ⟨7, 1, 5⟩, "÷"⟩], ⟨9, 1, 6⟩⟩ := by
    cbv
  have rejected : valueOf "1\u2003÷ ÷" =
      .error (.operandExpected (.operator .div) ⟨7, 1, 5⟩) := by
    rw [valueOf, readText_of_scan _ scanned, ← Pushdown.check_eq_error_iff .value (by decide)]
    rfl
  exact ⟨rejected, by cbv, labels_of_rejected (.inl rejected)⟩

end Report

end Reckoner
