import Reckoner.Proofs.Reading.CorrectPrefix
import Reckoner.Proofs.Scanning.Counterparts

/-! # What a fault has found

A fault tells which token was found where something else had to stand. Since the parentheses of a
text are counted before anything is read, the end of the input is found in one place only, where an
operand is missing outside all parentheses; and of a parenthesis that is not closed, it is always
the last one that the fault points at (`namesFound_of_rejected`).

The parentheses that a checker holds open are those that the characters before it leave open
(`Pushdown.tracks_of_run`). A text with as many opening as closing parentheses leaves none open at
its end.
-/

namespace Reckoner

open Text

/-- The lexeme `found` stands at `here`, and of all the parentheses that are opened before it and
not closed before it, the one at `opened` is the last. -/
structure UnclosedAt (text : String) (opened : Location) (found : Token) (here : Location) :
    Prop where
  stands : ∃ row raw, Lexemes.scan text = .ok row ∧ ⟨found, here, raw⟩ ∈ row.body
  last : ∃ passed before, passed <+: text.toList ∧ here = .behind passed ∧
    opened = .behind before ∧ IsLastOpen passed before

/-- Every parenthesis of the text is closed, and its last lexeme, if it has any, is an operator. -/
structure LacksLastOperand (text : String) : Prop where
  closed : ClosesEach text.toList
  last : ∃ row, Lexemes.scan text = .ok row ∧
    ∀ lexeme ∈ row.body.getLast?, ∃ op, lexeme.token = .operator op

/-- What a fault of a text names as found could not have been taken in its place, and it is the end
of the input only where an operand is missing outside all parentheses. -/
structure NamesFound (text : String) (fault : Fault) : Prop where
  unclosed : ∀ opened found here, fault = .unclosedParenthesis opened found here →
    found ≠ .endOfInput ∧ (∀ op, found ≠ .operator op) ∧ found ≠ .closeParen ∧
      UnclosedAt text opened found here
  trailing : ∀ found here, fault = .trailingInput found here →
    found ≠ .endOfInput ∧ ∀ op, found ≠ .operator op
  missing : ∀ found here, fault = .operandExpected found here →
    (∀ value, found ≠ .number value) ∧ found ≠ .openParen
  exhausted : ∀ here, fault = .operandExpected .endOfInput here → LacksLastOperand text

namespace NamesFound

variable {text : String} {opened here : Location} {found : Token}

/-- What is said of a parenthesis that is not closed where its inside ends. -/
theorem of_unclosedParenthesis (inside : found ≠ .endOfInput)
    (operator : ∀ op, found ≠ .operator op) (closing : found ≠ .closeParen)
    (stands : UnclosedAt text opened found here) :
    NamesFound text (.unclosedParenthesis opened found here) where
  unclosed := by
    rintro _ _ _ ⟨⟩
    exact ⟨inside, operator, closing, stands⟩
  trailing := by simp
  missing := by simp
  exhausted := by simp

/-- What is said of something behind a complete expression. -/
theorem of_trailingInput (inside : found ≠ .endOfInput) (operator : ∀ op, found ≠ .operator op) :
    NamesFound text (.trailingInput found here) where
  unclosed := by simp
  trailing := by
    rintro _ _ ⟨⟩
    exact ⟨inside, operator⟩
  missing := by simp
  exhausted := by simp

/-- What is said of something in place of an operand. -/
theorem of_operandExpected (number : ∀ value, found ≠ .number value)
    (openParen : found ≠ .openParen) (ended : found = .endOfInput → LacksLastOperand text) :
    NamesFound text (.operandExpected found here) where
  unclosed := by simp
  trailing := by simp
  missing := by
    rintro _ _ ⟨⟩
    exact ⟨number, openParen⟩
  exhausted := by
    rintro _ ⟨⟩
    exact ended rfl

end NamesFound

namespace Pushdown

variable {passed text lead : List Char} {checker next reached : Pushdown}

/-! ## The parentheses that are open -/

/-- A checker behind some characters holds open the parentheses that these leave open. -/
def Tracks (passed : List Char) (checker : Pushdown) : Prop :=
  ∃ opened, LeavesOpen passed opened ∧ checker.opened = opened.map Location.behind

/-- At the start nothing is open. -/
theorem tracks_start : Tracks [] start :=
  ⟨[], .nothing (.of_blanks (by simp)), rfl⟩

namespace Tracks

/-- What is closed does not change what is open. -/
theorem append {more : List Char} (tracks : Tracks passed checker) (closed : Text.IsClosed more) :
    Tracks (passed ++ more) checker := by
  obtain ⟨opened, leaves, same⟩ := tracks
  exact ⟨opened, leaves.append closed, same⟩

/-- With no parenthesis open, all that was passed is closed. -/
theorem isClosed (tracks : Tracks passed checker) (none : checker.opened = []) :
    Text.IsClosed passed := by
  obtain ⟨opened, leaves, same⟩ := tracks
  obtain rfl := List.map_eq_nil_iff.mp (same.symm.trans none)
  exact leaves.isClosed

/-- The parenthesis on top of the stack is the last one that is open. -/
theorem isLastOpen {last : Location} {others : List Location} (tracks : Tracks passed checker)
    (top : checker.opened = last :: others) :
    ∃ before, last = .behind before ∧ IsLastOpen passed before := by
  obtain ⟨opened, leaves, same⟩ := tracks
  obtain ⟨before, earlier, rfl, rfl, -⟩ := List.map_eq_cons_iff.mp (same.symm.trans top)
  exact ⟨before, rfl, leaves.isLastOpen⟩

end Tracks

/-- A step opens and closes what the raw text of its lexeme does. -/
theorem tracks_of_step {tile : Tile} (tracks : Tracks passed checker)
    (decodes : Writes tile.raw tile.lexeme.token)
    (located : tile.lexeme.location = .behind passed)
    (taken : checker.step tile.lexeme = .ok next) : Tracks (passed ++ tile.raw) next := by
  rcases step_eq_ok taken with ⟨value, token, -, rfl⟩ | ⟨token, -, -, rfl⟩ | ⟨op, token, -, rfl⟩ |
    ⟨last, others, token, -, opened, rfl⟩
  · exact tracks.append (.of_writes decodes (by simp [token, surplus]))
  · obtain ⟨opened, leaves, same⟩ := tracks
    rw [token] at decodes
    rw [decodes.eq_of_openParen]
    exact ⟨passed :: opened, leaves.openParen, by simp [located, same]⟩
  · exact tracks.append (.of_writes decodes (by simp [token, surplus]))
  · obtain ⟨_, leaves, same⟩ := tracks
    obtain ⟨before, earlier, rfl, -, rest⟩ := List.map_eq_cons_iff.mp (same.symm.trans opened)
    rw [token] at decodes
    rw [decodes.eq_of_closeParen]
    exact ⟨earlier, leaves.closeParen, rest.symm⟩

/-- A run opens and closes what its text does. -/
theorem tracks_of_run {tiles : List Tile} (tiling : IsTiling passed text lead tiles)
    (tracks : Tracks passed checker)
    (ran : checker.run (tiles.map Tile.lexeme) = .ok reached) :
    Tracks (passed ++ text) reached := by
  induction tiles generalizing passed text lead checker with
  | nil =>
    cases ran
    obtain rfl : lead = text := by simpa using tiling.whole
    exact tracks.append (.of_blanks tiling.separates)
  | cons tile tiles ih =>
    obtain ⟨later, rfl, located, -, others⟩ := tiling.of_cons
    obtain ⟨next, taken, ran⟩ := run_cons_eq_ok_iff.mp ran
    have decodes := (tiling.marks tile List.mem_cons_self).decodes
    have before := tracks.append (.of_blanks tiling.separates)
    have behind := ih others (tracks_of_step before decodes located taken) ran
    simpa using behind

/-! ## What is found -/

/-- A checker outside all parentheses expects an operand only at the start and behind an
operator. -/
theorem exists_operator_of_run {row : List Lexeme} (ran : start.run row = .ok reached)
    (expects : reached.expectsOperand = true) (none : reached.opened = []) :
    ∀ lexeme ∈ row.getLast?, ∃ op, lexeme.token = .operator op := by
  rcases List.eq_nil_or_concat row with rfl | ⟨before, last, rfl⟩
  · simp
  · rw [List.concat_eq_append] at ran ⊢
    obtain ⟨checker, -, ends⟩ := run_append_eq_ok_iff.mp ran
    obtain ⟨next, taken, same⟩ := run_cons_eq_ok_iff.mp ends
    cases same
    intro lexeme final
    obtain rfl : last = lexeme := by simpa using final
    rcases step_eq_ok taken with ⟨value, -, -, rfl⟩ | ⟨-, -, -, rfl⟩ | ⟨op, token, -⟩ |
      ⟨_, others, -, -, -, rfl⟩
    · cases expects
    · cases none
    · exact ⟨op, token⟩
    · cases expects

variable {source : String} {row : Lexemes} {fault : Fault}

/-- As many opening as closing parentheses leave none open. -/
theorem opened_eq_nil_of_run
    (matched : row.count (· == .openParen) = row.count (· == .closeParen))
    (ran : start.run row.body = .ok reached) : reached.opened = [] := by
  have balanced : surplus (Lexeme.tokens row.body) = 0 := Lexemes.matched_iff.mp matched
  have level := length_opened_of_run ran
  rw [balanced] at level
  simpa [start] using level

/-- At the end of a row with as many opening as closing parentheses only an operand can be
missing. -/
theorem namesFound_of_conclude (scanned : Lexemes.scan source = .ok row)
    (matched : row.count (· == .openParen) = row.count (· == .closeParen))
    (ran : start.run row.body = .ok reached)
    (refused : reached.conclude row.finish = .error fault) : NamesFound source fault := by
  obtain ⟨lead, tiles, tiling, body, -⟩ := Lexemes.exists_tiling_of_scan scanned
  have none := opened_eq_nil_of_run matched ran
  cases expects : reached.expectsOperand with
  | false =>
    have concluded : reached.conclude row.finish = .ok () :=
      conclude_eq_ok_iff.mpr (by rw [← expects, ← none])
    rw [concluded] at refused
    cases refused
  | true =>
    obtain rfl : fault = .operandExpected .endOfInput row.finish := by
      simpa [conclude, expects, eq_comm] using refused
    have tracks := tracks_of_run tiling tracks_start (body ▸ ran)
    exact .of_operandExpected (by simp) (by simp) fun _ =>
      ⟨(tracks.isClosed none).closesEach, row, scanned, exists_operator_of_run ran expects none⟩

/-- A lexeme that the checker refuses is the end of the input nowhere. -/
theorem namesFound_of_run (scanned : Lexemes.scan source = .ok row)
    (failed : start.run row.body = .error fault) : NamesFound source fault := by
  obtain ⟨lead, tiles, tiling, body, -⟩ := Lexemes.exists_tiling_of_scan scanned
  obtain ⟨before, lexeme, after, reached, split, ran, refused⟩ :=
    exists_step_of_run_eq_error failed
  obtain ⟨earlier, others, rfl, rfl, rest⟩ := List.map_eq_append_iff.mp (body.symm.trans split)
  obtain ⟨tile, later, rfl, rfl, -⟩ := List.map_eq_cons_iff.mp rest
  have inside : tile.lexeme ∈ row.body := by simp [split]
  have solid := Lexemes.isSolid_of_scan scanned tile.lexeme inside
  have located : tile.lexeme.location = .behind (lead ++ earlier.flatMap Tile.written) := by
    simpa using tiling.located earlier.length tile (by simp)
  have tracks := tracks_of_run tiling.of_append tracks_start ran
  rw [List.nil_append] at tracks
  rcases step_eq_error_cases refused with ⟨-, -, rfl⟩ | ⟨-, number, openParen, rfl⟩ |
    ⟨-, operator, closing, rfl⟩
  · constructor <;> simp
  · exact .of_operandExpected number openParen fun ended => absurd ended solid
  · cases top : reached.opened with
    | nil => exact .of_trailingInput solid operator
    | cons last others =>
      have unclosed : tile.lexeme.token ≠ .closeParen := fun closes => by
        rw [closing closes] at top
        cases top
      obtain ⟨opening, rfl, isLast⟩ := tracks.isLastOpen top
      have starts : lead ++ earlier.flatMap Tile.written <+: source.toList :=
        ⟨(tile :: later).flatMap Tile.written, by simp [← tiling.whole]⟩
      exact .of_unclosedParenthesis solid operator unclosed
        ⟨⟨row, tile.lexeme.raw, scanned, inside⟩, _, opening, starts, located, rfl, isLast⟩

end Pushdown

/-- Every fault of a reading names what it found. -/
theorem namesFound_of_readText {α : Type} {algebra : Algebra α} {text : String} {fault : Fault}
    (failed : (readText algebra text).result = .error fault) : NamesFound text fault := by
  cases scanned : Lexemes.scan text with
  | error stop =>
    obtain rfl : Fault.scan stop = fault := by simpa [readText, scanned] using failed
    constructor <;> simp
  | ok row =>
    rw [readText_of_scan algebra scanned] at failed
    by_cases matched : row.count (· == .openParen) = row.count (· == .closeParen)
    · have refused := (Pushdown.check_eq_error_iff algebra matched).mpr failed
      rcases Pushdown.checkFrom_eq_error_iff.mp refused with stopped | ⟨reached, ran, ended⟩
      · exact Pushdown.namesFound_of_run scanned stopped
      · exact Pushdown.namesFound_of_conclude scanned matched ran ended
    · rw [Lexemes.read_of_unmatched algebra matched] at failed
      cases failed
      constructor <;> simp

/-- **What is found.** If a text has no number or no tree, its fault names no end of the input where
a parenthesis is not closed or where the expression was complete; where it names one for a missing
operand, all parentheses of the text are closed and an operator stands last, if anything does. What
is found is never a token that would have been taken, and the parenthesis that is not closed is the
last one that is open in front of what is found. -/
theorem namesFound_of_rejected {text : String} {fault : Fault}
    (rejected : valueOf text = .error fault ∨ treeOf text = .error fault) :
    NamesFound text fault := by
  rcases rejected with failed | failed
  · exact namesFound_of_readText failed
  · exact namesFound_of_readText failed

/-- In one text the outer parenthesis is still open when a second number is found, in another the
last operand is missing. -/
theorem namesFound_of_rejected_of_two_texts :
    (∃ fault, fault = .unclosedParenthesis ⟨0, 1, 1⟩ (.number 2) ⟨5, 1, 6⟩ ∧
      valueOf "((1) 2)" = .error fault ∧ NamesFound "((1) 2)" fault) ∧
    ∃ fault, fault = .operandExpected .endOfInput ⟨5, 1, 6⟩ ∧
      treeOf "(1) +" = .error fault ∧ NamesFound "(1) +" fault := by
  constructor
  · have scanned : Lexemes.scan "((1) 2)" =
        .ok ⟨[⟨.openParen, ⟨0, 1, 1⟩, "("⟩, ⟨.openParen, ⟨1, 1, 2⟩, "("⟩,
          ⟨.number 1, ⟨2, 1, 3⟩, "1"⟩, ⟨.closeParen, ⟨3, 1, 4⟩, ")"⟩,
          ⟨.number 2, ⟨5, 1, 6⟩, "2"⟩, ⟨.closeParen, ⟨6, 1, 7⟩, ")"⟩], ⟨7, 1, 8⟩⟩ := by
      cbv
    have rejected : valueOf "((1) 2)" =
        .error (.unclosedParenthesis ⟨0, 1, 1⟩ (.number 2) ⟨5, 1, 6⟩) := by
      rw [valueOf, readText_of_scan _ scanned, ← Pushdown.check_eq_error_iff .value (by decide)]
      rfl
    exact ⟨_, rfl, rejected, namesFound_of_rejected (.inl rejected)⟩
  · have scanned : Lexemes.scan "(1) +" =
        .ok ⟨[⟨.openParen, ⟨0, 1, 1⟩, "("⟩, ⟨.number 1, ⟨1, 1, 2⟩, "1"⟩,
          ⟨.closeParen, ⟨2, 1, 3⟩, ")"⟩, ⟨.operator .add, ⟨4, 1, 5⟩, "+"⟩], ⟨5, 1, 6⟩⟩ := by
      cbv
    have rejected : treeOf "(1) +" = .error (.operandExpected .endOfInput ⟨5, 1, 6⟩) := by
      rw [treeOf, readText_of_scan _ scanned, ← Pushdown.check_eq_error_iff .tree (by decide)]
      rfl
    exact ⟨_, rfl, rejected, namesFound_of_rejected (.inr rejected)⟩

end Reckoner
