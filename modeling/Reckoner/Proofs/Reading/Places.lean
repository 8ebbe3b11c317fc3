import Reckoner.Proofs.Reading.OnePass
import Reckoner.Proofs.Scanning.Places

/-! # Every location is a place of the text

Reading moves no location: a fault of a row names the locations of its lexemes and of its end
only (`Lexemes.locations_of_read`), because a checker remembers nothing but where parentheses were
opened. So all that comes out of a text, lexemes and faults alike, points at a place of this text
(`isPlaceOf_of_handsOut`).
-/

namespace Reckoner

/-- The locations that a fault names: where it lies and, if a parenthesis is not closed, also where
this was opened. -/
def Fault.locations : Fault → List Location
  | .unclosedParenthesis opened _ location => [opened, location]
  | fault => fault.location?.toList

namespace Pushdown

/-- A fault at the wrong place has its own location and that of the parenthesis that is open. -/
theorem locations_misplaced {opened : List Location} {found : Token} {location : Location} :
    ∀ here ∈ (misplaced opened found location).locations, here = location ∨ here ∈ opened := by
  cases opened with
  | nil => simp [misplaced, Fault.locations, Fault.location?]
  | cons last others => simp [misplaced, Fault.locations]

/-- A step remembers no location but that of the lexeme. -/
theorem opened_of_step {checker next : Pushdown} {lexeme : Lexeme}
    (taken : checker.step lexeme = .ok next) :
    ∀ here ∈ next.opened, here = lexeme.location ∨ here ∈ checker.opened := by
  rcases step_eq_ok taken with ⟨value, -, -, rfl⟩ | ⟨-, -, -, rfl⟩ | ⟨op, -, -, rfl⟩ |
    ⟨last, others, -, -, opened, rfl⟩
  · exact fun here inside => .inr inside
  · exact fun here inside => List.mem_cons.mp inside
  · exact fun here inside => .inr inside
  · intro here inside
    rw [opened]
    exact .inr (List.mem_cons_of_mem last inside)

/-- A refused lexeme is named with its own location and with those that are remembered. -/
theorem locations_of_step {checker : Pushdown} {lexeme : Lexeme} {fault : Fault}
    (refused : checker.step lexeme = .error fault) :
    ∀ here ∈ fault.locations, here = lexeme.location ∨ here ∈ checker.opened := by
  rcases step_eq_error refused with rfl | rfl | rfl
  · simp [Fault.locations, Fault.location?]
  · simp [Fault.locations, Fault.location?]
  · exact locations_misplaced

/-- A fault at the end of a row has this location and those of parentheses that are open. -/
theorem locations_of_conclude {finish : Location} {checker : Pushdown} {fault : Fault}
    (refused : checker.conclude finish = .error fault) :
    ∀ here ∈ fault.locations, here = finish ∨ here ∈ checker.opened := by
  obtain ⟨expectsOperand, opened⟩ := checker
  cases expectsOperand with
  | true =>
    cases refused
    simp [Fault.locations, Fault.location?]
  | false =>
    cases opened with
    | nil => cases refused
    | cons last others =>
      cases refused
      exact locations_misplaced

/-- A check that fails names no locations but those of the row and those that were remembered. -/
theorem locations_of_checkFrom {finish : Location} {checker : Pushdown} {row : List Lexeme}
    {fault : Fault} (failed : checkFrom finish checker row = .error fault) :
    ∀ here ∈ fault.locations,
      here ∈ checker.opened ∨ here = finish ∨ here ∈ row.map Lexeme.location := by
  induction row generalizing checker with
  | nil =>
    intro here inside
    rcases locations_of_conclude failed here inside with rfl | remembered
    · exact .inr (.inl rfl)
    · exact .inl remembered
  | cons lexeme rest ih =>
    intro here inside
    rw [List.map_cons, List.mem_cons]
    cases stepped : checker.step lexeme with
    | error first =>
      rw [checkFrom_error stepped] at failed
      cases failed
      rcases locations_of_step stepped here inside with rfl | remembered
      · exact .inr (.inr (.inl rfl))
      · exact .inl remembered
    | ok next =>
      rw [checkFrom_ok stepped] at failed
      rcases ih failed here inside with remembered | rfl | later
      · rcases opened_of_step stepped here remembered with rfl | earlier
        · exact .inr (.inr (.inl rfl))
        · exact .inl earlier
      · exact .inr (.inl rfl)
      · exact .inr (.inr (.inr later))

end Pushdown

/-- A fault of a row names locations of the row only. -/
theorem Lexemes.locations_of_read {α : Type} {algebra : Algebra α} {row : Lexemes} {fault : Fault}
    (failed : (row.read algebra).result = .error fault) :
    ∀ here ∈ fault.locations, here ∈ row.toList.map Lexeme.location := by
  by_cases matched : row.count (· == .openParen) = row.count (· == .closeParen)
  · have refused := (Pushdown.check_eq_error_iff algebra matched).mpr failed
    intro here inside
    have known := Pushdown.locations_of_checkFrom refused here inside
    simpa [Pushdown.start, toList, Lexeme.atEnd, or_comm, eq_comm] using known
  · rw [Lexemes.read_of_unmatched algebra matched] at failed
    cases failed
    simp [Fault.locations, Fault.location?]

/-- A text hands out a location: as that of one of its lexemes, the end of the input among them, as
that of the fault that stops the scan, or in a fault of its reading as a number or as a tree. -/
inductive HandsOut (text : String) : Location → Prop where
  | lexeme {row : Lexemes} {lexeme : Lexeme} (scanned : Lexemes.scan text = .ok row)
    (inside : lexeme ∈ row.toList) : HandsOut text lexeme.location
  | scanFault {fault : ScanFault} (failed : Lexemes.scan text = .error fault) :
    HandsOut text fault.location
  | fault {fault : Fault} {here : Location}
    (failed : valueOf text = .error fault ∨ treeOf text = .error fault)
    (inside : here ∈ fault.locations) : HandsOut text here

/-- Every location in a fault is a place of the text. -/
theorem isPlaceOf_of_readText {α : Type} {algebra : Algebra α} {text : String} {fault : Fault}
    (failed : (readText algebra text).result = .error fault) :
    ∀ here ∈ fault.locations, here.IsPlaceOf text := by
  have places := Lexemes.isPlaceOf_scan text
  unfold readText at failed
  cases scanned : Lexemes.scan text with
  | error scanFault =>
    rw [scanned] at failed places
    cases failed
    simpa [Fault.locations, Fault.location?, Lexemes.handedOut] using places
  | ok row =>
    rw [scanned] at failed places
    exact fun here inside => places here (Lexemes.locations_of_read failed here inside)

/-- **True places.** Whatever location a text hands out, it does not lie beyond the end of the text,
and the characters of the text before it have its offset, its line and its column. -/
theorem isPlaceOf_of_handsOut {text : String} {here : Location} (handed : HandsOut text here) :
    here.IsPlaceOf text ∧ here.offset ≤ text.utf8ByteSize := by
  have places := Lexemes.isPlaceOf_scan text
  have place : here.IsPlaceOf text := by
    cases handed with
    | lexeme scanned inside =>
      rw [scanned] at places
      exact places _ (List.mem_map_of_mem inside)
    | scanFault failed =>
      rw [failed] at places
      exact places _ (List.mem_singleton_self _)
    | fault failed inside =>
      rcases failed with failed | failed
      · exact isPlaceOf_of_readText failed _ inside
      · exact isPlaceOf_of_readText failed _ inside
  exact ⟨place, place.offset_le⟩

/-- The parenthesis stands behind a wide blank on the first line, and what is found instead of its
counterpart on the second. -/
theorem isPlaceOf_of_handsOut_of_unclosed :
    ∃ text, text = "1 x\u2003(2 ÷\n 3 4)" ∧
      HandsOut text ⟨6, 1, 5⟩ ∧ HandsOut text ⟨15, 2, 4⟩ ∧
      (Location.IsPlaceOf text ⟨6, 1, 5⟩ ∧ 6 ≤ text.utf8ByteSize) ∧
      (Location.IsPlaceOf text ⟨15, 2, 4⟩ ∧ 15 ≤ text.utf8ByteSize) := by
  have scanned : Lexemes.scan "1 x\u2003(2 ÷\n 3 4)" =
      .ok ⟨[⟨.number 1, ⟨0, 1, 1⟩, "1"⟩, ⟨.operator .mul, ⟨2, 1, 3⟩, "x"⟩,
        ⟨.openParen, ⟨6, 1, 5⟩, "("⟩, ⟨.number 2, ⟨7, 1, 6⟩, "2"⟩,
        ⟨.operator .div, ⟨9, 1, 8⟩, "÷"⟩, ⟨.number 3, ⟨13, 2, 2⟩, "3"⟩,
        ⟨.number 4, ⟨15, 2, 4⟩, "4"⟩, ⟨.closeParen, ⟨16, 2, 5⟩, ")"⟩], ⟨17, 2, 6⟩⟩ := by
    cbv
  have rejected : valueOf "1 x\u2003(2 ÷\n 3 4)" =
      .error (.unclosedParenthesis ⟨6, 1, 5⟩ (.number 4) ⟨15, 2, 4⟩) := by
    rw [valueOf, readText_of_scan _ scanned, ← Pushdown.check_eq_error_iff .value (by decide)]
    rfl
  have opened : HandsOut "1 x\u2003(2 ÷\n 3 4)" ⟨6, 1, 5⟩ :=
    .fault (.inl rejected) (by simp [Fault.locations])
  have found : HandsOut "1 x\u2003(2 ÷\n 3 4)" ⟨15, 2, 4⟩ :=
    .fault (.inl rejected) (by simp [Fault.locations])
  exact ⟨_, rfl, opened, found, isPlaceOf_of_handsOut opened, isPlaceOf_of_handsOut found⟩

end Reckoner
