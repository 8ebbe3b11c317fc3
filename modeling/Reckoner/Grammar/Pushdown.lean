import Reckoner.Grammar.Fault

/-! # Checking an expression in one pass

A row of lexemes is checked from left to right with no more memory than whether an operand is
expected and which parentheses are open. The checker names the fault without reading the
expression. The statements say what every step does to the parentheses and where a fault lies.
-/

namespace Reckoner

/-- What a checker remembers: whether an operand is expected, and the parentheses that are open, the
last one first. -/
structure Pushdown where
  expectsOperand : Bool
  opened : List Location
  deriving DecidableEq, Repr

namespace Pushdown

/-- In front of a row an operand is expected and nothing is open. -/
def start : Pushdown :=
  ⟨true, []⟩

/-- The fault of a lexeme after a complete operand, where the expression or the parenthesis opened
last has to end. -/
def misplaced (opened : List Location) (found : Token) (location : Location) : Fault :=
  match opened with
  | [] => .trailingInput found location
  | last :: _ => .unclosedParenthesis last found location

/-- The checker after one more lexeme. -/
def step (checker : Pushdown) (lexeme : Lexeme) : Except Fault Pushdown :=
  match checker.expectsOperand, lexeme.token, checker.opened with
  | true, .number _, opened => .ok ⟨false, opened⟩
  | true, .openParen, opened =>
    if opened.length = nestingLimit then .error (.nestingTooDeep nestingLimit lexeme.location)
    else .ok ⟨true, lexeme.location :: opened⟩
  | true, found, _ => .error (.operandExpected found lexeme.location)
  | false, .operator _, opened => .ok ⟨true, opened⟩
  | false, .closeParen, _ :: opened => .ok ⟨false, opened⟩
  | false, found, opened => .error (misplaced opened found lexeme.location)

/-- What the end of the input is for a checker. -/
def conclude (finish : Location) (checker : Pushdown) : Except Fault Unit :=
  match checker.expectsOperand, checker.opened with
  | true, _ => .error (.operandExpected .endOfInput finish)
  | false, [] => .ok ()
  | false, opened => .error (misplaced opened .endOfInput finish)

/-- The checker after a row of lexemes, or the first fault. -/
def run (checker : Pushdown) (row : List Lexeme) : Except Fault Pushdown :=
  row.foldlM step checker

/-- Checks the rest of a row that ends at `finish`. -/
def checkFrom (finish : Location) (checker : Pushdown) (row : List Lexeme) : Except Fault Unit :=
  (checker.run row).bind (conclude finish)

/-- Checks a whole row whose parentheses are as many on either side. -/
def check (row : Lexemes) : Except Fault Unit :=
  checkFrom row.finish start row.body

@[simp]
theorem run_nil (checker : Pushdown) : checker.run [] = .ok checker :=
  rfl

/-- The first lexeme decides on the checker that takes the others. -/
theorem run_cons (checker : Pushdown) (lexeme : Lexeme) (row : List Lexeme) :
    checker.run (lexeme :: row) = (checker.step lexeme).bind fun next => next.run row := by
  unfold run
  rw [List.foldlM_cons]
  rfl

/-- Two rows are checked one after the other. -/
theorem run_append (checker : Pushdown) (before after : List Lexeme) :
    checker.run (before ++ after) = (checker.run before).bind fun next => next.run after := by
  unfold run
  rw [List.foldlM_append]
  rfl

/-- A run over a row in two parts goes through a state between them. -/
theorem run_append_eq_ok_iff {checker reached : Pushdown} {before after : List Lexeme} :
    checker.run (before ++ after) = .ok reached ↔
      ∃ next, checker.run before = .ok next ∧ next.run after = .ok reached := by
  rw [run_append]
  cases checker.run before <;> simp [Except.bind]

/-- A row is taken if its first lexeme is and then the others are. -/
theorem run_cons_eq_ok_iff {checker reached : Pushdown} {lexeme : Lexeme} {row : List Lexeme} :
    checker.run (lexeme :: row) = .ok reached ↔
      ∃ next, checker.step lexeme = .ok next ∧ next.run row = .ok reached := by
  rw [run_cons]
  cases checker.step lexeme <;> simp [Except.bind]

/-- A check of a row begins with a step at its first lexeme. -/
theorem checkFrom_cons (finish : Location) (checker : Pushdown) (lexeme : Lexeme)
    (row : List Lexeme) :
    checkFrom finish checker (lexeme :: row) =
      (checker.step lexeme).bind fun next => checkFrom finish next row := by
  unfold checkFrom
  rw [run_cons]
  cases checker.step lexeme <;> rfl

/-- Behind an operand, an operator of either level is taken. -/
theorem step_operator {opened : List Location} {lexeme : Lexeme} {op : Operator}
    (found : lexeme.token = .operator op) :
    step ⟨false, opened⟩ lexeme = .ok ⟨true, opened⟩ := by
  simp [step, found]

/-- The lexemes that a checker takes: a number or a parenthesis in place of an operand, an operator
or the end of a parenthesis behind one. -/
theorem step_eq_ok {checker next : Pushdown} {lexeme : Lexeme}
    (taken : checker.step lexeme = .ok next) :
    (∃ value, lexeme.token = .number value ∧ checker.expectsOperand = true ∧
      next = ⟨false, checker.opened⟩) ∨
    (lexeme.token = .openParen ∧ checker.expectsOperand = true ∧
      checker.opened.length ≠ nestingLimit ∧ next = ⟨true, lexeme.location :: checker.opened⟩) ∨
    (∃ op, lexeme.token = .operator op ∧ checker.expectsOperand = false ∧
      next = ⟨true, checker.opened⟩) ∨
    (∃ last others, lexeme.token = .closeParen ∧ checker.expectsOperand = false ∧
      checker.opened = last :: others ∧ next = ⟨false, others⟩) := by
  obtain ⟨expectsOperand, opened⟩ := checker
  cases expectsOperand with
  | true =>
    cases found : lexeme.token with
    | number value =>
      simp only [step, found] at taken
      cases taken
      exact .inl ⟨value, rfl, rfl, rfl⟩
    | openParen =>
      by_cases full : opened.length = nestingLimit
      · simp only [step, found, full, ↓reduceIte] at taken
        cases taken
      · simp only [step, found, full, ↓reduceIte] at taken
        cases taken
        exact .inr (.inl ⟨rfl, rfl, full, rfl⟩)
    | _ =>
      simp only [step, found] at taken
      cases taken
  | false =>
    cases found : lexeme.token with
    | operator op =>
      simp only [step, found] at taken
      cases taken
      exact .inr (.inr (.inl ⟨op, rfl, rfl, rfl⟩))
    | closeParen =>
      cases opened with
      | nil =>
        simp only [step, found] at taken
        cases taken
      | cons last others =>
        simp only [step, found] at taken
        cases taken
        exact .inr (.inr (.inr ⟨last, others, rfl, rfl, rfl, rfl⟩))
    | _ =>
      simp only [step, found] at taken
      cases taken

/-- What a checker refuses, and its fault: in place of an operand a parenthesis when no more may be
opened, and everything that begins no operand; behind an operand everything but an operator, and the
end of a parenthesis only if none is open. -/
theorem step_eq_error_cases {checker : Pushdown} {lexeme : Lexeme} {fault : Fault}
    (refused : checker.step lexeme = .error fault) :
    (lexeme.token = .openParen ∧ checker.opened.length = nestingLimit ∧
      fault = .nestingTooDeep nestingLimit lexeme.location) ∨
    (checker.expectsOperand = true ∧ (∀ value, lexeme.token ≠ .number value) ∧
      lexeme.token ≠ .openParen ∧ fault = .operandExpected lexeme.token lexeme.location) ∨
    (checker.expectsOperand = false ∧ (∀ op, lexeme.token ≠ .operator op) ∧
      (lexeme.token = .closeParen → checker.opened = []) ∧
      fault = misplaced checker.opened lexeme.token lexeme.location) := by
  obtain ⟨expectsOperand, opened⟩ := checker
  cases expectsOperand with
  | true =>
    cases found : lexeme.token with
    | number value =>
      simp only [step, found] at refused
      cases refused
    | openParen =>
      by_cases full : opened.length = nestingLimit
      · simp only [step, found, full, ↓reduceIte] at refused
        cases refused
        exact .inl ⟨rfl, full, rfl⟩
      · simp only [step, found, full, ↓reduceIte] at refused
        cases refused
    | _ =>
      simp only [step, found] at refused
      cases refused
      exact .inr (.inl ⟨rfl, by simp, by simp, rfl⟩)
  | false =>
    cases found : lexeme.token with
    | operator op =>
      simp only [step, found] at refused
      cases refused
    | closeParen =>
      cases opened with
      | nil =>
        simp only [step, found] at refused
        cases refused
        exact .inr (.inr ⟨rfl, by simp, fun _ => rfl, rfl⟩)
      | cons last others =>
        simp only [step, found] at refused
        cases refused
    | _ =>
      simp only [step, found] at refused
      cases refused
      exact .inr (.inr ⟨rfl, by simp, by simp, rfl⟩)

/-- The faults of a checker, each at the lexeme that is refused. -/
theorem step_eq_error {checker : Pushdown} {lexeme : Lexeme} {fault : Fault}
    (refused : checker.step lexeme = .error fault) :
    fault = .nestingTooDeep nestingLimit lexeme.location ∨
      fault = .operandExpected lexeme.token lexeme.location ∨
      fault = misplaced checker.opened lexeme.token lexeme.location := by
  rcases step_eq_error_cases refused with ⟨-, -, deep⟩ | ⟨-, -, -, missing⟩ | ⟨-, -, -, wrong⟩
  · exact .inl deep
  · exact .inr (.inl missing)
  · exact .inr (.inr wrong)

/-- Only a parenthesis is nested too deeply, and only with as many open as may be: the limit that
the fault names. -/
theorem step_eq_nestingTooDeep {checker : Pushdown} {lexeme : Lexeme} {limit : Nat}
    {here : Location} (refused : checker.step lexeme = .error (.nestingTooDeep limit here)) :
    lexeme.token = .openParen ∧ checker.opened.length = nestingLimit ∧ limit = nestingLimit ∧
      here = lexeme.location := by
  rcases step_eq_error_cases refused with ⟨opens, full, same⟩ | ⟨-, -, -, other⟩ |
    ⟨-, -, -, other⟩
  · obtain ⟨named, located⟩ := Fault.nestingTooDeep.inj same
    exact ⟨opens, full, named, located⟩
  · cases other
  · cases opened : checker.opened <;> rw [opened] at other <;> cases other

/-- Something that stands in the wrong place is where the fault lies. -/
theorem location?_misplaced (opened : List Location) (found : Token) (location : Location) :
    (misplaced opened found location).location? = some location := by
  cases opened <;> rfl

/-- A refused lexeme is where the fault lies. -/
theorem location?_of_step {checker : Pushdown} {lexeme : Lexeme} {fault : Fault}
    (refused : checker.step lexeme = .error fault) :
    fault.location? = some lexeme.location := by
  rcases step_eq_error refused with rfl | rfl | rfl
  · rfl
  · rfl
  · exact location?_misplaced _ _ _

/-- A row that ends too early has its fault at its end. -/
theorem location?_of_conclude {finish : Location} {checker : Pushdown} {fault : Fault}
    (refused : checker.conclude finish = .error fault) : fault.location? = some finish := by
  obtain ⟨expectsOperand, opened⟩ := checker
  cases expectsOperand with
  | true =>
    cases refused
    rfl
  | false =>
    cases opened <;> cases refused
    rfl

/-- The end of the input is in place when no operand is missing and no parenthesis is open. -/
theorem conclude_eq_ok_iff {finish : Location} {checker : Pushdown} :
    checker.conclude finish = .ok () ↔ checker = ⟨false, []⟩ := by
  obtain ⟨expectsOperand, opened⟩ := checker
  cases expectsOperand with
  | true => simp [conclude]
  | false => cases opened <;> simp [conclude]

/-- A row is accepted if it ends behind an operand with every parenthesis closed. -/
theorem checkFrom_eq_ok_iff {finish : Location} {checker : Pushdown} {row : List Lexeme} :
    checkFrom finish checker row = .ok () ↔ checker.run row = .ok ⟨false, []⟩ := by
  unfold checkFrom
  cases ran : checker.run row with
  | error fault => simp [Except.bind]
  | ok reached => simp [Except.bind, conclude_eq_ok_iff]

/-- A check with a fault stops at a lexeme, or it fails at the end of the input. -/
theorem checkFrom_eq_error_iff {finish : Location} {checker : Pushdown} {row : List Lexeme}
    {fault : Fault} :
    checkFrom finish checker row = .error fault ↔
      checker.run row = .error fault ∨
        ∃ reached, checker.run row = .ok reached ∧ reached.conclude finish = .error fault := by
  unfold checkFrom
  cases checker.run row <;> simp [Except.bind]

/-- The first fault of a run lies at a lexeme that is refused after all those before it were
taken. -/
theorem exists_step_of_run_eq_error {checker : Pushdown} {row : List Lexeme} {fault : Fault}
    (failed : checker.run row = .error fault) :
    ∃ before lexeme after reached, row = before ++ lexeme :: after ∧
      checker.run before = .ok reached ∧ reached.step lexeme = .error fault := by
  induction row generalizing checker with
  | nil => cases failed
  | cons lexeme rest ih =>
    rw [run_cons] at failed
    cases stepped : checker.step lexeme with
    | error first =>
      rw [stepped] at failed
      cases failed
      exact ⟨[], lexeme, rest, checker, rfl, rfl, stepped⟩
    | ok next =>
      rw [stepped] at failed
      obtain ⟨before, refused, after, reached, rfl, ran, fails⟩ := ih failed
      refine ⟨lexeme :: before, refused, after, reached, rfl, ?_, fails⟩
      rw [run_cons, stepped]
      exact ran

/-- A checker that the end of the input does not conclude refuses it as a lexeme. -/
theorem step_atEnd_of_conclude {checker : Pushdown} {finish : Location} {fault : Fault}
    (refused : checker.conclude finish = .error fault) :
    checker.step (.atEnd finish) = .error fault := by
  obtain ⟨expectsOperand, opened⟩ := checker
  cases expectsOperand with
  | true => simpa [step, conclude, Lexeme.atEnd] using refused
  | false =>
    cases opened with
    | nil => cases refused
    | cons last others => simpa [step, conclude, Lexeme.atEnd] using refused

/-- A check that fails refuses a lexeme of the row, or its end. -/
theorem exists_refused_of_check {row : Lexemes} {fault : Fault}
    (failed : check row = .error fault) :
    ∃ lexeme ∈ row.toList, ∃ reached : Pushdown, reached.step lexeme = .error fault := by
  rcases checkFrom_eq_error_iff.mp failed with stopped | ⟨reached, -, refused⟩
  · obtain ⟨before, lexeme, after, reached, split, -, refused⟩ :=
      exists_step_of_run_eq_error stopped
    exact ⟨lexeme, by simp [Lexemes.toList, split], reached, refused⟩
  · exact ⟨.atEnd row.finish, by simp [Lexemes.toList], reached, step_atEnd_of_conclude refused⟩

end Pushdown

end Reckoner
