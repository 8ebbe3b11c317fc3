import Reckoner.Proofs.Reading.Grammar
import Reckoner.Proofs.Scanning.Places

/-! # The first fault is found at once

A fault lies at the first token that no continuation can mend: the tokens before it begin some
expression, and together with it they begin none. The checker accepts exactly the rows of
expressions (`Pushdown.check_eq_ok_iff`), and what it remembers after a row tells how to complete
the row to one (`Pushdown.run_completion`), so that it refuses a token only when it is too late.
-/

namespace Reckoner

/-- The rows that the grammar expands to with no more parentheses open than the limit. -/
def IsExpression (tokens : List Token) : Prop :=
  (∃ tree, Expands .sum tokens tree) ∧ NestedWithin nestingLimit tokens

/-- The rows that some expression starts with. -/
def IsBeginning (tokens : List Token) : Prop :=
  ∃ more, IsExpression (tokens ++ more)

/-- Expressions are what is derived one operand at a time, within the limit. -/
theorem isExpression_iff_derives {tokens : List Token} :
    IsExpression tokens ↔ ∃ tree, Derives .sum tokens tree ∧ NestedWithin nestingLimit tokens := by
  simp only [IsExpression, expands_iff_derives, exists_and_right]

namespace Pushdown

/-! ## The rows that are accepted -/

/-- The parentheses that a checker holds open are those that a token opens more than it closes. -/
theorem length_opened_of_step {checker next : Pushdown} {lexeme : Lexeme}
    (taken : checker.step lexeme = .ok next) :
    (next.opened.length : Int) = checker.opened.length + surplus [lexeme.token] := by
  rcases step_eq_ok taken with ⟨value, token, -, rfl⟩ | ⟨token, -, -, rfl⟩ | ⟨op, token, -, rfl⟩ |
    ⟨last, others, token, -, opened, rfl⟩
  · simp [token, surplus]
  · simp [token, surplus]
  · simp [token, surplus]
  · have closed : surplus [.closeParen] = -1 := rfl
    simp only [token, opened, closed, List.length_cons]
    omega

/-- A checker has as many parentheses open as its lexemes leave open. -/
theorem length_opened_of_run {checker reached : Pushdown} {row : List Lexeme}
    (ran : checker.run row = .ok reached) :
    (reached.opened.length : Int) = checker.opened.length + surplus (Lexeme.tokens row) := by
  induction row generalizing checker with
  | nil =>
    cases ran
    simp
  | cons lexeme rest ih =>
    rw [run_cons] at ran
    cases stepped : checker.step lexeme with
    | error fault =>
      rw [stepped] at ran
      cases ran
    | ok next =>
      rw [stepped] at ran
      have here := length_opened_of_step stepped
      have later := ih ran
      rw [Lexeme.tokens_cons, ← List.singleton_append, surplus_append]
      omega

/-- **The language of the checker.** It accepts exactly the rows of expressions. -/
theorem check_eq_ok_iff {row : Lexemes} : check row = .ok () ↔ IsExpression row.tokens := by
  rw [isExpression_iff_derives]
  constructor
  · intro accepted
    have opened := length_opened_of_run (checkFrom_eq_ok_iff.mp accepted)
    simp only [start, List.length_nil] at opened
    have balanced : surplus row.tokens = 0 := by
      unfold Lexemes.tokens
      omega
    have matched := Lexemes.matched_iff.mpr balanced
    rw [check_eq_map_read .tree row matched] at accepted
    cases result : (row.read .tree).result with
    | error fault =>
      rw [result] at accepted
      cases accepted
    | ok tree => exact ⟨tree, Lexemes.read_tree_eq_ok_iff.mp result⟩
  · rintro ⟨tree, derived, nested⟩
    have matched := Lexemes.matched_iff.mpr derived.surplus_eq_zero
    have result := Lexemes.read_tree_eq_ok_iff.mpr ⟨derived, nested⟩
    rw [check_eq_map_read .tree row matched, result]
    rfl

/-- The checker ends as it accepts on exactly the rows that are expressions. -/
theorem run_eq_ok_iff {row : List Lexeme} :
    start.run row = .ok ⟨false, []⟩ ↔ IsExpression (Lexeme.tokens row) := by
  have accepted : check ⟨row, .start⟩ = .ok () ↔ IsExpression (Lexeme.tokens row) :=
    check_eq_ok_iff
  rw [← accepted]
  exact checkFrom_eq_ok_iff.symm

/-! ## Completing a row -/

/-- The shortest continuation: the operand that is missing, and every parenthesis closed. -/
def completion (checker : Pushdown) : List Token :=
  (if checker.expectsOperand then [.number 0] else []) ++
    List.replicate checker.opened.length .closeParen

/-- All that is open can be closed. -/
theorem run_replicate_closeParen (opened : List Location) :
    run ⟨false, opened⟩ ((List.replicate opened.length .closeParen).map Lexeme.ofToken) =
      .ok ⟨false, []⟩ := by
  induction opened with
  | nil => rfl
  | cons last others ih =>
    rw [List.length_cons, List.replicate_succ, List.map_cons, run_cons]
    exact ih

/-- Every checker can be led to acceptance. -/
theorem run_completion (checker : Pushdown) :
    checker.run (checker.completion.map Lexeme.ofToken) = .ok ⟨false, []⟩ := by
  obtain ⟨expectsOperand, opened⟩ := checker
  have closing := run_replicate_closeParen opened
  cases expectsOperand with
  | true =>
    simp only [completion, ↓reduceIte, List.singleton_append, List.map_cons, run_cons]
    exact closing
  | false =>
    simp only [completion, Bool.false_eq_true, ↓reduceIte, List.nil_append]
    exact closing

/-- What the checker takes begins an expression. -/
theorem isBeginning_of_run {row : List Lexeme} {reached : Pushdown}
    (ran : start.run row = .ok reached) : IsBeginning (Lexeme.tokens row) := by
  refine ⟨reached.completion, ?_⟩
  have completed : start.run (row ++ reached.completion.map Lexeme.ofToken) =
      .ok ⟨false, []⟩ := by
    rw [run_append, ran]
    exact reached.run_completion
  have expression := run_eq_ok_iff.mp completed
  rwa [Lexeme.tokens_append, Lexeme.tokens_map_ofToken] at expression

/-- No expression begins with what the checker refuses. -/
theorem not_isBeginning_of_run {row : List Lexeme} {fault : Fault}
    (failed : start.run row = .error fault) : ¬ IsBeginning (Lexeme.tokens row) := by
  rintro ⟨more, expression⟩
  rw [← Lexeme.tokens_map_ofToken more, ← Lexeme.tokens_append, ← run_eq_ok_iff, run_append,
    failed] at expression
  cases expression

/-! ## Where a check fails -/

/-- A fault lies at a lexeme behind a beginning of an expression that it spoils, or at the end of
the input behind such a beginning. -/
theorem exists_index_of_check_eq_error {row : Lexemes} {fault : Fault}
    (failed : check row = .error fault) :
    ∃ index lexeme, row.toList[index]? = some lexeme ∧
      fault.location? = some lexeme.location ∧ IsBeginning (row.tokens.take index) ∧
      (index < row.tokens.length → ¬ IsBeginning (row.tokens.take (index + 1))) := by
  rcases checkFrom_eq_error_iff.mp failed with stopped | ⟨reached, ran, refused⟩
  · obtain ⟨before, lexeme, after, reached, split, ran, refused⟩ :=
      exists_step_of_run_eq_error stopped
    have dead : start.run (before ++ [lexeme]) = .error fault := by
      rw [run_append, ran]
      change reached.run [lexeme] = .error fault
      rw [run_cons, refused]
      rfl
    have tokens : row.tokens =
        Lexeme.tokens before ++ lexeme.token :: Lexeme.tokens after := by
      simp [Lexemes.tokens, split]
    have length := (Lexeme.length_tokens before).symm
    refine ⟨before.length, lexeme, ?_, location?_of_step refused, ?_, fun _ => ?_⟩
    · simp [Lexemes.toList, split]
    · rw [tokens, length, List.take_left]
      exact isBeginning_of_run ran
    · have spoiled := not_isBeginning_of_run dead
      rw [tokens, length, List.take_length_add_append]
      simpa using spoiled
  -- The end of the input is refused, and no token is left that could spoil the row.
  · have length := row.length_tokens.symm
    refine ⟨row.body.length, Lexeme.atEnd row.finish, ?_, location?_of_conclude refused, ?_, ?_⟩
    · simp [Lexemes.toList]
    · rw [length, List.take_length]
      exact isBeginning_of_run ran
    · intro short
      omega

end Pushdown

/-- A fault of a row lies at one of its tokens, the end of the input among them, and this token
comes too late: what stands before it can be completed to an expression, and it cannot. -/
structure FirstDeadToken (row : Lexemes) (fault : Fault) (index : Nat) : Prop where
  located : ∃ here, fault.location? = some here ∧
    ∀ other, row.toList[other]?.map Lexeme.location = some here ↔ other = index
  inside : index ≤ row.tokens.length
  beginning : IsBeginning (row.tokens.take index)
  dead : index < row.tokens.length → ¬ IsBeginning (row.tokens.take (index + 1))
  incomplete : index = row.tokens.length → ¬ IsExpression row.tokens

/-- **The first dead token.** If a text with as many opening as closing parentheses has a fault, the
fault lies at the first token that no continuation can mend. -/
theorem fault_at_first_dead_token {text : String} {row : Lexemes} {fault : Fault}
    (scanned : Lexemes.scan text = .ok row)
    (matched : row.count (· == .openParen) = row.count (· == .closeParen))
    (rejected : valueOf text = .error fault) : ∃ index, FirstDeadToken row fault index := by
  have failed : Pushdown.check row = .error fault := by
    rw [Pushdown.check_eq_error_iff .value matched, ← readText_of_scan _ scanned]
    exact rejected
  obtain ⟨index, lexeme, stands, located, beginning, dead⟩ :=
    Pushdown.exists_index_of_check_eq_error failed
  have unique := Lexemes.location_iff_index scanned stands
  have bounded := (List.getElem?_eq_some_iff.mp stands).1
  have length := row.length_tokens
  rw [Lexemes.length_toList, Lexemes.size] at bounded
  refine ⟨index, ⟨lexeme.location, located, unique⟩, by omega, beginning, dead, ?_⟩
  intro _ expression
  rw [Pushdown.check_eq_ok_iff.mpr expression] at failed
  cases failed

/-- The second operand of the sum is missing. -/
theorem fault_at_first_dead_token_of_missing_operand :
    ∃ row, Lexemes.scan "(1 + ) x 2" = .ok row ∧
      row.count (· == .openParen) = row.count (· == .closeParen) ∧
      valueOf "(1 + ) x 2" = .error (.operandExpected .closeParen ⟨5, 1, 6⟩) ∧
      ∃ index, FirstDeadToken row (.operandExpected .closeParen ⟨5, 1, 6⟩) index := by
  have scanned : Lexemes.scan "(1 + ) x 2" =
      .ok ⟨[⟨.openParen, ⟨0, 1, 1⟩, "("⟩, ⟨.number 1, ⟨1, 1, 2⟩, "1"⟩,
        ⟨.operator .add, ⟨3, 1, 4⟩, "+"⟩, ⟨.closeParen, ⟨5, 1, 6⟩, ")"⟩,
        ⟨.operator .mul, ⟨7, 1, 8⟩, "x"⟩, ⟨.number 2, ⟨9, 1, 10⟩, "2"⟩], ⟨10, 1, 11⟩⟩ := by
    cbv
  have rejected : valueOf "(1 + ) x 2" = .error (.operandExpected .closeParen ⟨5, 1, 6⟩) := by
    rw [valueOf, readText_of_scan _ scanned, ← Pushdown.check_eq_error_iff .value (by decide)]
    rfl
  exact ⟨_, scanned, by decide, rejected,
    fault_at_first_dead_token scanned (by decide) rejected⟩

end Reckoner
