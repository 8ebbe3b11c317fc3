import Mathlib
import Reckoner.Grammar.Pushdown
import Reckoner.Meaning

/-! # One pass finds the same fault

The reader descends into parentheses and loops over chains; the checker moves along the row with a
stack of open parentheses. They accept the same rows and name the same fault
(`Pushdown.check_eq_map_read`). What carries the proof is that a sum never leaves an operator at the
front of the row (`Rule.sum_leaves`), so that at its end both look for the same thing.
-/

namespace Reckoner

variable {α : Type}

/-- What comes of a reading when the rest of the row is judged afterwards. -/
def Reading.thenJudge {length : Nat} (reading : Reading α length)
    (judge : List Lexeme → Except Fault Unit) : Except Fault Unit :=
  match reading with
  | .read _ rest _ _ => judge rest
  | .failed fault _ => .error fault

/-- No operator of the level stands at the front of the row. -/
def NoOperatorNext (level : Precedence) (row : List Lexeme) : Prop :=
  ∀ lexeme ∈ row.head?, lexeme.token.operatorAt? level = none

namespace Rule

/-- A chain that is read starts with an operand. -/
theorem chain_eq_read {algebra : Algebra α} {level : Precedence} {operand : Rule α}
    {made : List (Step α)} {row : List Lexeme} {value : α} {rest : List Lexeme}
    {shorter : rest.length < row.length} {made' : List (Step α)}
    (reading : chain algebra level operand made row = .read value rest shorter made') :
    ∃ left after consumed first, operand made row = .read left after consumed first ∧
      chainFrom algebra level operand left first after consumed =
        .read value rest shorter made' := by
  unfold chain at reading
  cases start : operand made row with
  | failed fault first =>
    rw [start] at reading
    cases reading
  | read left after consumed first =>
    rw [start] at reading
    exact ⟨left, after, consumed, first, rfl, reading⟩

/-- A primary that is read is a number, or a sum between a parenthesis that may be opened and its
counterpart. -/
theorem primary_eq_read {algebra : Algebra α} {finish : Location} {room : Nat}
    {made : List (Step α)} {row : List Lexeme} {value : α} {rest : List Lexeme}
    {shorter : rest.length < row.length} {made' : List (Step α)}
    (reading : primary algebra finish room made row = .read value rest shorter made') :
    (∃ lexeme n, lexeme.token = .number n ∧ row = lexeme :: rest ∧
      value = algebra.number n ∧ made' = made) ∨
    ∃ opening inner closing smaller consumed, opening.token = .openParen ∧
      closing.token = .closeParen ∧ row = opening :: inner ∧ room = smaller + 1 ∧
      sum algebra finish smaller made inner = .read value (closing :: rest) consumed made' := by
  cases row with
  | nil => cases reading
  | cons lexeme tail =>
    cases found : lexeme.token with
    | number n =>
      simp only [primary, operand, found, Reading.read.injEq] at reading
      obtain ⟨rfl, rfl, rfl⟩ := reading
      exact .inl ⟨lexeme, n, found, rfl, rfl, rfl⟩
    | openParen =>
      cases room with
      | zero => simp [primary, operand, inside, found] at reading
      | succ room =>
        simp only [primary, operand, inside, found] at reading
        cases inner : sum algebra finish room made tail with
        | failed fault made => simp [inner] at reading
        | read value after consumed made'' =>
          simp only [inner] at reading
          cases after with
          | nil => cases reading
          | cons next more =>
            cases ends : next.token with
            | closeParen =>
              simp only [close, ends, Reading.read.injEq] at reading
              obtain ⟨rfl, rfl, rfl⟩ := reading
              exact .inr ⟨lexeme, tail, next, room, consumed, found, ends, rfl, rfl, inner⟩
            | _ => simp [close, ends] at reading
    | _ => simp [primary, operand, found] at reading

/-- Whatever the rule leaves of a row has a property. -/
def Leaves (rule : Rule α) (property : List Lexeme → Prop) : Prop :=
  ∀ {made row value rest shorter made'},
    rule made row = .read value rest shorter made' → property rest

/-- What a chain leaves has the property that its operands leave, and no operator comes next. -/
theorem chainFrom_leaves {algebra : Algebra α} {level : Precedence} {operand : Rule α}
    {property : List Lexeme → Prop} (operands : operand.Leaves property) {length : Nat}
    {left : α} {made : List (Step α)} {row : List Lexeme} {shorter : row.length < length}
    (initial : property row) {value : α} {rest : List Lexeme} {consumed : rest.length < length}
    {made' : List (Step α)}
    (reading : chainFrom algebra level operand left made row shorter =
      .read value rest consumed made') :
    property rest ∧ NoOperatorNext level rest := by
  fun_induction chainFrom algebra level operand left made row shorter with
  | case1 left made shorter =>
    cases reading
    exact ⟨initial, by simp [NoOperatorNext]⟩
  | case2 left made lexeme tail shorter op found right after _ _ inner _ _ ih =>
    exact ih (operands inner) reading
  | case3 => cases reading
  | case4 left made lexeme tail shorter found =>
    cases reading
    refine ⟨initial, ?_⟩
    intro next first
    cases first
    exact found

/-- A chain with its first operand leaves as much. -/
theorem chain_leaves {algebra : Algebra α} {level : Precedence} {operand : Rule α}
    {property : List Lexeme → Prop} (operands : operand.Leaves property) :
    (chain algebra level operand).Leaves fun rest => property rest ∧ NoOperatorNext level rest := by
  intro made row value rest shorter made' reading
  obtain ⟨left, after, consumed, first, start, more⟩ := chain_eq_read reading
  exact chainFrom_leaves operands (operands start) more

/-- A sum leaves no operator at the front of the row. -/
theorem sum_leaves (algebra : Algebra α) (finish : Location) (room : Nat) :
    (sum algebra finish room).Leaves fun rest => ∀ level, NoOperatorNext level rest := by
  intro made row value rest shorter made' reading
  rw [sum_eq_chain] at reading
  have anything : (primary algebra finish room).Leaves fun _ => True := fun _ => trivial
  have ends := chain_leaves (chain_leaves anything) reading
  intro level
  cases level with
  | additive => exact ends.2
  | multiplicative => exact ends.1.2

end Rule

/-- Where no operator of any level comes next there is no operator. -/
theorem NoOperatorNext.token_ne {row : List Lexeme} {lexeme : Lexeme}
    (ended : ∀ level, NoOperatorNext level (lexeme :: row)) (op : Operator) :
    lexeme.token ≠ .operator op := by
  intro found
  have absent := ended op.precedence lexeme rfl
  simp [found, Token.operatorAt?] at absent

/-- The parentheses of a row are counted before any operator is applied. -/
theorem Lexemes.read_eq_of_unmatched (algebra : Algebra α) {row : Lexemes}
    (unmatched : row.count (· == .openParen) ≠ row.count (· == .closeParen)) :
    row.read algebra = ⟨.error (.unmatchedParentheses (row.count (· == .openParen))
      (row.count (· == .closeParen))), []⟩ := by
  simp only [Lexemes.read, unmatched, ne_eq, not_false_eq_true, ↓reduceIte]

/-- With different counts of parentheses a row has that fault and no other. -/
theorem Lexemes.read_of_unmatched (algebra : Algebra α) {row : Lexemes}
    (unmatched : row.count (· == .openParen) ≠ row.count (· == .closeParen)) :
    (row.read algebra).result = .error (.unmatchedParentheses (row.count (· == .openParen))
      (row.count (· == .closeParen))) := by
  rw [Lexemes.read_eq_of_unmatched algebra unmatched]

namespace Pushdown

/-- A lexeme that is taken leaves the check of the others. -/
theorem checkFrom_ok {finish : Location} {checker next : Pushdown} {lexeme : Lexeme}
    {row : List Lexeme} (taken : checker.step lexeme = .ok next) :
    checkFrom finish checker (lexeme :: row) = checkFrom finish next row := by
  rw [checkFrom_cons, taken]
  rfl

/-- A lexeme that is refused ends the check. -/
theorem checkFrom_error {finish : Location} {checker : Pushdown} {lexeme : Lexeme}
    {row : List Lexeme} {fault : Fault} (refused : checker.step lexeme = .error fault) :
    checkFrom finish checker (lexeme :: row) = .error fault := by
  rw [checkFrom_cons, refused]
  rfl

/-- The checker goes through the part of the row that a rule reads and finds the same fault. -/
def Follows (finish : Location) (opened : List Location) (rule : Rule α) : Prop :=
  ∀ made row,
    checkFrom finish ⟨true, opened⟩ row =
      (rule made row).thenJudge (checkFrom finish ⟨false, opened⟩)

/-- Behind an operand, the checker follows a chain that goes on. -/
theorem checkFrom_chainFrom {finish : Location} {opened : List Location}
    {algebra : Algebra α} {level : Precedence} {operand : Rule α}
    (operands : Follows finish opened operand) {length : Nat} (left : α) (made : List (Step α))
    (row : List Lexeme) (shorter : row.length < length) :
    checkFrom finish ⟨false, opened⟩ row =
      (Rule.chainFrom algebra level operand left made row shorter).thenJudge
        (checkFrom finish ⟨false, opened⟩) := by
  fun_induction Rule.chainFrom algebra level operand left made row shorter with
  | case1 => rfl
  | case2 left made lexeme rest shorter op found right after _ _ reading _ _ ih =>
    have token := (Token.operatorAt?_eq_some_iff.mp found).1
    have inner := operands made rest
    rw [reading] at inner
    rw [← ih, checkFrom_ok (step_operator token)]
    exact inner
  | case3 left made lexeme rest shorter op found fault made' reading =>
    have token := (Token.operatorAt?_eq_some_iff.mp found).1
    have inner := operands made rest
    rw [reading] at inner
    rw [checkFrom_ok (step_operator token)]
    exact inner
  | case4 => rfl

/-- The checker follows a chain if it follows the operands. -/
theorem chain_follows {finish : Location} {opened : List Location} (algebra : Algebra α)
    (level : Precedence) {operand : Rule α} (operands : Follows finish opened operand) :
    Follows finish opened (Rule.chain algebra level operand) := by
  intro made row
  rw [operands made row, Rule.chain]
  cases operand made row with
  | read left rest shorter made => exact checkFrom_chainFrom operands left made rest shorter
  | failed fault made => rfl

/-- Behind the inside of a parenthesis, the checker ends it as the reader does. -/
theorem checkFrom_close {finish opened : Location} {others : List Location} {value : α}
    {made : List (Step α)} {length : Nat} {row : List Lexeme} {shorter : row.length < length}
    (ended : ∀ level, NoOperatorNext level row) :
    checkFrom finish ⟨false, opened :: others⟩ row =
      (Rule.close finish opened value made row shorter).thenJudge
        (checkFrom finish ⟨false, others⟩) := by
  cases row with
  | nil => rfl
  | cons lexeme rest =>
    cases found : lexeme.token with
    -- The sum inside would have gone on with an operator.
    | operator op => exact absurd found (NoOperatorNext.token_ne ended op)
    | closeParen =>
      have taken : step ⟨false, opened :: others⟩ lexeme = .ok ⟨false, others⟩ := by
        simp [step, found]
      rw [checkFrom_ok taken]
      simp [Rule.close, found, Reading.thenJudge]
    | _ =>
      have refused : step ⟨false, opened :: others⟩ lexeme =
          .error (.unclosedParenthesis opened lexeme.token lexeme.location) := by
        simp [step, found, misplaced]
      rw [checkFrom_error refused]
      simp [Rule.close, found, Reading.thenJudge]

/-- Where an operand is expected, only a number or a parenthesis is taken. -/
theorem primary_follows_of_openParen {algebra : Algebra α} {finish : Location} {room : Nat}
    {opened : List Location}
    (parenthesis : ∀ made lexeme rest, lexeme.token = .openParen →
      checkFrom finish ⟨true, opened⟩ (lexeme :: rest) =
        (Rule.primary algebra finish room made (lexeme :: rest)).thenJudge
          (checkFrom finish ⟨false, opened⟩)) :
    Follows finish opened (Rule.primary algebra finish room) := by
  intro made row
  cases row with
  | nil => rfl
  | cons lexeme rest =>
    cases found : lexeme.token with
    | openParen => exact parenthesis made lexeme rest found
    | number value =>
      have taken : step ⟨true, opened⟩ lexeme = .ok ⟨false, opened⟩ := by simp [step, found]
      rw [checkFrom_ok taken]
      simp [Rule.primary, Rule.operand, found, Reading.thenJudge]
    | _ =>
      have refused : step ⟨true, opened⟩ lexeme =
          .error (.operandExpected lexeme.token lexeme.location) := by
        simp [step, found]
      rw [checkFrom_error refused]
      simp [Rule.primary, Rule.operand, found, Reading.thenJudge]

/-- With no room left, a parenthesis is refused by both. -/
theorem primary_zero_follows (algebra : Algebra α) (finish : Location) (opened : List Location)
    (full : opened.length = nestingLimit) :
    Follows finish opened (Rule.primary algebra finish 0) := by
  apply primary_follows_of_openParen
  intro made lexeme rest found
  have refused : step ⟨true, opened⟩ lexeme =
      .error (.nestingTooDeep nestingLimit lexeme.location) := by
    simp [step, found, full]
  rw [checkFrom_error refused]
  simp [Rule.primary, Rule.inside, Rule.operand, found, Reading.thenJudge]

/-- With room left, a parenthesis is opened by both. -/
theorem primary_succ_follows {algebra : Algebra α} {finish : Location} {room : Nat}
    {opened : List Location} (space : opened.length ≠ nestingLimit)
    (inside : ∀ location, Follows finish (location :: opened) (Rule.sum algebra finish room)) :
    Follows finish opened (Rule.primary algebra finish (room + 1)) := by
  apply primary_follows_of_openParen
  intro made lexeme rest found
  have taken : step ⟨true, opened⟩ lexeme = .ok ⟨true, lexeme.location :: opened⟩ := by
    simp [step, found, space]
  rw [checkFrom_ok taken, inside lexeme.location made rest]
  simp only [Rule.primary, Rule.inside, Rule.operand, found]
  cases reading : Rule.sum algebra finish room made rest with
  | failed fault made => rfl
  | read value after shorter made =>
    exact checkFrom_close (Rule.sum_leaves algebra finish room reading)

/-- The checker follows a sum, with as many parentheses open as the room says. -/
theorem sum_follows (algebra : Algebra α) (finish : Location) (room : Nat)
    (opened : List Location) (full : opened.length + room = nestingLimit) :
    Follows finish opened (Rule.sum algebra finish room) := by
  -- Each parenthesis moves one unit from the room that is left to the stack.
  induction room generalizing opened with
  | zero =>
    rw [Rule.sum_eq_chain]
    exact chain_follows _ _ (chain_follows _ _ (primary_zero_follows _ _ _ full))
  | succ room ih =>
    rw [Rule.sum_eq_chain]
    refine chain_follows _ _ (chain_follows _ _ (primary_succ_follows (by omega) ?_))
    intro location
    exact ih (location :: opened) (by simp only [List.length_cons]; omega)

/-- **One pass.** On a row with as many opening as closing parentheses, the checker accepts what
the reader reads and finds the fault that the reader finds. -/
theorem check_eq_map_read (algebra : Algebra α) (row : Lexemes)
    (matched : row.count (· == .openParen) = row.count (· == .closeParen)) :
    check row = (row.read algebra).result.map fun _ => () := by
  have follows := sum_follows algebra row.finish nestingLimit [] (by simp) [] row.body
  unfold check start Lexemes.read
  simp only [matched, ne_eq, not_true_eq_false, ↓reduceIte]
  rw [follows]
  cases reading : Rule.sum algebra row.finish nestingLimit [] row.body with
  | failed fault made => rfl
  | read value rest shorter made =>
    have ended := Rule.sum_leaves algebra row.finish nestingLimit reading
    cases rest with
    | nil => rfl
    | cons lexeme rest =>
      have refused : step ⟨false, []⟩ lexeme =
          .error (.trailingInput lexeme.token lexeme.location) := by
        cases found : lexeme.token with
        | operator op => exact absurd found (NoOperatorNext.token_ne ended op)
        | _ => simp [step, found, misplaced]
      exact checkFrom_error refused

/-- On a row with matching counts, the checker and the reader find the same faults. -/
theorem check_eq_error_iff (algebra : Algebra α) {row : Lexemes} {fault : Fault}
    (matched : row.count (· == .openParen) = row.count (· == .closeParen)) :
    check row = .error fault ↔ (row.read algebra).result = .error fault := by
  rw [check_eq_map_read algebra row matched]
  cases (row.read algebra).result <;> simp [Except.map]

/-- **One pass over a text.** What the checker says of the lexemes of a text with as many opening
as closing parentheses is the outcome of reading it as a number, and of reading it as a tree. -/
theorem map_meaning_eq_check {text : String} {row : Lexemes}
    (scanned : Lexemes.scan text = .ok row)
    (matched : row.count (· == .openParen) = row.count (· == .closeParen)) :
    ((valueOf text).map fun _ => ()) = check row ∧
      ((treeOf text).map fun _ => ()) = check row := by
  constructor
  · rw [valueOf, readText_of_scan _ scanned, check_eq_map_read .value row matched]
  · rw [treeOf, readText_of_scan _ scanned, check_eq_map_read .tree row matched]

/-- A second number stands where the parenthesis has to close. -/
theorem map_meaning_eq_check_of_two_numbers :
    ∃ row, Lexemes.scan "(1 2)" = .ok row ∧
      row.count (· == .openParen) = row.count (· == .closeParen) ∧
      check row = .error (.unclosedParenthesis ⟨0, 1, 1⟩ (.number 2) ⟨3, 1, 4⟩) ∧
      ((valueOf "(1 2)").map fun _ => ()) = check row ∧
      ((treeOf "(1 2)").map fun _ => ()) = check row := by
  have scanned : Lexemes.scan "(1 2)" =
      .ok ⟨[⟨.openParen, ⟨0, 1, 1⟩, "("⟩, ⟨.number 1, ⟨1, 1, 2⟩, "1"⟩,
        ⟨.number 2, ⟨3, 1, 4⟩, "2"⟩, ⟨.closeParen, ⟨4, 1, 5⟩, ")"⟩], ⟨5, 1, 6⟩⟩ := by
    cbv
  exact ⟨_, scanned, by decide, by rfl, map_meaning_eq_check scanned (by decide)⟩

end Pushdown

end Reckoner
