import Reckoner.Grammar.PrecedenceMachine
import Reckoner.Journal
import Reckoner.Proofs.Reading.OnePass

/-! # The reader and the precedence machine

The reader combines operands while it loops over chains; the machine keeps them on a stack until an
operator settles them. They make the same steps in the same order and end with the same value,
also on rows that have a fault (`PrecedenceMachine.run_eq_read`).
-/

namespace Reckoner

variable {α : Type}

/-- What a machine ends with when the rest of the row is left to it after a reading. -/
def Reading.thenRun {length : Nat} (reading : Reading α length)
    (go : α → List (Step α) → List Lexeme → PrecedenceMachine.Halt α) :
    PrecedenceMachine.Halt α :=
  match reading with
  | .read value rest _ made => go value made rest
  | .failed _ made => ⟨none, made.reverse⟩

namespace PrecedenceMachine

variable {algebra : Algebra α} {finish : Location}

/-- What was put off last is no operator of the level. -/
def Rests (level : Precedence) (pending : List Pending) : Prop :=
  ∀ op, pending.head? = some (.operator op) → op.precedence ≠ level

/-- Nothing is applied while what is pending rests. -/
theorem settle_of_rests {level : Precedence} {values : List α} {pending : List Pending}
    {made : List (Step α)} (rests : Rests level pending) :
    settle algebra level ⟨values, pending, made⟩ = ⟨values, pending, made⟩ := by
  unfold settle
  split
  · rename_i op _ _ _ _ top _
    simp only at top
    rw [if_neg (rests op (by rw [top]; rfl))]
  · rfl

/-- An operator of the level is applied to the two values on top. -/
theorem settle_operator {level : Precedence} {op : Operator} {left right : α} {values : List α}
    {pending : List Pending} {made : List (Step α)} (same : op.precedence = level) :
    settle algebra level ⟨right :: left :: values, .operator op :: pending, made⟩ =
      ⟨algebra.operation op left right :: values, pending,
        ⟨left, op, right, algebra.operation op left right⟩ :: made⟩ := by
  simp [settle, same]

/-- Unless a multiplicative operator follows, it makes no difference when an additive operator is
settled. -/
theorem afterOperand_settle {machine settled : PrecedenceMachine α} {row : List Lexeme}
    (first : settle algebra .additive machine = settled)
    (second : settle algebra .additive settled = settled)
    (ended : NoOperatorNext .multiplicative row) :
    afterOperand algebra machine (Lexeme.tokens row) =
      afterOperand algebra settled (Lexeme.tokens row) := by
  cases row with
  | nil => simp [afterOperand, first, second]
  | cons lexeme rest =>
    have absent := ended lexeme rfl
    cases found : lexeme.token with
    | operator op =>
      cases level : op.precedence with
      | additive => simp [afterOperand, found, level, first, second]
      | multiplicative => simp [found, Token.operatorAt?, level] at absent
    | _ => simp [afterOperand, found, first, second]

/-- The machine goes through the part of the row that a rule reads, makes the same steps, and goes
on with the value as `resume` says. The rule is tried with these operators and parentheses
pending. -/
def Performs (algebra : Algebra α) (pending : List Pending) (rule : Rule α)
    (resume : PrecedenceMachine α → PrecedenceMachine α) : Prop :=
  ∀ values made row,
    beforeOperand algebra ⟨values, pending, made⟩ (Lexeme.tokens row) =
      (rule made row).thenRun fun value made rest =>
        afterOperand algebra (resume ⟨value :: values, pending, made⟩) (Lexeme.tokens rest)

/-- A product that is under way: the machine multiplies as the chain does. -/
theorem afterOperand_factors {primary : Rule α} {pending : List Pending}
    (operands : ∀ op : Operator,
      Performs algebra (.operator op :: pending) primary (settle algebra .multiplicative))
    {length : Nat} (values : List α) (left : α) (made : List (Step α)) (row : List Lexeme)
    (shorter : row.length < length) :
    afterOperand algebra ⟨left :: values, pending, made⟩ (Lexeme.tokens row) =
      (Rule.chainFrom algebra .multiplicative primary left made row shorter).thenRun
        fun value made rest =>
          afterOperand algebra ⟨value :: values, pending, made⟩ (Lexeme.tokens rest) := by
  fun_induction Rule.chainFrom algebra .multiplicative primary left made row shorter with
  | case1 => rfl
  | case2 left made lexeme rest shorter op found right after _ made' reading _ _ ih =>
    obtain ⟨token, level⟩ := Token.operatorAt?_eq_some_iff.mp found
    have inner := operands op (left :: values) made rest
    rw [reading] at inner
    rw [← ih]
    simp only [Lexeme.tokens_cons, token, afterOperand, level, await]
    refine inner.trans ?_
    simp only [Reading.thenRun, settle_operator level]
    rfl
  | case3 left made lexeme rest shorter op found fault made' reading =>
    obtain ⟨token, level⟩ := Token.operatorAt?_eq_some_iff.mp found
    have inner := operands op (left :: values) made rest
    rw [reading] at inner
    simp only [Lexeme.tokens_cons, token, afterOperand, level, await]
    exact inner
  | case4 => rfl

/-- A product performs as its primaries do. -/
theorem product_performs {primary : Rule α} {pending : List Pending}
    (rests : Rests .multiplicative pending)
    (first : Performs algebra pending primary (settle algebra .multiplicative))
    (operands : ∀ op : Operator,
      Performs algebra (.operator op :: pending) primary (settle algebra .multiplicative)) :
    Performs algebra pending (Rule.chain algebra .multiplicative primary) id := by
  intro values made row
  rw [first values made row, Rule.chain]
  cases primary made row with
  | failed fault made => rfl
  | read left rest shorter made =>
    simp only [Reading.thenRun, settle_of_rests rests]
    exact afterOperand_factors operands values left made rest shorter

/-- A sum that is under way: the machine adds when the chain does, one step later. -/
theorem afterOperand_terms {product : Rule α} {pending : List Pending}
    (rests : Rests .additive pending)
    (ends : product.Leaves (NoOperatorNext .multiplicative))
    (operands : ∀ op : Operator, op.precedence = .additive →
      Performs algebra (.operator op :: pending) product id)
    {length : Nat} (values : List α) (left : α) (made : List (Step α)) (row : List Lexeme)
    (shorter : row.length < length) :
    afterOperand algebra ⟨left :: values, pending, made⟩ (Lexeme.tokens row) =
      (Rule.chainFrom algebra .additive product left made row shorter).thenRun
        fun value made rest =>
          afterOperand algebra ⟨value :: values, pending, made⟩ (Lexeme.tokens rest) := by
  fun_induction Rule.chainFrom algebra .additive product left made row shorter with
  | case1 => rfl
  | case2 left made lexeme rest shorter op found right after _ made' reading result _ ih =>
    obtain ⟨token, level⟩ := Token.operatorAt?_eq_some_iff.mp found
    have inner := operands op level (left :: values) made rest
    rw [reading] at inner
    rw [← ih]
    simp only [Lexeme.tokens_cons, token, afterOperand, level, settle_of_rests rests, await]
    refine inner.trans ?_
    exact afterOperand_settle (settle_operator level) (settle_of_rests rests) (ends reading)
  | case3 left made lexeme rest shorter op found fault made' reading =>
    obtain ⟨token, level⟩ := Token.operatorAt?_eq_some_iff.mp found
    have inner := operands op level (left :: values) made rest
    rw [reading] at inner
    simp only [Lexeme.tokens_cons, token, afterOperand, level, settle_of_rests rests, await]
    exact inner
  | case4 => rfl

/-- A sum performs as its products do. -/
theorem sum_performs_of_product {product : Rule α} {pending : List Pending}
    (rests : Rests .additive pending)
    (ends : product.Leaves (NoOperatorNext .multiplicative))
    (first : Performs algebra pending product id)
    (operands : ∀ op : Operator, op.precedence = .additive →
      Performs algebra (.operator op :: pending) product id) :
    Performs algebra pending (Rule.chain algebra .additive product) id := by
  intro values made row
  rw [first values made row, Rule.chain]
  cases product made row with
  | failed fault made => rfl
  | read left rest shorter made =>
    exact afterOperand_terms rests ends operands values left made rest shorter

/-- What may stand in a parenthesis is performed by the machine with the parenthesis pending. -/
def InsidePerforms (algebra : Algebra α) (finish : Location) (pending : List Pending)
    (room : Nat) : Prop :=
  ∀ smaller, room = smaller + 1 →
    Performs algebra (.mark :: pending) (Rule.sum algebra finish smaller) id

/-- A primary performs as what it reads in parentheses does. -/
theorem primary_performs {room : Nat} {pending : List Pending}
    (full : pending.count .mark + room = nestingLimit)
    (inside : InsidePerforms algebra finish pending room) :
    Performs algebra pending (Rule.primary algebra finish room)
      (settle algebra .multiplicative) := by
  intro values made row
  cases row with
  | nil => rfl
  | cons lexeme rest =>
    cases found : lexeme.token with
    | number n =>
      simp [beforeOperand, found, Rule.primary, Rule.operand, Reading.thenRun, push]
    | openParen =>
      cases room with
      | zero =>
        simp only [Nat.add_zero] at full
        simp [beforeOperand, found, Rule.primary, Rule.operand, Rule.inside, depth, full,
          Reading.thenRun, halt]
      | succ room =>
        have space : pending.count .mark ≠ nestingLimit := by omega
        have inner := inside room rfl values made rest
        simp only [Lexeme.tokens_cons, beforeOperand, found, depth, space, ↓reduceIte, await,
          Rule.primary, Rule.inside, Rule.operand]
        refine inner.trans ?_
        cases reading : Rule.sum algebra finish room made rest with
        | failed fault made => rfl
        | read value after shorter made =>
          have marked : ∀ level, settle algebra level
              ⟨value :: values, Pending.mark :: pending, made⟩ =
                ⟨value :: values, .mark :: pending, made⟩ :=
            fun level => settle_of_rests (by simp [Rests])
          have ended := Rule.sum_leaves algebra finish room reading
          cases after with
          | nil => simp [Reading.thenRun, Rule.close, afterOperand, marked,
              PrecedenceMachine.finish, halt]
          | cons next more =>
            cases follows : next.token with
            | operator op => exact absurd follows (NoOperatorNext.token_ne ended op)
            | _ => simp [Reading.thenRun, Rule.close, afterOperand, marked, follows, halt]
    | _ =>
      simp [beforeOperand, found, Rule.primary, Rule.operand, Reading.thenRun, halt]

/-- An operator of another level rests. -/
theorem rests_operator {level : Precedence} {op : Operator} {pending : List Pending}
    (other : op.precedence ≠ level) : Rests level (.operator op :: pending) := by
  intro next top
  cases top
  exact other

/-- A sum pushes its value and leaves what was pending. -/
theorem sum_performs (algebra : Algebra α) (finish : Location) (room : Nat)
    (pending : List Pending) (full : pending.count .mark + room = nestingLimit)
    (rests : ∀ level, Rests level pending) :
    Performs algebra pending (Rule.sum algebra finish room) id := by
  induction room using Nat.strongRecOn generalizing pending with
  | ind room ih =>
    have inside (pending : List Pending) (full : pending.count .mark + room = nestingLimit) :
        InsidePerforms algebra finish pending room := by
      intro smaller next
      refine ih smaller (by omega) (.mark :: pending) ?_ fun level => by simp [Rests]
      simp only [List.count_cons_self]
      omega
    have primaries (pending : List Pending) (full : pending.count .mark + room = nestingLimit) :
        Performs algebra pending (Rule.primary algebra finish room)
          (settle algebra .multiplicative) :=
      primary_performs full (inside pending full)
    have products (pending : List Pending) (full : pending.count .mark + room = nestingLimit)
        (rests : Rests .multiplicative pending) :
        Performs algebra pending (Rule.product algebra finish room) id :=
      product_performs rests (primaries pending full) fun op =>
        primaries (.operator op :: pending) (by simpa using full)
    rw [Rule.sum_eq_chain]
    have anything : (Rule.primary algebra finish room).Leaves fun _ => True := fun _ => trivial
    refine sum_performs_of_product (rests .additive) ?_ (products pending full (rests _)) ?_
    · intro made row value rest shorter made' reading
      exact (Rule.chain_leaves anything reading).2
    · intro op level
      exact products (.operator op :: pending) (by simpa using full)
        (rests_operator (by simp [level]))

/-- **The precedence machine.** On a row with as many opening as closing parentheses, the machine
makes the steps that the reader makes and ends with the value that the reader gives. -/
theorem run_eq_read (algebra : Algebra α) (row : Lexemes)
    (matched : row.count (· == .openParen) = row.count (· == .closeParen)) :
    run algebra row.tokens =
      ⟨(row.read algebra).result.toOption, (row.read algebra).steps⟩ := by
  have performs := sum_performs algebra row.finish nestingLimit [] (by simp)
    (fun level => by simp [Rests]) [] [] row.body
  unfold run start Lexemes.read Lexemes.tokens
  simp only [matched, ne_eq, not_true_eq_false, ↓reduceIte]
  rw [performs]
  cases reading : Rule.sum algebra row.finish nestingLimit [] row.body with
  | failed fault made => rfl
  | read value rest shorter made =>
    have ended := Rule.sum_leaves algebra row.finish nestingLimit reading
    have nothing : ∀ level, settle algebra level ⟨[value], [], made⟩ = ⟨[value], [], made⟩ :=
      fun level => settle_of_rests (by simp [Rests])
    cases rest with
    | nil =>
      simp [Reading.thenRun, afterOperand, nothing, PrecedenceMachine.finish,
        Except.toOption]
    | cons lexeme rest =>
      cases found : lexeme.token with
      | operator op => exact absurd found (NoOperatorNext.token_ne ended op)
      | _ => simp [Reading.thenRun, afterOperand, nothing, found, halt, Except.toOption]

/-- **The steps of a text.** Whether a text with as many opening as closing parentheses is an
expression or not, the operators that are applied on the way to its value, and traced in the
journal, are those that the machine applies to its tokens, with the same operands and results in
the same order. The text has a value exactly if the machine ends with one, and it is the same. -/
theorem steps_of_text {text : String} {row : Lexemes} (scanned : Lexemes.scan text = .ok row)
    (matched : row.count (· == .openParen) = row.count (· == .closeParen)) :
    (readText .value text).steps = (run .value row.tokens).steps ∧
      (Journal.ofValue text).filter (fun record => record.level = .trace) =
        (run .value row.tokens).steps.map Record.computed ∧
      ∀ value, valueOf text = .ok value ↔ (run .value row.tokens).value? = some value := by
  have same := run_eq_read .value row matched
  have reading := readText_of_scan .value scanned
  refine ⟨by rw [reading, same], by rw [Journal.trace_ofValue, reading, same], fun value => ?_⟩
  rw [valueOf, reading, same]
  cases (row.read .value).result <;> simp [Except.toOption]

/-- The parenthesis is one too many, but it ends the sum in front of it. -/
theorem steps_of_text_of_trailing_parenthesis :
    ∃ row, Lexemes.scan "8 - 6 ÷ 2 (1)" = .ok row ∧
      row.count (· == .openParen) = row.count (· == .closeParen) ∧
      (∃ quotient, quotient = Operator.compute .div (Number.ofInt64 6) (Number.ofInt64 2) ∧
        run .value row.tokens =
          ⟨none, [⟨Number.ofInt64 6, .div, Number.ofInt64 2, quotient⟩,
            ⟨Number.ofInt64 8, .sub, quotient,
              Operator.compute .sub (Number.ofInt64 8) quotient⟩]⟩) ∧
      (readText .value "8 - 6 ÷ 2 (1)").steps = (run .value row.tokens).steps ∧
      (Journal.ofValue "8 - 6 ÷ 2 (1)").filter (fun record => record.level = .trace) =
        (run .value row.tokens).steps.map Record.computed ∧
      ∀ value, valueOf "8 - 6 ÷ 2 (1)" = .ok value ↔
        (run .value row.tokens).value? = some value := by
  have scanned : Lexemes.scan "8 - 6 ÷ 2 (1)" =
      .ok ⟨[⟨.number 8, ⟨0, 1, 1⟩, "8"⟩, ⟨.operator .sub, ⟨2, 1, 3⟩, "-"⟩,
        ⟨.number 6, ⟨4, 1, 5⟩, "6"⟩, ⟨.operator .div, ⟨6, 1, 7⟩, "÷"⟩,
        ⟨.number 2, ⟨9, 1, 9⟩, "2"⟩, ⟨.openParen, ⟨11, 1, 11⟩, "("⟩,
        ⟨.number 1, ⟨12, 1, 12⟩, "1"⟩, ⟨.closeParen, ⟨13, 1, 13⟩, ")"⟩], ⟨14, 1, 14⟩⟩ := by
    cbv
  exact ⟨_, scanned, by decide, ⟨_, rfl, rfl⟩, steps_of_text scanned (by decide)⟩

end PrecedenceMachine

end Reckoner
