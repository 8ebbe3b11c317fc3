import Reckoner.Grammar.Derivation
import Reckoner.Grammar.Reading

/-! # Reading with a cursor and a counter

The rules of `Reckoner.Grammar.Reading` take apart the row they are given, and how many parentheses
may still be opened is an argument of theirs. Here the same phrases are read by procedures that call
each other and share two numbers: a cursor in a row that stays as it is, and a counter of the
parentheses that are open. The counter is raised before the inside of a parenthesis is read and
lowered behind it. A run also hands out the calls it made, each with the numbers at its beginning
and at its end.
-/

namespace Reckoner

/-- What the procedures share: how many lexemes the cursor has passed, and how many parentheses are
counted as open. -/
structure Spot where
  cursor : Nat
  depth : Nat
  deriving DecidableEq, Repr

/-- The calls that a procedure makes, in the order of time. A call is entered at a spot, makes calls
of its own, and comes back at a spot unless the run breaks off inside. -/
inductive Calls where
  | none
  | call (phrase : Phrase) (entry : Spot) (inside : Calls) (exit? : Option Spot) (later : Calls)
  deriving Repr

/-- One call on its own. -/
structure Call where
  phrase : Phrase
  entry : Spot
  exit? : Option Spot
  deriving DecidableEq, Repr

namespace Calls

/-- Every call, also those that other calls make. -/
def all : Calls → List Call
  | .none => []
  | .call phrase entry inside exit? later => ⟨phrase, entry, exit?⟩ :: (inside.all ++ later.all)

/-- The spots at which a call is entered or comes back, in the order of time. -/
def spots : Calls → List Spot
  | .none => []
  | .call _ entry inside exit? later => entry :: (inside.spots ++ (exit?.toList ++ later.spots))

/-- How many calls of a kind are active at the same time, at most. -/
def active (phrase : Phrase) : Calls → Nat
  | .none => 0
  | .call kind _ inside _ later =>
    max ((if kind = phrase then 1 else 0) + inside.active phrase) (later.active phrase)

end Calls

namespace Descent

/-- Why a run breaks off: the row has a fault, or the counter cannot be lowered any more. -/
inductive Break where
  | fault (fault : Fault)
  | underflow
  deriving DecidableEq, Repr

/-- How a procedure ends that was entered with the cursor at `origin`. If it comes back, the cursor
has moved on. -/
inductive Ending (α : Type) (origin : Nat) where
  | returned (value : α) (here : Spot) (further : origin < here.cursor)
  | broken (reason : Break)

/-- What a procedure did: how it ended, and the calls it made. -/
structure Course (α : Type) (origin : Nat) where
  ending : Ending α origin
  calls : Calls

variable {α : Type}

/-- The lexeme at the cursor. -/
def look (row : Lexemes) (here : Spot) : Lexeme :=
  row.toList.getD here.cursor (.atEnd row.finish)

/-- Passes the lexeme at the cursor, unless it is the end of the input. -/
def advance (row : Lexemes) (here : Spot) : Spot :=
  if (look row here).token.isEnd then here else { here with cursor := here.cursor + 1 }

/-- What is no end of the input stands in the body of the row. -/
theorem cursor_lt_of_look {row : Lexemes} {here : Spot}
    (solid : (look row here).token ≠ .endOfInput) : here.cursor < row.body.length := by
  refine Nat.lt_of_not_le fun beyond => solid ?_
  unfold look Lexemes.toList
  rw [List.getD_eq_getElem?_getD, List.getElem?_append_right beyond]
  cases here.cursor - row.body.length <;> rfl

/-- In front of the end of the input, advancing is one lexeme to the right. -/
theorem advance_eq {row : Lexemes} {here : Spot} (solid : (look row here).token ≠ .endOfInput) :
    advance row here = { here with cursor := here.cursor + 1 } := by
  simp [advance, solid]

/-- Advancing never goes back. -/
theorem le_cursor_advance (row : Lexemes) (here : Spot) :
    here.cursor ≤ (advance row here).cursor := by
  unfold advance
  split
  · exact Nat.le_refl _
  · exact Nat.le_succ _

/-- An operator is not the end of the input. -/
theorem look_ne_end {row : Lexemes} {here : Spot} {level : Precedence} {op : Operator}
    (found : (look row here).token.operatorAt? level = some op) :
    (look row here).token ≠ .endOfInput := by
  intro ended
  rw [ended] at found
  cases found

/-- A procedure that reads a phrase where fewer than `bound` lexemes are left. -/
abbrev Procedure (row : Lexemes) (α : Type) (bound : Nat) :=
  (here : Spot) → row.body.length - here.cursor < bound → Course α here.cursor

/-- Goes on with a chain whose operands so far have been folded into `left`, as long as an operator
of the level stands at the cursor. The operands are phrases of one kind. -/
def chainFrom (algebra : Algebra α) (row : Lexemes) (level : Precedence) (kind : Phrase)
    {bound origin : Nat} (operand : Procedure row α bound) (left : α) (here : Spot)
    (further : origin < here.cursor) (near : row.body.length - here.cursor < bound) :
    Course α origin :=
  match found : (look row here).token.operatorAt? level with
  | none => ⟨.returned left here further, .none⟩
  | some op =>
    have solid := look_ne_end found
    have passed : (advance row here).cursor = here.cursor + 1 := by rw [advance_eq solid]
    have inside := cursor_lt_of_look solid
    let course := operand (advance row here) (by omega)
    match course.ending with
    | .broken reason => ⟨.broken reason, .call kind (advance row here) course.calls none .none⟩
    | .returned right after later =>
      let others := chainFrom algebra row level kind operand (algebra.operation op left right) after
        (by omega) (by omega)
      ⟨others.ending, .call kind (advance row here) course.calls (some after) others.calls⟩
termination_by row.body.length - here.cursor
decreasing_by
  omega

/-- A chain of operands joined by the operators of one level. -/
def chain (algebra : Algebra α) (row : Lexemes) (level : Precedence) (kind : Phrase) {bound : Nat}
    (operand : Procedure row α bound) : Procedure row α bound :=
  fun here near =>
    let first := operand here near
    match first.ending with
    | .broken reason => ⟨.broken reason, .call kind here first.calls none .none⟩
    | .returned left after later =>
      let others := chainFrom algebra row level kind operand left after later (by omega)
      ⟨others.ending, .call kind here first.calls (some after) others.calls⟩

/-- Ends a parenthesis whose inside has been read. The counter is lowered whatever comes next. -/
def close (row : Lexemes) (opened : Location) (value : α) {origin : Nat} (here : Spot)
    (further : origin < here.cursor) : Ending α origin :=
  match here.depth with
  | 0 => .broken .underflow
  | depth + 1 =>
    let lowered : Spot := { here with depth := depth }
    match (look row lowered).token with
    | .closeParen =>
      .returned value (advance row lowered)
        (Nat.lt_of_lt_of_le further (le_cursor_advance row lowered))
    | found => .broken (.fault (.unclosedParenthesis opened found (look row lowered).location))

/-- What `inside` reads in parentheses, where one is opened. -/
def group {row : Lexemes} {bound : Nat} (inside : Procedure row α bound) (here : Spot)
    (found : (look row here).token = .openParen)
    (near : row.body.length - here.cursor < bound + 1) : Course α here.cursor :=
  if here.depth = nestingLimit then
    ⟨.broken (.fault (.nestingTooDeep nestingLimit (look row here).location)), .none⟩
  else
    have solid : (look row here).token ≠ .endOfInput := by simp [found]
    have passed : (advance row here).cursor = here.cursor + 1 := by rw [advance_eq solid]
    have within := cursor_lt_of_look solid
    let opened : Spot := { advance row here with depth := here.depth + 1 }
    let course := inside opened (by simp only [opened]; omega)
    match course.ending with
    | .broken reason => ⟨.broken reason, .call .sum opened course.calls none .none⟩
    | .returned value after later =>
      ⟨close row (look row here).location value after (by simp only [opened] at later; omega),
        .call .sum opened course.calls (some after) .none⟩

/-- A number, or what `inside` reads in parentheses. -/
def operand (algebra : Algebra α) (row : Lexemes) {bound : Nat} (inside : Procedure row α bound) :
    Procedure row α (bound + 1) :=
  fun here near =>
    match found : (look row here).token with
    | .number n =>
      ⟨.returned (algebra.number n) (advance row here)
        (by rw [advance_eq (by simp [found])]; exact Nat.lt_succ_self _), .none⟩
    | .openParen => group inside here found near
    | .operator _ | .closeParen | .endOfInput =>
      ⟨.broken (.fault (.operandExpected (look row here).token (look row here).location)), .none⟩

/-- A sum. As a parenthesis takes a lexeme before the sum inside it is read, the recursion runs on a
bound for the lexemes that are left. -/
def sum (algebra : Algebra α) (row : Lexemes) : (bound : Nat) → Procedure row α bound
  | 0 => fun _ near => absurd near (Nat.not_lt_zero _)
  | bound + 1 =>
    chain algebra row .additive .product
      (chain algebra row .multiplicative .primary (operand algebra row (sum algebra row bound)))

/-- A number or a sum in parentheses, in the course of a sum. -/
def primary (algebra : Algebra α) (row : Lexemes) (bound : Nat) : Procedure row α (bound + 1) :=
  operand algebra row (sum algebra row bound)

/-- A chain of primaries joined by multiplicative operators. -/
def product (algebra : Algebra α) (row : Lexemes) (bound : Nat) : Procedure row α (bound + 1) :=
  chain algebra row .multiplicative .primary (primary algebra row bound)

/-- A sum is a chain of products joined by additive operators. -/
theorem sum_eq_chain (algebra : Algebra α) (row : Lexemes) (bound : Nat) :
    sum algebra row (bound + 1) =
      chain algebra row .additive .product (product algebra row bound) :=
  rfl

/-- What a run leaves behind. -/
structure Run (α : Type) where
  result : Except Break α
  calls : Calls

/-- Where every run starts. -/
def beginning : Spot :=
  ⟨0, 0⟩

/-- Reads a row as one expression, with a single call of the procedure for sums. -/
def run (algebra : Algebra α) (row : Lexemes) : Run α :=
  let opening := row.count (· == .openParen)
  let closing := row.count (· == .closeParen)
  if opening ≠ closing then
    ⟨.error (.fault (.unmatchedParentheses opening closing)), .none⟩
  else
    let course := sum algebra row row.size beginning (by simp [Lexemes.size, beginning])
    match course.ending with
    | .broken reason => ⟨.error reason, .call .sum beginning course.calls none .none⟩
    | .returned value here _ =>
      let next := look row here
      ⟨if next.token.isEnd then .ok value
        else .error (.fault (.trailingInput next.token next.location)),
        .call .sum beginning course.calls (some here) .none⟩

end Descent

end Reckoner
