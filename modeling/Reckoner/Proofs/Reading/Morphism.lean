import Reckoner.Meaning
import Reckoner.Tree.Walk

/-! # Reading under another meaning

A map between two meanings that respects numbers and operators carries every reading of the one
over to a reading of the other: the same part of the row is read, the same fault is found, and the
steps correspond one to one (`Lexemes.map_read`). The evaluation of trees is such a map
(`Algebra.eval_morphism`), so the number of a text is the value of its tree
(`valueOf_eq_map_treeOf`).
-/

namespace Reckoner

variable {α β : Type}

/-- A map that respects what two meanings make of numbers and operators. -/
structure Algebra.Morphism (source : Algebra α) (target : Algebra β) (f : α → β) : Prop where
  number (n : Int64) : f (source.number n) = target.number n
  operation (op : Operator) (left right : α) :
    f (source.operation op left right) = target.operation op (f left) (f right)

/-- Evaluation takes trees to values. -/
theorem Algebra.eval_morphism : Algebra.tree.Morphism Algebra.value Tree.eval where
  number := eval_tree_number
  operation := eval_tree_operation

/-- A reading with its value and its steps mapped. -/
def Reading.map {length : Nat} (f : α → β) : Reading α length → Reading β length
  | .read value rest shorter made => .read (f value) rest shorter (made.map (Step.map f))
  | .failed fault made => .failed fault (made.map (Step.map f))

/-- An outcome with its value and its steps mapped. -/
def Outcome.map (f : α → β) (outcome : Outcome α) : Outcome β :=
  ⟨outcome.result.map f, outcome.steps.map (Step.map f)⟩

namespace Rule

variable {f : α → β} {source : Algebra α} {target : Algebra β}

/-- Two rules read alike up to the map. -/
def Corresponds (f : α → β) (first : Rule α) (second : Rule β) : Prop :=
  ∀ made row, (first made row).map f = second (made.map (Step.map f)) row

/-- Two rules for the inside of parentheses are both missing, or they read alike. -/
def InsideCorresponds (f : α → β) : Option (Rule α) → Option (Rule β) → Prop
  | none, none => True
  | some first, some second => Corresponds f first second
  | _, _ => False

/-- Going on with a chain and changing the meaning commute. -/
theorem map_chainFrom (morphism : source.Morphism target f) (level : Precedence)
    {first : Rule α} {second : Rule β} (operands : Corresponds f first second) {length : Nat}
    (left : α) (made : List (Step α)) (row : List Lexeme) (shorter : row.length < length) :
    (chainFrom source level first left made row shorter).map f =
      chainFrom target level second (f left) (made.map (Step.map f)) row shorter := by
  fun_induction chainFrom source level first left made row shorter with
  | case1 left made shorter =>
    rw [chainFrom, Reading.map]
  | case2 left made lexeme rest shorter op found right after consumed made' reading result _ ih =>
    have step := operands made rest
    rw [reading] at step
    rw [ih, chainFrom]
    simp only [found, ← step, Reading.map, result, List.map_cons, Step.map, morphism.operation]
  | case3 left made lexeme rest shorter op found fault made' reading =>
    have step := operands made rest
    rw [reading] at step
    rw [chainFrom]
    simp only [found, ← step, Reading.map]
  | case4 left made lexeme rest shorter found =>
    rw [chainFrom]
    simp only [found, Reading.map]

/-- A chain corresponds to the chain of the operands that correspond. -/
theorem chain_corresponds (morphism : source.Morphism target f) (level : Precedence)
    {first : Rule α} {second : Rule β} (operands : Corresponds f first second) :
    Corresponds f (chain source level first) (chain target level second) := by
  intro made row
  have step := operands made row
  unfold chain
  rw [← step]
  cases first made row with
  | read left rest shorter made =>
    exact map_chainFrom morphism level operands left made rest shorter
  | failed fault made => rfl

/-- Closing a parenthesis does not depend on the meaning. -/
theorem map_close (finish opened : Location) (value : α) (made : List (Step α)) {length : Nat}
    (row : List Lexeme) (shorter : row.length < length) :
    (close finish opened value made row shorter).map f =
      close finish opened (f value) (made.map (Step.map f)) row shorter := by
  cases row with
  | nil => rfl
  | cons lexeme rest => cases found : lexeme.token <;> simp [close, found, Reading.map]

/-- A primary corresponds if what it reads in parentheses does. -/
theorem operand_corresponds (morphism : source.Morphism target f) (finish : Location)
    {first : Option (Rule α)} {second : Option (Rule β)}
    (inside : InsideCorresponds f first second) :
    Corresponds f (operand source finish first) (operand target finish second) := by
  intro made row
  cases row with
  | nil => rfl
  | cons lexeme rest =>
    cases found : lexeme.token with
    | number n => simp only [operand, found, Reading.map, morphism.number]
    | openParen =>
      match first, second, inside with
      | none, none, _ => simp only [operand, found, Reading.map]
      | some first, some second, inside =>
        have step := inside made rest
        simp only [operand, found, ← step]
        cases first made rest with
        | failed fault made => rfl
        | read value after shorter made => exact map_close finish _ value made after _
    | operator op => simp only [operand, found, Reading.map]
    | closeParen => simp only [operand, found, Reading.map]
    | endOfInput => simp only [operand, found, Reading.map]

/-- Sums under two meanings correspond. -/
theorem sum_corresponds (morphism : source.Morphism target f) (finish : Location) (room : Nat) :
    Corresponds f (sum source finish room) (sum target finish room) := by
  induction room with
  | zero =>
    exact chain_corresponds morphism _
      (chain_corresponds morphism _ (operand_corresponds morphism finish trivial))
  | succ room ih =>
    exact chain_corresponds morphism _
      (chain_corresponds morphism _ (operand_corresponds morphism finish ih))

end Rule

/-- **A change of meaning.** Reading and then mapping is reading under the other meaning. -/
theorem Lexemes.map_read {f : α → β} {source : Algebra α} {target : Algebra β}
    (morphism : source.Morphism target f) (row : Lexemes) :
    (row.read source).map f = row.read target := by
  unfold Lexemes.read
  by_cases counts : row.count (· == .openParen) ≠ row.count (· == .closeParen)
  · simp [counts, Outcome.map, Except.map]
  · simp only [counts, ↓reduceIte]
    have step := Rule.sum_corresponds morphism row.finish nestingLimit [] row.body
    rw [← List.map_nil (f := Step.map f), ← step]
    cases Rule.sum source row.finish nestingLimit [] row.body with
    | failed fault made => simp [Reading.map, Outcome.map, Except.map]
    | read value rest shorter made =>
      cases rest <;> simp [Reading.map, Outcome.map, Except.map]

/-- Changing the meaning of the result is reading under the other meaning. -/
theorem map_readText {f : α → β} {source : Algebra α} {target : Algebra β}
    (morphism : source.Morphism target f) (text : String) :
    (readText source text).map f = readText target text := by
  unfold readText
  cases Lexemes.scan text with
  | error fault => rfl
  | ok row => exact Lexemes.map_read morphism row

/-- The number of a text is the value of its tree. -/
theorem valueOf_eq_map_treeOf (text : String) : valueOf text = (treeOf text).map Tree.eval := by
  rw [valueOf, ← map_readText Algebra.eval_morphism]
  rfl

/-- A text has a number when it has a tree with this value. -/
theorem valueOf_eq_ok_iff {text : String} {value : Float} :
    valueOf text = .ok value ↔ ∃ tree, treeOf text = .ok tree ∧ tree.eval = value := by
  rw [valueOf_eq_map_treeOf]
  cases treeOf text <;> simp [Except.map]

/-- **One meaning.** Either the number and the tree of a text have the same fault, or there are
both: evaluating the tree on a stack then ends with the number and nothing else. -/
theorem value_agrees_with_tree (text : String) :
    (∃ fault, valueOf text = .error fault ∧ treeOf text = .error fault) ∨
      ∃ tree, treeOf text = .ok tree ∧ Tree.runEval [.visit tree] [] = some [tree.value] ∧
        valueOf text = .ok tree.value := by
  rw [valueOf_eq_map_treeOf]
  cases treeOf text with
  | error fault => exact .inl ⟨fault, rfl, rfl⟩
  | ok tree =>
    have evaluated := tree.value_eq_eval
    refine .inr ⟨tree, rfl, ?_, ?_⟩
    · rw [evaluated, tree.runEval_singleton]
    · rw [evaluated, Except.map]

end Reckoner
