import Reckoner.Grammar.Derivation

/-! # The depth of parentheses

What is opened more than closed adds up along a row, and the bound on it for all beginnings of a
row passes to the parts of the row and from the parts to the whole. A row has as many opening as
closing parentheses when its surplus is zero (`Lexemes.matched_iff`).
-/

namespace Reckoner

@[simp]
theorem surplus_nil : surplus [] = 0 :=
  rfl

/-- The surplus of a row is that of its parts. -/
@[simp]
theorem surplus_append (first second : List Token) :
    surplus (first ++ second) = surplus first + surplus second := by
  simp only [surplus, List.count_append]
  omega

namespace NestedWithin

/-- A higher limit admits no fewer rows. -/
theorem mono {limit more : Nat} {tokens : List Token} (nested : NestedWithin limit tokens)
    (few : limit ≤ more) : NestedWithin more tokens := by
  intro before starts
  have bounded := nested before starts
  omega

/-- The front of a row is nested no deeper than the row. -/
theorem of_append_left {limit : Nat} {first second : List Token}
    (nested : NestedWithin limit (first ++ second)) : NestedWithin limit first := by
  intro before starts
  exact nested before (starts.trans (List.prefix_append first second))

/-- Nor is what follows a front that closes what it opens. -/
theorem of_append_right {limit : Nat} {first second : List Token} (balanced : surplus first = 0)
    (nested : NestedWithin limit (first ++ second)) : NestedWithin limit second := by
  intro before starts
  have bounded := nested (first ++ before) ((List.prefix_append_right_inj first).mpr starts)
  rw [surplus_append] at bounded
  omega

/-- Two rows one after the other are nested as deep as the deeper one. -/
theorem append {limit : Nat} {first second : List Token} (balanced : surplus first = 0)
    (left : NestedWithin limit first) (right : NestedWithin limit second) :
    NestedWithin limit (first ++ second) := by
  intro before starts
  rcases List.prefix_or_prefix_of_prefix starts (List.prefix_append first second) with
    inside | ⟨more, rfl⟩
  · exact left before inside
  · have bounded := right more ((List.prefix_append_right_inj first).mp starts)
    rw [surplus_append]
    omega

/-- A single token is nested as deep as it opens. -/
theorem of_surplus_le {limit : Nat} {token : Token} (few : surplus [token] ≤ limit) :
    NestedWithin limit [token] := by
  intro before starts
  rcases List.prefix_cons_iff.mp starts with rfl | ⟨more, rfl, nothing⟩
  · simp
  · rw [List.prefix_nil.mp nothing]
    exact few

/-- An operator is not nested at all. -/
theorem operator (limit : Nat) (op : Operator) : NestedWithin limit [.operator op] :=
  of_surplus_le (by simp [surplus])

/-- An operator does not change the depth of what stands behind it. -/
theorem append_operator {limit : Nat} {lefts rights : List Token} (balanced : surplus lefts = 0)
    (op : Operator) (left : NestedWithin limit lefts) (right : NestedWithin limit rights) :
    NestedWithin limit (lefts ++ .operator op :: rights) := by
  apply left.append balanced
  rw [← List.singleton_append]
  exact (operator limit op).append (by rfl) right

/-- The right operand is nested no deeper than the whole. -/
theorem of_append_operator {limit : Nat} {lefts rights : List Token} {op : Operator}
    (balanced : surplus lefts = 0) (nested : NestedWithin limit (lefts ++ .operator op :: rights)) :
    NestedWithin limit rights := by
  have after := nested.of_append_right balanced
  rw [← List.singleton_append] at after
  exact after.of_append_right rfl

/-- An operator between two rows leaves them as deep as they are. -/
theorem append_operator_iff {limit : Nat} {lefts rights : List Token} {op : Operator}
    (balanced : surplus lefts = 0) :
    NestedWithin limit (lefts ++ .operator op :: rights) ↔
      NestedWithin limit lefts ∧ NestedWithin limit rights :=
  ⟨fun nested => ⟨nested.of_append_left, nested.of_append_operator balanced⟩,
    fun ⟨left, right⟩ => left.append_operator balanced op right⟩

/-- Nor is a number. -/
theorem number (limit : Nat) (value : Int64) : NestedWithin limit [.number value] :=
  of_surplus_le (by simp [surplus])

/-- What stands in a parenthesis has one level less. -/
theorem inside {limit : Nat} {tokens : List Token}
    (nested : NestedWithin (limit + 1) (.openParen :: tokens ++ [.closeParen])) :
    NestedWithin limit tokens := by
  intro before starts
  have bounded := nested (.openParen :: before) (by
    rw [List.cons_append, List.cons_prefix_cons]
    exact ⟨rfl, starts.trans (List.prefix_append tokens _)⟩)
  rw [← List.singleton_append, surplus_append] at bounded
  simp only [surplus] at bounded ⊢
  simp at bounded
  omega

/-- A parenthesis adds one level. -/
theorem parenthesized {limit : Nat} {tokens : List Token} (balanced : surplus tokens = 0)
    (nested : NestedWithin limit tokens) :
    NestedWithin (limit + 1) (.openParen :: tokens ++ [.closeParen]) := by
  intro before starts
  rcases List.prefix_cons_iff.mp starts with rfl | ⟨more, rfl, inner⟩
  · simp only [surplus_nil]
    omega
  · rw [← List.singleton_append, surplus_append]
    have opened : surplus [.openParen] = 1 := rfl
    rcases List.prefix_concat_iff.mp inner with rfl | shorter
    · rw [surplus_append, balanced]
      have closed : surplus [.closeParen] = -1 := rfl
      omega
    · have bounded := nested more shorter
      omega

/-- A pair of parentheses is one level. -/
theorem parenthesized_iff {limit : Nat} {tokens : List Token} (balanced : surplus tokens = 0) :
    NestedWithin (limit + 1) (.openParen :: tokens ++ [.closeParen]) ↔ NestedWithin limit tokens :=
  ⟨inside, parenthesized balanced⟩

/-- Every row keeps to the depth that all its opening parentheses together would have. -/
theorem count_openParen (tokens : List Token) :
    NestedWithin (tokens.count .openParen) tokens := by
  intro before starts
  have fewer := starts.sublist.count_le .openParen
  simp only [surplus]
  omega

/-- Nothing with a parenthesis keeps to a depth of zero. -/
theorem pos_of_openParen {limit : Nat} {tokens : List Token}
    (nested : NestedWithin limit (.openParen :: tokens)) : 0 < limit := by
  have bounded := nested [.openParen] (by simp)
  have opened : surplus [.openParen] = 1 := rfl
  omega

end NestedWithin

/-- A row closes every parenthesis that it opens, and none before it has opened one. -/
structure IsClosed (tokens : List Token) : Prop where
  covered : ∀ before : List Token, before <+: tokens → 0 ≤ surplus before
  balanced : surplus tokens = 0

namespace IsClosed

theorem nil : IsClosed [] where
  covered := by
    intro before starts
    rw [List.prefix_nil.mp starts]
    exact Int.le_refl _
  balanced := rfl

/-- What is closed in two parts is closed. -/
theorem append {first second : List Token} (left : IsClosed first) (right : IsClosed second) :
    IsClosed (first ++ second) where
  covered := by
    intro before starts
    rcases List.prefix_or_prefix_of_prefix starts (List.prefix_append first second) with
      inside | ⟨more, rfl⟩
    · exact left.covered before inside
    · rw [surplus_append, left.balanced, Int.zero_add]
      exact right.covered more ((List.prefix_append_right_inj first).mp starts)
  balanced := by rw [surplus_append, left.balanced, right.balanced, Int.zero_add]

/-- A token that opens and closes nothing is closed. -/
theorem of_surplus_eq_zero {token : Token} (level : surplus [token] = 0) : IsClosed [token] where
  covered := by
    intro before starts
    rcases List.prefix_cons_iff.mp starts with rfl | ⟨more, rfl, nothing⟩
    · simp
    · rw [List.prefix_nil.mp nothing]
      exact Int.le_of_eq level.symm
  balanced := level

/-- A number is closed, -/
theorem number (value : Int64) : IsClosed [.number value] :=
  of_surplus_eq_zero (by simp [surplus])

/-- an operator as well, -/
theorem operator (op : Operator) : IsClosed [.operator op] :=
  of_surplus_eq_zero (by simp [surplus])

/-- and so is what is closed, in parentheses. -/
theorem parenthesized {tokens : List Token} (inside : IsClosed tokens) :
    IsClosed (.openParen :: tokens ++ [.closeParen]) where
  covered := by
    intro before starts
    rcases List.prefix_cons_iff.mp starts with rfl | ⟨more, rfl, inner⟩
    · simp
    · have opened : surplus [.openParen] = 1 := rfl
      rw [← List.singleton_append, surplus_append]
      rcases List.prefix_concat_iff.mp inner with rfl | shorter
      · have closed : surplus [.closeParen] = -1 := rfl
        rw [surplus_append, inside.balanced]
        omega
      · have covered := inside.covered more shorter
        omega
  balanced := by
    have opened : surplus [.openParen] = 1 := rfl
    have closed : surplus [.closeParen] = -1 := rfl
    rw [List.cons_append, ← List.singleton_append, surplus_append, surplus_append,
      inside.balanced]
    omega

end IsClosed

/-- The surplus of a row is what the counts of its parentheses differ by. -/
theorem surplus_tokens (row : Lexemes) :
    surplus row.tokens =
      (row.count (· == .openParen) : Int) - (row.count (· == .closeParen) : Int) := by
  rw [Lexemes.count_eq_countP, Lexemes.count_eq_countP]
  rfl

/-- The two counts that a reader compares are equal when the surplus is zero. -/
theorem Lexemes.matched_iff {row : Lexemes} :
    row.count (· == .openParen) = row.count (· == .closeParen) ↔ surplus row.tokens = 0 := by
  rw [surplus_tokens]
  omega

end Reckoner
