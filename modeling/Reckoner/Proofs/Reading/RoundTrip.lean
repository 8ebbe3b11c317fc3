import Reckoner.Proofs.Decimal.WholeNumbers
import Reckoner.Proofs.Reading.CorrectPrefix
import Reckoner.Proofs.Reading.Morphism
import Reckoner.Proofs.Scanning.Tokens

/-! # Reading what was written

A tree is written with every node in parentheses, and the text is read back as the same tree, if it
can be read at all (`treeOf_written`): all leaves have to be whole numbers that an integer literal
can stand for, and the tree must not be higher than parentheses may be deep. What the reader makes
of other trees is decided by the one-pass checker, which refuses the minus sign of a negative leaf
and the parenthesis that is one too many.
-/

namespace Reckoner

/-- A float that an integer literal can stand for: a whole number below 2^63 without a sign. -/
def IsLiteral (x : Float) : Prop :=
  ∃ n < 2 ^ 63, (Binary.ofFloat x).IsWhole n

/-! ## Leaves -/

namespace Lexemes

/-- The digits of a number are scanned as this number, if it has less than 64 bits. -/
theorem tokens?_digits (n : ℕ) :
    tokens? (Decimal.digits n) = if n < 2 ^ 63 then some [.number (Int64.ofNat n)] else none := by
  have decimal : ∀ c ∈ Decimal.digits n, c.isDigit = true := fun c inside =>
    Nat.isDigit_of_mem_toDigits (by decide) (by decide) inside
  have run : Text.IsRun (Decimal.digits n) [] :=
    ⟨Nat.toDigits_ne_nil, decimal, Text.noDigitNext_nil⟩
  have value : Nat.ofDigitChars 10 (Decimal.digits n) 0 = n := Nat.ofDigitChars_ten_toDigits
  have limit : (2 : ℕ) ^ 63 = 9223372036854775808 := by norm_num
  have scanned := tokens?_run run
  rw [List.append_nil, Literal.ofDigits?_eq, value, Literal.bound_eq] at scanned
  rw [scanned, limit]
  split <;> simp

/-- A literal is read as the integer that becomes it. -/
theorem tokens?_floatText {x : Float} (literal : IsLiteral x) :
    ∃ value, tokens? (Decimal.floatText x).toList = some [.number value] ∧
      Number.ofInt64 value = x := by
  obtain ⟨whole, small, literal⟩ := literal
  obtain ⟨n, shown, fits, same⟩ := Decimal.floatText_of_isWhole literal
  rw [← fits] at small
  refine ⟨_, ?_, same small⟩
  rw [shown, tokens?_digits, if_pos small]

/-- If the text of any other float has tokens at all, they start with a minus sign. -/
theorem tokens?_floatText_of_not {x : Float} {tokens : List Token} (other : ¬ IsLiteral x)
    (known : tokens? (Decimal.floatText x).toList = some tokens) :
    ∃ more, tokens = .operator .sub :: more := by
  by_cases whole : ∃ n, (Binary.ofFloat x).IsWhole n
  · obtain ⟨value, whole⟩ := whole
    obtain ⟨n, shown, fits, -⟩ := Decimal.floatText_of_isWhole whole
    have large : ¬ n < 2 ^ 63 := fun small => other ⟨value, fits.mp small, whole⟩
    rw [shown, tokens?_digits, if_neg large] at known
    cases known
  · rcases Decimal.floatText_of_not_isWhole (not_exists.mp whole) with sign | ⟨c, inside, letter⟩
    · obtain ⟨rest, split⟩ := List.head?_eq_some_iff.mp sign
      have minus : Token.ofSymbol? '-' = some (.operator .sub) :=
        Token.ofSymbol?_eq_some_iff.mpr rfl
      rw [split, tokens?_symbol minus] at known
      obtain ⟨more, -, rfl⟩ := Option.map_eq_some_iff.mp known
      exact ⟨more, rfl⟩
    · have alphabet := inAlphabet_of_tokens? known c inside
      simp only [List.mem_cons, List.not_mem_nil, or_false] at letter
      rcases letter with rfl | rfl | rfl <;>
        exact absurd alphabet (by unfold Text.InAlphabet; decide)

end Lexemes

/-! ## Written trees -/

namespace Tree

/-- The numbers of a tree, from left to right. -/
def leaves : Tree → List Float
  | .leaf value => [value]
  | .node _ left right => left.leaves ++ right.leaves

/-- The tokens of the written form, where its leaves have tokens. -/
def tokens? : Tree → Option (List Token)
  | .leaf value => Lexemes.tokens? (Decimal.floatText value).toList
  | .node op left right => do
    let lefts ← left.tokens?
    let rights ← right.tokens?
    some (.openParen :: (lefts ++ .operator op :: rights) ++ [.closeParen])

/-- The tokens of the text of a tree are those of the tree. -/
theorem tokens?_text (tree : Tree) : Lexemes.tokens? tree.text.toList = tree.tokens? := by
  induction tree with
  | leaf value => rfl
  | node op left right left_ih right_ih =>
    have gap : Text.isBlank ' ' = true := by decide
    have apart (c : Char) (rest : List Char) (mark : c = ' ' ∨ c = ')') :
        Text.NoDigitNext (c :: rest) := by
      rcases mark with rfl | rfl <;> exact Text.noDigitNext_cons.mpr (by decide)
    rw [toList_text_node, Lexemes.tokens?_openParen,
      Lexemes.tokens?_append (apart ' ' _ (.inl rfl)), Lexemes.tokens?_blank gap, Lexemes.tokens?_operator, Lexemes.tokens?_blank gap,
      Lexemes.tokens?_append (apart ')' _ (.inr rfl)), Lexemes.tokens?_closeParen,
      Lexemes.tokens?_nil, left_ih, right_ih, tokens?]
    simp [Option.map_bind]

/-- A tree whose leaves are literals has tokens, the grammar derives them with this tree, and they
are nested as deep as the tree is high. -/
theorem exists_derives {tree : Tree} (literals : ∀ x ∈ tree.leaves, IsLiteral x) :
    ∃ tokens, tree.tokens? = some tokens ∧ Derives .primary tokens tree ∧
      NestedWithin tree.height tokens := by
  induction tree with
  | leaf x =>
    obtain ⟨value, known, same⟩ := Lexemes.tokens?_floatText (literals x (by simp [leaves]))
    refine ⟨_, known, ?_, .number _ value⟩
    rw [← same]
    exact .number value
  | node op left right left_ih right_ih =>
    simp only [leaves, List.mem_append, or_imp, forall_and] at literals
    obtain ⟨lefts, left_known, left_derived, left_nested⟩ := left_ih literals.1
    obtain ⟨rights, right_known, right_derived, right_nested⟩ := right_ih literals.2
    have inside := left_derived.joined op right_derived
    have nested : NestedWithin (max left.height right.height) (lefts ++ .operator op :: rights) :=
      .append_operator left_derived.surplus_eq_zero op
        (left_nested.mono (le_max_left _ _)) (right_nested.mono (le_max_right _ _))
    refine ⟨_, ?_, .parenthesized inside, nested.parenthesized inside.surplus_eq_zero⟩
    simp [tokens?, left_known, right_known]

/-- The checker takes the tokens of a tree as those of one operand, and only if its leaves are
literals and there is room for its height. -/
theorem of_run {tree : Tree} {tokens : List Token} {opened : List Location} {reached : Pushdown}
    (known : tree.tokens? = some tokens) (room : opened.length ≤ nestingLimit)
    (ran : Pushdown.run ⟨true, opened⟩ (tokens.map Lexeme.ofToken) = .ok reached) :
    reached = ⟨false, opened⟩ ∧ (∀ x ∈ tree.leaves, IsLiteral x) ∧
      opened.length + tree.height ≤ nestingLimit := by
  induction tree generalizing tokens opened reached with
  | leaf x =>
    by_cases literal : IsLiteral x
    · obtain ⟨value, shown, -⟩ := Lexemes.tokens?_floatText literal
      obtain rfl := Option.some.inj (shown.symm.trans known)
      cases ran
      exact ⟨rfl, by simpa [leaves] using literal, room⟩
    · obtain ⟨more, rfl⟩ := Lexemes.tokens?_floatText_of_not literal known
      -- An operand is expected, and the minus sign is none.
      obtain ⟨next, taken, -⟩ := Pushdown.run_cons_eq_ok_iff.mp ran
      cases taken
  | node op left right left_ih right_ih =>
    simp only [tokens?, Option.bind_eq_bind, Option.bind_eq_some_iff, Option.some.injEq] at known
    obtain ⟨lefts, left_known, rights, right_known, rfl⟩ := known
    simp only [List.map_append, List.map_cons, List.cons_append, List.append_assoc,
      Pushdown.run_cons_eq_ok_iff, Pushdown.run_append_eq_ok_iff] at ran
    obtain ⟨_, opens, _, left_ran, _, joins, _, right_ran, _, closes, ends⟩ := ran
    by_cases full : opened.length = nestingLimit
    · simp [Pushdown.step, Lexeme.ofToken, full] at opens
    · simp only [Pushdown.step, Lexeme.ofToken, full, if_false, Except.ok.injEq] at opens
      subst opens
      have deeper : (Location.start :: opened).length ≤ nestingLimit := by
        rw [List.length_cons]
        omega
      obtain ⟨rfl, left_literals, left_room⟩ := left_ih left_known deeper left_ran
      cases joins
      obtain ⟨rfl, right_literals, right_room⟩ := right_ih right_known deeper right_ran
      cases closes
      cases ends
      refine ⟨rfl, ?_, ?_⟩
      · simpa [leaves, or_imp, forall_and] using ⟨left_literals, right_literals⟩
      · rw [List.length_cons] at left_room right_room
        rw [height]
        omega

end Tree

/-! ## The round trip -/

/-- What can be read of a written tree is the tree itself. -/
theorem Tree.literals_of_treeOf {tree read : Tree} (success : treeOf tree.text = .ok read) :
    (∀ x ∈ tree.leaves, IsLiteral x) ∧ tree.height ≤ nestingLimit ∧ read = tree := by
  obtain ⟨tokens, known, derived, nested⟩ := treeOf_eq_ok_iff_tokens?.mp success
  rw [Tree.tokens?_text] at known
  have expression : IsExpression (Lexeme.tokens (tokens.map Lexeme.ofToken)) := by
    rw [Lexeme.tokens_map_ofToken]
    exact isExpression_iff_derives.mpr ⟨read, derived, nested⟩
  obtain ⟨-, literals, room⟩ :=
    Tree.of_run known (Nat.zero_le _) (Pushdown.run_eq_ok_iff.mpr expression)
  obtain ⟨_, own, own_derived, -⟩ := Tree.exists_derives literals
  obtain rfl := Option.some.inj (known.symm.trans own)
  refine ⟨literals, by simpa using room, derived.unique ?_⟩
  exact .term (.factor own_derived)

/-- **Round trip.** A written tree can be read if and only if its leaves are whole numbers below
2^63 without a sign and it is no higher than parentheses may be deep. What is read is the tree
again, so it is written as it was, and its value is the number that the text stands for. -/
theorem treeOf_written (tree : Tree) :
    ((∃ read, treeOf tree.written = .ok read) ↔
      (∀ x ∈ tree.leaves, ∃ n < 2 ^ 63, (Binary.ofFloat x).IsWhole n) ∧
        tree.height ≤ nestingLimit) ∧
    ∀ read, treeOf tree.written = .ok read →
      read = tree ∧ read.written = tree.written ∧ valueOf tree.written = .ok tree.value := by
  rw [Tree.written_eq_text]
  refine ⟨⟨?_, ?_⟩, ?_⟩
  · rintro ⟨read, success⟩
    obtain ⟨literals, room, -⟩ := Tree.literals_of_treeOf success
    exact ⟨literals, room⟩
  · rintro ⟨literals, room⟩
    obtain ⟨tokens, known, derived, nested⟩ := Tree.exists_derives literals
    rw [← Tree.tokens?_text] at known
    exact ⟨tree, treeOf_eq_ok_iff_tokens?.mpr
      ⟨tokens, known, .term (.factor derived), nested.mono room⟩⟩
  · intro read success
    obtain ⟨-, -, rfl⟩ := Tree.literals_of_treeOf success
    refine ⟨rfl, Tree.written_eq_text read, ?_⟩
    rw [valueOf_eq_map_treeOf, success, Tree.value_eq_eval]
    rfl

end Reckoner
