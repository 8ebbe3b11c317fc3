import Reckoner.Proofs.Reading.CorrectPrefix
import Reckoner.Proofs.Scanning.Parentheses

/-! # Texts put together

Two texts in parentheses with an operator between them mean what the operator makes of the two
(`treeOf_combined`), unless one of them is as deep as parentheses may be. Then the first
parenthesis that is one too many is at fault, as it is in every text that the grammar would derive
with more room (`exists_isFirstAt_of_derives`).
-/

namespace Reckoner

open Text

/-! ## The first parenthesis at some depth -/

namespace Text

/-- The characters `before` stand in front of a parenthesis of the text, have opened `depth`
parentheses more than they closed, and no parenthesis further to the left is opened at this
depth. -/
structure IsFirstAt (depth : Int) (text before : List Char) : Prop where
  opens : ∃ after, before ++ '(' :: after = text
  reaches : surplus before = depth
  first : ∀ other after, other ++ '(' :: after = text → surplus other = depth → before <+: other

namespace IsFirstAt

variable {depth : Int} {piece rest before : List Char}

/-- A parenthesis in front of a text is the first that is opened at depth zero. -/
theorem here (rest : List Char) : IsFirstAt 0 ('(' :: rest) [] :=
  ⟨⟨rest, rfl⟩, rfl, fun _ _ _ _ => List.nil_prefix⟩

/-- Characters in front of a text that open no parenthesis at the depth. -/
theorem append (clear : ∀ inner after, inner ++ '(' :: after = piece → surplus inner ≠ depth)
    (later : IsFirstAt (depth - surplus piece) rest before) :
    IsFirstAt depth (piece ++ rest) (piece ++ before) where
  opens := by
    obtain ⟨after, split⟩ := later.opens
    exact ⟨after, by rw [List.append_assoc, split]⟩
  reaches := by
    rw [surplus_append, later.reaches]
    omega
  first := by
    intro other after split deep
    rcases List.append_eq_append_iff.mp split with ⟨inner, whole, tail⟩ | ⟨inner, rfl, tail⟩
    · cases inner with
      | nil =>
        rw [List.append_nil] at whole
        subst whole
        have start := later.first [] after (by simpa using tail) (by rw [surplus_nil]; omega)
        rw [List.prefix_nil.mp start, List.append_nil]
      | cons c inner =>
        obtain ⟨rfl, -⟩ := List.cons.inj tail
        exact absurd deep (clear other inner whole.symm)
    · rw [surplus_append] at deep
      exact (List.prefix_append_right_inj piece).mpr
        (later.first inner after tail.symm (by omega))

/-- A piece without parentheses only shifts the place. -/
theorem append_of_notMem (none : '(' ∉ piece)
    (later : IsFirstAt (depth - surplus piece) rest before) :
    IsFirstAt depth (piece ++ rest) (piece ++ before) := by
  refine later.append fun inner after split => absurd ?_ none
  rw [← split]
  simp

end IsFirstAt

end Text

/-- What contains an opening parenthesis and writes a token is the parenthesis alone. -/
theorem Writes.openParen_of_mem {raw : List Char} {token : Token} (writes : Writes raw token)
    (inside : '(' ∈ raw) : raw = ['('] ∧ token = .openParen := by
  rcases writes.symbol_or_literal with ⟨c, rfl, known⟩ | ⟨value, rfl, -, digits, -⟩
  · obtain rfl := List.mem_singleton.mp inside
    exact ⟨rfl, Option.some.inj (known.symm.trans (Token.ofSymbol?_eq_some_iff.mpr rfl))⟩
  · exact absurd (digits _ inside) (by decide)

namespace Pushdown

/-- A parenthesis is only opened while fewer are open than may be. -/
theorem length_opened_ne_of_step {checker next : Pushdown} {lexeme : Lexeme}
    (taken : checker.step lexeme = .ok next) (opens : lexeme.token = .openParen) :
    checker.opened.length ≠ nestingLimit := by
  rcases step_eq_ok taken with ⟨value, token, -⟩ | ⟨-, -, room, -⟩ | ⟨op, token, -⟩ |
    ⟨last, others, token, -⟩
  · simp [opens] at token
  · exact room
  · simp [opens] at token
  · simp [opens] at token

/-- The parenthesis that a checker finds nested too deeply is the first that is opened at the limit,
counted in the characters of the text. -/
theorem exists_isFirstAt_of_run {passed text lead : List Char} {tiles : List Tile}
    (tiling : IsTiling passed text lead tiles) {checker : Pushdown} {here : Location}
    (failed : checker.run (tiles.map Tile.lexeme) = .error (.nestingTooDeep nestingLimit here)) :
    ∃ before, here = .behind (passed ++ before) ∧
      IsFirstAt (nestingLimit - checker.opened.length) text before := by
  induction tiles generalizing passed text lead checker with
  | nil => cases failed
  | cons tile tiles ih =>
    obtain ⟨later, rfl, located, -, others⟩ := tiling.of_cons
    have decodes := (tiling.marks tile List.mem_cons_self).decodes
    have unopened := notMem_of_blanks tiling.separates
    have level := surplus_of_blanks tiling.separates
    rw [List.map_cons, run_cons] at failed
    cases stepped : checker.step tile.lexeme with
    | error first =>
      rw [stepped] at failed
      cases failed
      obtain ⟨opens, full, -, rfl⟩ := step_eq_nestingTooDeep stepped
      have written := Writes.eq_of_openParen (opens ▸ decodes)
      refine ⟨lead, located, ?_⟩
      have start : IsFirstAt (nestingLimit - checker.opened.length - Text.surplus lead)
          (tile.raw ++ later) [] := by
        rw [level, full, written]
        simpa using IsFirstAt.here later
      simpa using start.append_of_notMem unopened
    | ok next =>
      rw [stepped] at failed
      obtain ⟨before, rfl, first⟩ := ih others failed
      have opened := length_opened_of_step stepped
      rw [← decodes.surplus_eq] at opened
      refine ⟨lead ++ (tile.raw ++ before), by simp, .append_of_notMem unopened (.append ?_ ?_)⟩
      · intro inner after split
        obtain ⟨written, opens⟩ := decodes.openParen_of_mem (by simp [← split])
        obtain ⟨rfl, -⟩ : inner = [] ∧ after = [] := by
          simpa [List.append_eq_cons_iff] using split.trans written
        have room := length_opened_ne_of_step stepped opens
        rw [level, Text.surplus_nil]
        omega
      · rw [level]
        have same : (nestingLimit : Int) - checker.opened.length - 0 - Text.surplus tile.raw =
            nestingLimit - next.opened.length := by omega
        rwa [same]

/-! ## Rows that are too deep -/

/-- The checker takes every row of these tokens as one operand, or finds a parenthesis of it nested
too deeply. -/
def TakesUnlessDeep (tokens : List Token) : Prop :=
  ∀ (opened : List Location) (row : List Lexeme), Lexeme.tokens row = tokens →
    run ⟨true, opened⟩ row = .ok ⟨false, opened⟩ ∨
      ∃ here, run ⟨true, opened⟩ row = .error (.nestingTooDeep nestingLimit here)

namespace TakesUnlessDeep

variable {tokens lefts rights : List Token}

/-- A number is taken. -/
theorem number (value : Int64) : TakesUnlessDeep [.number value] := by
  intro opened row written
  obtain ⟨lexeme, rfl, token⟩ := List.map_eq_singleton_iff.mp written
  exact .inl (by simp [run_cons, step, token, Except.bind])

/-- Two operands and an operator between them are taken if both are. -/
theorem append_operator (left : TakesUnlessDeep lefts) (op : Operator)
    (right : TakesUnlessDeep rights) : TakesUnlessDeep (lefts ++ .operator op :: rights) := by
  intro opened row written
  obtain ⟨before, others, rfl, left_written, more⟩ := List.map_eq_append_iff.mp written
  obtain ⟨joint, last, rfl, token, right_written⟩ := List.map_eq_cons_iff.mp more
  rw [run_append]
  rcases left opened before left_written with taken | ⟨here, deep⟩
  · simp only [taken, Except.bind, run_cons, step_operator token]
    exact right opened last right_written
  · exact .inr ⟨here, by rw [deep]; rfl⟩

/-- What is taken is taken in parentheses, unless these are one too many. -/
theorem parenthesized (inside : TakesUnlessDeep tokens) :
    TakesUnlessDeep (.openParen :: tokens ++ [.closeParen]) := by
  intro opened row written
  obtain ⟨first, others, rfl, opens, more⟩ := List.map_eq_cons_iff.mp written
  obtain ⟨middle, last, rfl, inside_written, closes⟩ := List.map_eq_append_iff.mp more
  obtain ⟨closing, rfl, closed⟩ := List.map_eq_singleton_iff.mp closes
  by_cases full : opened.length = nestingLimit
  · refine .inr ⟨first.location, ?_⟩
    simp [run_cons, step, opens, full, Except.bind]
  · have entered : step ⟨true, opened⟩ first = .ok ⟨true, first.location :: opened⟩ := by
      simp [step, opens, full]
    simp only [run_cons, entered, Except.bind, run_append]
    rcases inside (first.location :: opened) middle inside_written with taken | ⟨here, deep⟩
    · left
      simp [taken, step, closed]
    · right
      exact ⟨here, by rw [deep]⟩

end TakesUnlessDeep

/-- Nothing but its depth is wrong with a row that the grammar derives. -/
theorem takesUnlessDeep_of_derives {phrase : Phrase} {tokens : List Token} {tree : Tree}
    (derived : Derives phrase tokens tree) : TakesUnlessDeep tokens := by
  induction derived with
  | number value => exact .number value
  | parenthesized _ ih => exact ih.parenthesized
  | factor _ ih => exact ih
  | times _ _ _ before_ih last_ih => exact before_ih.append_operator _ last_ih
  | term _ ih => exact ih
  | plus _ _ _ before_ih last_ih => exact before_ih.append_operator _ last_ih

end Pushdown

/-- **Too deep.** A text that the grammar derives, though with more parentheses open than the limit,
is refused at the first parenthesis that is opened when as many are open as may be. -/
theorem exists_isFirstAt_of_derives {text : String} {tokens : List Token} {tree : Tree}
    (known : Lexemes.tokens? text.toList = some tokens) (derived : Derives .sum tokens tree)
    (deep : ¬ NestedWithin nestingLimit tokens) :
    ∃ before, treeOf text = .error (.nestingTooDeep nestingLimit (.behind before)) ∧
      IsFirstAt nestingLimit text.toList before := by
  obtain ⟨row, scanned, rfl⟩ := Lexemes.tokens?_eq_some_iff.mp known
  rcases Pushdown.takesUnlessDeep_of_derives derived [] row.body rfl with taken | ⟨here, refused⟩
  · obtain ⟨-, nested⟩ := Pushdown.run_eq_ok_iff.mp taken
    exact absurd nested deep
  · obtain ⟨lead, tiles, tiling, body, -⟩ := Lexemes.exists_tiling_of_scan scanned
    obtain ⟨before, rfl, first⟩ := Pushdown.exists_isFirstAt_of_run tiling (body ▸ refused)
    have matched := Lexemes.matched_iff.mpr derived.surplus_eq_zero
    have failed : Pushdown.check row = .error (.nestingTooDeep nestingLimit (.behind before)) :=
      Pushdown.checkFrom_eq_error_iff.mpr (.inl refused)
    refine ⟨before, ?_, by simpa using first⟩
    rw [treeOf, readText_of_scan _ scanned]
    exact (Pushdown.check_eq_error_iff .tree matched).mp failed

/-! ## Two texts and an operator -/

/-- Two texts in parentheses with an operator between them. -/
def Text.combined (first : String) (op : Operator) (second : String) : String :=
  "(" ++ first ++ ")" ++ op.text ++ "(" ++ second ++ ")"

/-- Two rows of tokens in parentheses with an operator between them. -/
def Token.combined (lefts : List Token) (op : Operator) (rights : List Token) : List Token :=
  (.openParen :: lefts ++ [.closeParen]) ++
    .operator op :: (.openParen :: rights ++ [.closeParen])

/-- Putting texts in parentheses puts their tokens in parentheses. -/
theorem Lexemes.tokens?_combined {first second : String} {lefts rights : List Token}
    (left : tokens? first.toList = some lefts) (op : Operator)
    (right : tokens? second.toList = some rights) :
    tokens? (Text.combined first op second).toList = some (Token.combined lefts op rights) := by
  have apart (rest : List Char) : NoDigitNext (')' :: rest) := noDigitNext_cons.mpr (by decide)
  have written : (Text.combined first op second).toList =
      '(' :: (first.toList ++ ')' :: op.symbol :: '(' :: (second.toList ++ [')'])) := by
    simp [Text.combined, Operator.text]
  rw [written, tokens?_openParen, tokens?_append (apart _), left, tokens?_closeParen,
    tokens?_operator, tokens?_openParen, tokens?_append (apart _), right, tokens?_closeParen,
    tokens?_nil]
  simp [Token.combined]

/-- Parentheses around both operands leave room for one level less in each. -/
theorem nestedWithin_combined {limit : Nat} {lefts rights : List Token} {op : Operator}
    (left : surplus lefts = 0) (right : surplus rights = 0) :
    NestedWithin (limit + 1) (Token.combined lefts op rights) ↔
      NestedWithin limit lefts ∧ NestedWithin limit rights := by
  have closed : surplus (.openParen :: lefts ++ [.closeParen]) = 0 := by
    rw [List.cons_append, ← List.singleton_append, surplus_append, surplus_append, left]
    rfl
  rw [Token.combined, NestedWithin.append_operator_iff closed, NestedWithin.parenthesized_iff left,
    NestedWithin.parenthesized_iff right]

/-- **Combination.** If two texts have trees and neither has more than 255 parentheses open at once,
the text that puts them in parentheses with an operator between has the tree that joins theirs with
the operator. If one of them has 256 open, the combined text is refused, with the limit 256, at the
first parenthesis that is opened when 256 are open. -/
theorem treeOf_combined {first second : String} {left right : Tree}
    (firstRead : treeOf first = .ok left) (secondRead : treeOf second = .ok right)
    (op : Operator) :
    (Text.NestedWithin 255 first.toList ∧ Text.NestedWithin 255 second.toList →
      treeOf (Text.combined first op second) = .ok (.node op left right)) ∧
    (¬ (Text.NestedWithin 255 first.toList ∧ Text.NestedWithin 255 second.toList) →
      ∃ before, treeOf (Text.combined first op second) =
          .error (.nestingTooDeep 256 (.behind before)) ∧
        IsFirstAt 256 (Text.combined first op second).toList before) := by
  obtain ⟨lefts, firstTokens, firstDerived, -⟩ := treeOf_eq_ok_iff_tokens?.mp firstRead
  obtain ⟨rights, secondTokens, secondDerived, -⟩ := treeOf_eq_ok_iff_tokens?.mp secondRead
  have tokens := Lexemes.tokens?_combined firstTokens op secondTokens
  have derived : Derives .sum (Token.combined lefts op rights) (.node op left right) :=
    firstDerived.parenthesized.joined op secondDerived.parenthesized
  have depth : NestedWithin nestingLimit (Token.combined lefts op rights) ↔
      Text.NestedWithin 255 first.toList ∧ Text.NestedWithin 255 second.toList := by
    rw [Text.nestedWithin_iff firstTokens, Text.nestedWithin_iff secondTokens]
    exact nestedWithin_combined firstDerived.surplus_eq_zero secondDerived.surplus_eq_zero
  constructor
  · intro shallow
    exact treeOf_eq_ok_iff_tokens?.mpr ⟨_, tokens, derived, depth.mpr shallow⟩
  · intro deep
    obtain ⟨before, refused, place⟩ :=
      exists_isFirstAt_of_derives tokens derived (deep ∘ depth.mp)
    exact ⟨before, refused, place⟩

/-- A sum and a number in parentheses are multiplied. -/
theorem treeOf_combined_of_sum :
    ∃ left right, treeOf "1 + 2" = .ok left ∧ treeOf "(3)" = .ok right ∧
      Text.combined "1 + 2" .mul "(3)" = "(1 + 2)x((3))" ∧
      (Text.NestedWithin 255 "1 + 2".toList ∧ Text.NestedWithin 255 "(3)".toList →
        treeOf (Text.combined "1 + 2" .mul "(3)") = .ok (.node .mul left right)) ∧
      (¬ (Text.NestedWithin 255 "1 + 2".toList ∧ Text.NestedWithin 255 "(3)".toList) →
        ∃ before, treeOf (Text.combined "1 + 2" .mul "(3)") =
            .error (.nestingTooDeep 256 (.behind before)) ∧
          IsFirstAt 256 (Text.combined "1 + 2" .mul "(3)").toList before) := by
  have first : treeOf "1 + 2" = .ok (.node .add (.ofInt64 1) (.ofInt64 2)) :=
    treeOf_eq_ok_iff.mpr ⟨⟨[⟨.number 1, ⟨0, 1, 1⟩, "1"⟩, ⟨.operator .add, ⟨2, 1, 3⟩, "+"⟩,
      ⟨.number 2, ⟨4, 1, 5⟩, "2"⟩], ⟨5, 1, 6⟩⟩, by cbv, (Derives.number 1).joined .add (.number 2),
      (NestedWithin.count_openParen _).mono (by decide)⟩
  have second : treeOf "(3)" = .ok (.ofInt64 3) :=
    treeOf_eq_ok_iff.mpr ⟨⟨[⟨.openParen, ⟨0, 1, 1⟩, "("⟩, ⟨.number 3, ⟨1, 1, 2⟩, "3"⟩,
      ⟨.closeParen, ⟨2, 1, 3⟩, ")"⟩], ⟨3, 1, 4⟩⟩, by cbv,
      .term (.factor (.parenthesized (.term (.factor (.number 3))))),
      (NestedWithin.count_openParen _).mono (by decide)⟩
  exact ⟨_, _, first, second, by decide, treeOf_combined first second .mul⟩

end Reckoner
