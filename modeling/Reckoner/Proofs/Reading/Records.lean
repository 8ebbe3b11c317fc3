import Reckoner.Journal
import Reckoner.Proofs.Reading.Grammar
import Reckoner.Proofs.Reading.Morphism

/-! # What the journal says of a reading

A reader joins two operands as soon as it has the second one, so its steps are the inner nodes of
the tree it reads, each behind those below it (`Rule.sum_inPostOrder`). For a text that has a value
the traces are therefore the nodes of its tree, evaluated (`Journal.records_of_accepted`). How a
reading ended is recorded last, unless there was nothing to read because the text could not be
scanned (`Journal.tellsOutcome_iff`).
-/

namespace Reckoner

/-! ## Steps in post-order -/

/-- The inner nodes of a tree from left to right, each behind those below it, as the steps that make
them of their children. -/
def Tree.postOrder : Tree → List (Step Tree)
  | .leaf _ => []
  | .node op left right =>
    left.postOrder ++ right.postOrder ++ [⟨left, op, right, .node op left right⟩]

namespace Rule

/-- What the rule reads is made by the steps of its nodes in post-order, and by no others. -/
def InPostOrder (rule : Rule Tree) : Prop :=
  ∀ ⦃made row tree rest shorter made'⦄, rule made row = .read tree rest shorter made' →
    made' = tree.postOrder.reverse ++ made

/-- A chain that goes on hands on the steps of its tree behind the earlier ones. -/
theorem chainFrom_inPostOrder {level : Precedence} {operand : Rule Tree}
    (operands : operand.InPostOrder) {length : Nat} {left : Tree} {earlier made : List (Step Tree)}
    (before : made = left.postOrder.reverse ++ earlier) {row : List Lexeme}
    {shorter : row.length < length} {tree : Tree} {rest : List Lexeme}
    {consumed : rest.length < length} {made' : List (Step Tree)}
    (reading : chainFrom .tree level operand left made row shorter =
      .read tree rest consumed made') :
    made' = tree.postOrder.reverse ++ earlier := by
  fun_induction chainFrom .tree level operand left made row shorter with
  | case1 =>
    cases reading
    exact before
  | case2 left made lexeme tail shorter op found right after _ made'' inner result _ ih =>
    -- The node is made when both of its children are.
    refine ih ?_ reading
    rw [operands inner, before]
    simp [result, Tree.postOrder, Algebra.tree]
  | case3 => cases reading
  | case4 =>
    cases reading
    exact before

/-- A chain hands on the steps of its tree. -/
theorem chain_inPostOrder {level : Precedence} {operand : Rule Tree}
    (operands : operand.InPostOrder) : (chain .tree level operand).InPostOrder := by
  intro made row tree rest shorter made' reading
  obtain ⟨left, after, consumed, first, start, more⟩ := chain_eq_read reading
  exact chainFrom_inPostOrder operands (operands start) more

/-- Sums hand on the steps of their trees in post-order. -/
theorem sum_inPostOrder (finish : Location) (room : Nat) :
    (sum .tree finish room).InPostOrder := by
  induction room using Nat.strongRecOn with
  | ind room ih =>
    have primaries : (primary .tree finish room).InPostOrder := by
      intro made row tree rest shorter made' reading
      rcases primary_eq_read reading with
        ⟨lexeme, n, -, -, rfl, rfl⟩ | ⟨_, _, _, smaller, _, -, -, -, rfl, inner⟩
      · rfl
      · exact ih smaller (Nat.lt_succ_self smaller) inner
    rw [sum_eq_chain]
    exact chain_inPostOrder (chain_inPostOrder primaries)

end Rule

/-- The steps of a row with a tree are those of the tree. -/
theorem Lexemes.steps_of_read {row : Lexemes} {tree : Tree}
    (read : (row.read .tree).result = .ok tree) : (row.read .tree).steps = tree.postOrder := by
  unfold Lexemes.read at read ⊢
  by_cases counts : row.count (· == .openParen) ≠ row.count (· == .closeParen)
  · simp [counts] at read
  · simp only [counts, ↓reduceIte] at read ⊢
    cases reading : Rule.sum .tree row.finish nestingLimit [] row.body with
    | failed fault made => simp [reading] at read
    | read value rest shorter made =>
      simp only [reading] at read ⊢
      cases rest with
      | nil =>
        cases read
        simp [Rule.sum_inPostOrder row.finish nestingLimit reading]
      | cons lexeme rest => cases read

/-- The steps towards the value of a text are the nodes of its tree in post-order, evaluated. -/
theorem steps_of_treeOf {text : String} {tree : Tree} (read : treeOf text = .ok tree) :
    (readText .value text).steps = tree.postOrder.map (Step.map Tree.value) := by
  obtain ⟨row, scanned, result⟩ := readText_eq_ok_iff.mp read
  have evaluation : Tree.value = Tree.eval := funext Tree.value_eq_eval
  rw [← map_readText Algebra.eval_morphism, Outcome.map, readText_of_scan _ scanned,
    Lexemes.steps_of_read result, evaluation]

/-! ## Records of accepted texts -/

/-- An inner node as it is traced: the values of its children, and its own. -/
def Record.ofNode (node : Step Tree) : Record :=
  ⟨.trace, .reading,
    Decimal.floatText node.left.value ++ " " ++ node.operator.text ++ " " ++
      Decimal.floatText node.right.value ++ " = " ++ Decimal.floatText node.result.value⟩

namespace Journal

/-- The records of a text that is cut into lexemes: the scan, the steps and the end of the reading.
-/
theorem ofReading_of_scan {α : Type} (algebra : Algebra α) (ofStep : Step α → List Record)
    {text : String} {row : Lexemes} (scanned : Lexemes.scan text = .ok row) :
    ofReading algebra ofStep text =
      .scanned text row :: ((readText algebra text).steps.flatMap ofStep ++
        [.ended text (readText algebra text).result]) := by
  rw [readText_of_scan algebra scanned]
  simp only [ofReading, scanned]

/-- **The records of an accepted text.** A text with a value has a tree. Reading it as a number
records the number of lexemes, with the end of the input among them, then the inner nodes of the
tree in post-order, then that the text was read. Reading it as a tree records the first and the
last of these. -/
theorem records_of_accepted {text : String} {value : Float} (accepted : valueOf text = .ok value) :
    ∃ row tree, Lexemes.scan text = .ok row ∧ treeOf text = .ok tree ∧
      upTo .trace (ofValue text) =
        ⟨.debug, .scan,
          "scanned " ++ toString row.toList.length ++ " tokens from " ++ Text.Quoted.text text⟩ ::
        (tree.postOrder.map Record.ofNode ++
          [⟨.debug, .reading, "parsed " ++ Text.Quoted.text text⟩]) ∧
      upTo .trace (ofTree text) =
        [⟨.debug, .scan,
            "scanned " ++ toString row.toList.length ++ " tokens from " ++ Text.Quoted.text text⟩,
          ⟨.debug, .reading, "parsed " ++ Text.Quoted.text text⟩] := by
  obtain ⟨row, scanned, -⟩ := readText_eq_ok_iff.mp accepted
  obtain ⟨tree, read, -⟩ : ∃ tree, treeOf text = .ok tree ∧ tree.eval = value := by
    rw [valueOf_eq_map_treeOf] at accepted
    cases read : treeOf text with
    | error fault => simp [read, Except.map] at accepted
    | ok tree => exact ⟨tree, rfl, by simpa [read, Except.map] using accepted⟩
  refine ⟨row, tree, scanned, read, ?_, ?_⟩
  · rw [upTo_trace, ofValue, ofReading_of_scan .value _ scanned, steps_of_treeOf read,
      show (readText .value text).result = .ok value from accepted, ← List.map_eq_flatMap,
      List.map_map, row.length_toList]
    rfl
  · rw [upTo_trace, ofTree, ofReading_of_scan .tree _ scanned,
      show (readText .tree text).result = .ok tree from read, row.length_toList]
    simp [Record.scanned, Record.ended]

/-- The parenthesis holds the last operand, and is computed before the product around it. -/
theorem records_of_accepted_of_parenthesis :
    ∃ value, valueOf "8 - 6 x (1 + 2)" = .ok value ∧
      ∃ row tree, Lexemes.scan "8 - 6 x (1 + 2)" = .ok row ∧
        treeOf "8 - 6 x (1 + 2)" = .ok tree ∧
        upTo .trace (ofValue "8 - 6 x (1 + 2)") =
          ⟨.debug, .scan, "scanned " ++ toString row.toList.length ++ " tokens from " ++
            Text.Quoted.text "8 - 6 x (1 + 2)"⟩ ::
          (tree.postOrder.map Record.ofNode ++
            [⟨.debug, .reading, "parsed " ++ Text.Quoted.text "8 - 6 x (1 + 2)"⟩]) ∧
        upTo .trace (ofTree "8 - 6 x (1 + 2)") =
          [⟨.debug, .scan, "scanned " ++ toString row.toList.length ++ " tokens from " ++
              Text.Quoted.text "8 - 6 x (1 + 2)"⟩,
            ⟨.debug, .reading, "parsed " ++ Text.Quoted.text "8 - 6 x (1 + 2)"⟩] := by
  have scanned : Lexemes.scan "8 - 6 x (1 + 2)" =
      .ok ⟨[⟨.number 8, ⟨0, 1, 1⟩, "8"⟩, ⟨.operator .sub, ⟨2, 1, 3⟩, "-"⟩,
        ⟨.number 6, ⟨4, 1, 5⟩, "6"⟩, ⟨.operator .mul, ⟨6, 1, 7⟩, "x"⟩,
        ⟨.openParen, ⟨8, 1, 9⟩, "("⟩, ⟨.number 1, ⟨9, 1, 10⟩, "1"⟩,
        ⟨.operator .add, ⟨11, 1, 12⟩, "+"⟩, ⟨.number 2, ⟨13, 1, 14⟩, "2"⟩,
        ⟨.closeParen, ⟨14, 1, 15⟩, ")"⟩], ⟨15, 1, 16⟩⟩ := by
    cbv
  have inside : Derives .sum [.number 1, .operator .add, .number 2] _ :=
    .plus rfl (.term (.factor (.number 1))) (.factor (.number 2))
  have product : Derives .product [.number 6, .operator .mul, .openParen, .number 1,
      .operator .add, .number 2, .closeParen] _ :=
    .times rfl (.factor (.number 6)) (.parenthesized inside)
  have derived : Derives .sum [.number 8, .operator .sub, .number 6, .operator .mul, .openParen,
      .number 1, .operator .add, .number 2, .closeParen] _ :=
    .plus rfl (.term (.factor (.number 8))) product
  have read := treeOf_eq_ok_iff.mpr
    ⟨_, scanned, derived, (NestedWithin.count_openParen _).mono (by decide)⟩
  have accepted := (valueOf_eq_map_treeOf _).trans (congrArg (Except.map Tree.eval) read)
  exact ⟨_, accepted, records_of_accepted accepted⟩

/-! ## Records of endings -/

/-- How a reading ended is the last of the records, and no other record of readings is as
important. -/
def TellsOutcome {α : Type} (records : List Record) (text : String) (result : Except Fault α) :
    Prop :=
  ∃ before, records = before ++ [.ended text result] ∧
    ∀ record ∈ before, ¬(record.level = .debug ∧ record.origin = .reading)

/-- The records tell the outcome of a reading exactly if the scan succeeds. -/
theorem tellsOutcome_ofReading_iff {α : Type} {algebra : Algebra α}
    {ofStep : Step α → List Record}
    (traces : ∀ step, ∀ record ∈ ofStep step, record.level = .trace)
    {threshold : Level} (shown : Level.debug.rank ≤ threshold.rank) {text : String} :
    TellsOutcome (upTo threshold (ofReading algebra ofStep text)) text
        (readText algebra text).result ↔
      ∃ row, Lexemes.scan text = .ok row := by
  constructor
  · rintro ⟨before, recorded, -⟩
    cases scanned : Lexemes.scan text with
    | ok row => exact ⟨row, rfl⟩
    | error fault => simp [ofReading, scanned, upTo] at recorded
  · rintro ⟨row, scanned⟩
    have closing : (Record.ended text (readText algebra text).result).level = .debug := by
      cases (readText algebra text).result <;> rfl
    refine ⟨upTo threshold (.scanned text row :: (readText algebra text).steps.flatMap ofStep),
      ?_, ?_⟩
    · rw [ofReading_of_scan algebra _ scanned, ← List.cons_append, upTo, List.filter_append,
        List.filter_singleton]
      simp [upTo, closing, shown]
    · intro record member
      rcases List.mem_cons.mp (List.mem_filter.mp member).1 with rfl | member
      · simp [Record.scanned]
      · obtain ⟨step, -, member⟩ := List.mem_flatMap.mp member
        simp [traces step record member]

/-- **The record of an ending.** When debug records are kept, how a text was read is recorded, last
and once, exactly if the text can be cut into lexemes. A text that cannot leaves no records at
all. -/
theorem tellsOutcome_iff {threshold : Level} (shown : Level.debug.rank ≤ threshold.rank)
    (text : String) :
    (TellsOutcome (upTo threshold (ofValue text)) text (valueOf text) ↔
        ∃ row, Lexemes.scan text = .ok row) ∧
      (TellsOutcome (upTo threshold (ofTree text)) text (treeOf text) ↔
        ∃ row, Lexemes.scan text = .ok row) ∧
      ∀ fault, Lexemes.scan text = .error fault → ofValue text = [] ∧ ofTree text = [] := by
  refine ⟨tellsOutcome_ofReading_iff (by simp [Record.computed]) shown,
    tellsOutcome_ofReading_iff (by simp) shown, fun fault failed => ?_⟩
  simp [ofValue, ofTree, ofReading, failed]

/-- The debug level keeps debug records. -/
theorem tellsOutcome_iff_of_debug :
    Level.debug.rank ≤ Level.debug.rank ∧
      (TellsOutcome (upTo .debug (ofValue "1 *")) "1 *" (valueOf "1 *") ↔
        ∃ row, Lexemes.scan "1 *" = .ok row) ∧
      (TellsOutcome (upTo .debug (ofTree "1 *")) "1 *" (treeOf "1 *") ↔
        ∃ row, Lexemes.scan "1 *" = .ok row) ∧
      ∀ fault, Lexemes.scan "1 *" = .error fault → ofValue "1 *" = [] ∧ ofTree "1 *" = [] :=
  ⟨Nat.le_refl _, tellsOutcome_iff (Nat.le_refl _) "1 *"⟩

/-- A text that cannot be scanned is rejected, and nothing says so. -/
theorem not_tellsOutcome_of_unrecognized :
    (∃ fault, valueOf "*" = .error fault ∧ treeOf "*" = .error fault) ∧
      ¬TellsOutcome (upTo .debug (ofValue "*")) "*" (valueOf "*") ∧
      ¬TellsOutcome (upTo .debug (ofTree "*")) "*" (treeOf "*") := by
  have failed : Lexemes.scan "*" = .error (.unrecognized '*' ⟨0, 1, 1⟩) := by
    cbv
  refine ⟨⟨.scan (.unrecognized '*' ⟨0, 1, 1⟩), ?_, ?_⟩, ?_, ?_⟩
  · simp [valueOf, readText, failed]
  · simp [treeOf, readText, failed]
  · simp [TellsOutcome, ofValue, ofReading, failed, upTo]
  · simp [TellsOutcome, ofTree, ofReading, failed, upTo]

end Journal

end Reckoner
