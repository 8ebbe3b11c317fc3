import Reckoner.Grammar.Repetition
import Reckoner.Meaning
import Reckoner.Proofs.Reading.Depth
import Reckoner.Proofs.Reading.OnePass
import Reckoner.Proofs.Scanning.Tokens

/-! # The reader and the grammar

The reader accepts exactly the rows that the grammar derives and that keep to the depth of
parentheses, and it gives them the tree of their derivation (`Lexemes.read_tree_eq_ok_iff`).
Soundness follows the reader, completeness the derivation: a derivation adds operands on the
right, one at a time, as the loop over a chain does. Because a reading has one result, a row has
one tree (`Derives.unique`).
-/

namespace Reckoner

/-! ## What is read is derived -/

namespace Rule

/-- What the rule reads of a row is a phrase of its kind, of the depth that the rule allows. -/
def Sound (room : Nat) (phrase : Phrase) (rule : Rule Tree) : Prop :=
  ∀ {made row tree rest shorter made'}, rule made row = .read tree rest shorter made' →
    ∃ used, row = used ++ rest ∧ Derives phrase (Lexeme.tokens used) tree ∧
      NestedWithin room (Lexeme.tokens used)

/-- A chain that goes on from what the grammar derives reads what the grammar derives. -/
theorem chainFrom_sound {room : Nat} {level : Precedence} {whole part : Phrase}
    {operand : Rule Tree} (joins : Joins level whole part) (operands : operand.Sound room part)
    {length : Nat} {left : Tree} {made : List (Step Tree)} {row : List Lexeme}
    {shorter : row.length < length} {before : List Token} (derived : Derives whole before left)
    (nested : NestedWithin room before) {tree : Tree} {rest : List Lexeme}
    {consumed : rest.length < length} {made' : List (Step Tree)}
    (reading : chainFrom .tree level operand left made row shorter =
      .read tree rest consumed made') :
    ∃ used, row = used ++ rest ∧ Derives whole (before ++ Lexeme.tokens used) tree ∧
      NestedWithin room (before ++ Lexeme.tokens used) := by
  fun_induction chainFrom .tree level operand left made row shorter generalizing before with
  | case1 =>
    cases reading
    exact ⟨[], by simp, by simpa using derived, by simpa using nested⟩
  | case2 left made lexeme tail _ op found right after _ _ inner =>
    rename_i ih
    obtain ⟨token, same⟩ := Token.operatorAt?_eq_some_iff.mp found
    obtain ⟨last, rfl, last_derived, last_nested⟩ := operands inner
    have longer := joins same derived last_derived
    have deeper := nested.append_operator derived.surplus_eq_zero op last_nested
    obtain ⟨used, rfl, used_derived, used_nested⟩ := ih longer deeper reading
    refine ⟨lexeme :: (last ++ used), by simp, ?_, ?_⟩
    · simpa [token] using used_derived
    · simpa [token] using used_nested
  | case3 => cases reading
  | case4 =>
    cases reading
    exact ⟨[], by simp, by simpa using derived, by simpa using nested⟩

/-- A chain reads what the grammar derives if its operands do. -/
theorem chain_sound {room : Nat} {level : Precedence} {whole part : Phrase}
    {operand : Rule Tree} (joins : Joins level whole part)
    (lifts : ∀ {tokens tree}, Derives part tokens tree → Derives whole tokens tree)
    (operands : operand.Sound room part) :
    (chain .tree level operand).Sound room whole := by
  intro made row tree rest shorter made' reading
  obtain ⟨left, after, consumed, first, start, others⟩ := chain_eq_read reading
  obtain ⟨used, rfl, derived, nested⟩ := operands start
  obtain ⟨more, rfl, all_derived, all_nested⟩ :=
    chainFrom_sound joins operands (lifts derived) nested others
  exact ⟨used ++ more, by simp, by simpa using all_derived, by simpa using all_nested⟩

/-- A primary does if what it reads in parentheses does. -/
theorem primary_sound {finish : Location} {room : Nat}
    (insides : ∀ smaller, room = smaller + 1 → (sum .tree finish smaller).Sound smaller .sum) :
    (primary .tree finish room).Sound room .primary := by
  intro made row tree rest shorter made' reading
  rcases primary_eq_read reading with
    ⟨lexeme, value, found, rfl, rfl, -⟩ |
    ⟨opening, row, closing, smaller, consumed, opens, closes, rfl, rfl, inner⟩
  · refine ⟨[lexeme], rfl, ?_, ?_⟩
    · simpa [found, Algebra.tree] using Derives.number value
    · simpa [found] using NestedWithin.number room value
  · obtain ⟨used, rfl, derived, nested⟩ := insides smaller rfl inner
    refine ⟨opening :: (used ++ [closing]), by simp, ?_, ?_⟩
    · simpa [opens, closes] using Derives.parenthesized derived
    · simpa [opens, closes] using NestedWithin.parenthesized derived.surplus_eq_zero nested

/-- What a sum reads is derived, and within the room that it has. -/
theorem sum_sound (finish : Location) (room : Nat) :
    (sum .tree finish room).Sound room .sum := by
  induction room using Nat.strongRecOn with
  | ind room ih =>
    rw [sum_eq_chain]
    refine chain_sound Derives.plus Derives.term (chain_sound Derives.times Derives.factor ?_)
    exact primary_sound fun smaller next => ih smaller (by omega)

/-! ## What is derived is read -/

/-- What a rule makes of a row that starts with a phrase of its kind. A sum or a product has been
read up to the end of the phrase, and its chain may go on from there. -/
def Reaches (finish : Location) (room : Nat) (made : List (Step Tree)) (row rest : List Lexeme)
    (tree : Tree) : Phrase → Prop
  | .primary => ∃ shorter made',
      primary .tree finish room made row = .read tree rest shorter made'
  | .product => ∃ shorter made',
      product .tree finish room made row =
        chainFrom .tree .multiplicative (primary .tree finish room) tree made' rest shorter
  | .sum => NoOperatorNext .multiplicative rest → ∃ shorter made',
      sum .tree finish room made row =
        chainFrom .tree .additive (product .tree finish room) tree made' rest shorter

/-- A chain ends where no operator of its level comes next. -/
theorem chainFrom_stop {algebra : Algebra Tree} {level : Precedence} {operand : Rule Tree}
    {length : Nat} {left : Tree} {made : List (Step Tree)} {row : List Lexeme}
    {shorter : row.length < length} (ended : NoOperatorNext level row) :
    chainFrom algebra level operand left made row shorter = .read left row shorter made := by
  cases row with
  | nil => rw [chainFrom]
  | cons lexeme rest =>
    have absent := ended lexeme rfl
    rw [chainFrom]
    simp [absent]

/-- Only an operator goes on with a chain. -/
theorem noOperatorNext_of_token {level : Precedence} {lexeme : Lexeme} {rest : List Lexeme}
    (other : lexeme.token.operatorAt? level = none) : NoOperatorNext level (lexeme :: rest) := by
  intro next first
  cases first
  exact other

/-- A chain that stands before one more operand goes on behind it. -/
theorem chainFrom_operand {algebra : Algebra Tree} {level : Precedence} {operand : Rule Tree}
    {length : Nat} (left : Tree) {right : Tree} {made made' : List (Step Tree)} {lexeme : Lexeme}
    {row rest : List Lexeme} {op : Operator} {shorter : (lexeme :: row).length < length}
    {consumed : rest.length < row.length} (token : lexeme.token = .operator op)
    (same : op.precedence = level)
    (reading : operand made row = .read right rest consumed made') :
    ∃ shorter' made'', chainFrom algebra level operand left made (lexeme :: row) shorter =
      chainFrom algebra level operand (algebra.operation op left right) made'' rest
        shorter' := by
  have found : lexeme.token.operatorAt? level = some op :=
    Token.operatorAt?_eq_some_iff.mpr ⟨token, same⟩
  refine ⟨by simp only [List.length_cons] at shorter; omega,
    ⟨left, op, right, algebra.operation op left right⟩ :: made', ?_⟩
  rw [chainFrom]
  simp only [found, reading]

/-- A row that begins with what the grammar derives is read up to where this ends. -/
theorem reaches_of_derives (finish : Location) {phrase : Phrase} {tokens : List Token}
    {tree : Tree} (derived : Derives phrase tokens tree) :
    ∀ {room : Nat} (made : List (Step Tree)) (rest : List Lexeme) {row used : List Lexeme},
      NestedWithin room tokens → row = used ++ rest → Lexeme.tokens used = tokens →
        Reaches finish room made row rest tree phrase := by
  induction derived with
  | number value =>
    intro room made rest row used nested split written
    obtain ⟨lexeme, rfl, token⟩ := List.map_eq_singleton_iff.mp written
    subst split
    refine ⟨by simp, made, ?_⟩
    simp [primary, operand, token, Algebra.tree]
  | @parenthesized tokens tree inner ih =>
    intro room made rest row used nested split written
    obtain ⟨first, others, rfl, opens, more⟩ := List.map_eq_cons_iff.mp written
    obtain ⟨middle, last, rfl, inside_written, closes⟩ := List.map_eq_append_iff.mp more
    obtain ⟨closing, rfl, closed⟩ := List.map_eq_singleton_iff.mp closes
    subst split
    cases room with
    | zero => exact absurd nested.pos_of_openParen (by omega)
    | succ room =>
      have ended : ∀ level, NoOperatorNext level (closing :: rest) := fun level =>
        noOperatorNext_of_token (by simp [closed, Token.operatorAt?])
      obtain ⟨shorter, made', reading⟩ :=
        ih made (closing :: rest) nested.inside rfl inside_written
          (ended .multiplicative)
      rw [chainFrom_stop (ended .additive)] at reading
      simp only [List.cons_append, List.append_assoc, List.nil_append]
      refine ⟨by simp; omega, made', ?_⟩
      simp only [primary, operand, opens, inside, reading, close, closed]
  | @factor tokens tree only ih =>
    intro room made rest row used nested split written
    obtain ⟨shorter, made', reading⟩ := ih made rest nested split written
    exact ⟨shorter, made', by rw [product, chain, reading]⟩
  | @times op lefts rights left right level before last before_ih last_ih =>
    intro room made rest row used nested split written
    obtain ⟨start, others, rfl, start_written, more⟩ := List.map_eq_append_iff.mp written
    obtain ⟨joint, final, rfl, token, final_written⟩ := List.map_eq_cons_iff.mp more
    have final_nested := nested.of_append_operator before.surplus_eq_zero
    obtain ⟨_, made₁, first⟩ := before_ih made (joint :: (final ++ rest))
      nested.of_append_left (by simpa using split) start_written
    obtain ⟨_, made₂, second⟩ := last_ih made₁ rest final_nested rfl final_written
    obtain ⟨shorter, made₃, third⟩ := chainFrom_operand left token level second
    exact ⟨shorter, made₃, first.trans third⟩
  | @term tokens tree only ih =>
    intro room made rest row used nested split written ended
    obtain ⟨shorter, made', reading⟩ := ih made rest nested split written
    rw [chainFrom_stop ended] at reading
    exact ⟨shorter, made', by rw [sum_eq_chain, chain, reading]⟩
  | @plus op lefts rights left right level before last before_ih last_ih =>
    intro room made rest row used nested split written ended
    obtain ⟨start, others, rfl, start_written, more⟩ := List.map_eq_append_iff.mp written
    obtain ⟨joint, final, rfl, token, final_written⟩ := List.map_eq_cons_iff.mp more
    have final_nested := nested.of_append_operator before.surplus_eq_zero
    -- The joint is additive, so the product before it ends there.
    obtain ⟨_, made₁, first⟩ := before_ih made (joint :: (final ++ rest))
      nested.of_append_left (by simpa using split) start_written
      (noOperatorNext_of_token (by simp [token, Token.operatorAt?, level]))
    obtain ⟨_, made₂, second⟩ := last_ih made₁ rest final_nested rfl final_written
    rw [chainFrom_stop ended] at second
    obtain ⟨shorter, made₃, third⟩ := chainFrom_operand left token level second
    exact ⟨shorter, made₃, first.trans third⟩

/-- A derived row is read to its end. -/
theorem sum_reads (finish : Location) {room : Nat} {tokens : List Token} {tree : Tree}
    {row : List Lexeme} (derived : Derives .sum tokens tree) (nested : NestedWithin room tokens)
    (written : Lexeme.tokens row = tokens) :
    ∃ shorter made, sum .tree finish room [] row = .read tree [] shorter made := by
  have nothing (level : Precedence) : NoOperatorNext level [] := by simp [NoOperatorNext]
  obtain ⟨shorter, made, reading⟩ := reaches_of_derives finish derived [] [] nested
    (List.append_nil row).symm written (nothing .multiplicative)
  rw [chainFrom_stop (nothing .additive)] at reading
  exact ⟨shorter, made, reading⟩

end Rule

/-- **The language of the reader.** A row is read as a tree exactly when the grammar derives its
tokens with that tree and no more parentheses than the limit are ever open. -/
theorem Lexemes.read_tree_eq_ok_iff {row : Lexemes} {tree : Tree} :
    (row.read .tree).result = .ok tree ↔
      Derives .sum row.tokens tree ∧ NestedWithin nestingLimit row.tokens := by
  unfold Lexemes.read
  constructor
  · intro success
    simp only at success
    split at success
    · cases success
    · split at success
      · rename_i value shorter made reading
        cases success
        obtain ⟨used, all, derived, nested⟩ := Rule.sum_sound row.finish nestingLimit reading
        rw [List.append_nil] at all
        rw [Lexemes.tokens, all]
        exact ⟨derived, nested⟩
      · cases success
      · cases success
  · rintro ⟨derived, nested⟩
    have matched := Lexemes.matched_iff.mpr derived.surplus_eq_zero
    obtain ⟨shorter, made, reading⟩ := Rule.sum_reads row.finish derived nested rfl
    simp [matched, reading]

/-! ## One tree for a row -/

/-- A lexeme that stands in no text. -/
def Lexeme.ofToken (token : Token) : Lexeme :=
  ⟨token, .start, ""⟩

/-- Lexemes made of tokens have these tokens. -/
@[simp]
theorem Lexeme.tokens_map_ofToken (tokens : List Token) :
    Lexeme.tokens (tokens.map Lexeme.ofToken) = tokens := by
  simp [Lexeme.tokens, Function.comp_def, Lexeme.ofToken]

/-- **One tree.** No row has two derivations with different trees, however deep its parentheses
are. -/
theorem Derives.unique {tokens : List Token} {first second : Tree}
    (left : Derives .sum tokens first) (right : Derives .sum tokens second) : first = second := by
  -- Both derivations tell what comes of reading the same row with room enough.
  have nested := NestedWithin.count_openParen tokens
  have written := Lexeme.tokens_map_ofToken tokens
  obtain ⟨_, _, first_reading⟩ := Rule.sum_reads .start left nested written
  obtain ⟨_, _, second_reading⟩ := Rule.sum_reads .start right nested written
  rw [first_reading] at second_reading
  cases second_reading
  rfl

/-! ## Texts -/

/-- A text has the tree that its tokens derive, if they are nested within the limit. -/
theorem treeOf_eq_ok_iff {text : String} {tree : Tree} :
    treeOf text = .ok tree ↔
      ∃ row, Lexemes.scan text = .ok row ∧ Derives .sum row.tokens tree ∧
        NestedWithin nestingLimit row.tokens := by
  simp only [treeOf, readText_eq_ok_iff, Lexemes.read_tree_eq_ok_iff]

/-- The tokens of a text decide how it is read. -/
theorem treeOf_eq_ok_iff_tokens? {text : String} {tree : Tree} :
    treeOf text = .ok tree ↔
      ∃ tokens, Lexemes.tokens? text.toList = some tokens ∧ Derives .sum tokens tree ∧
        NestedWithin nestingLimit tokens := by
  rw [treeOf_eq_ok_iff]
  simp only [Lexemes.tokens?_eq_some_iff]
  constructor
  · rintro ⟨row, scanned, expression⟩
    exact ⟨row.tokens, ⟨row, scanned, rfl⟩, expression⟩
  · rintro ⟨_, ⟨row, scanned, rfl⟩, expression⟩
    exact ⟨row, scanned, expression⟩

/-- **The language of texts.** A text is read as a tree exactly when it can be cut into lexemes,
the grammar expands to their tokens with that tree, and no more parentheses than the limit are
ever open. The tokens of such a text have no other tree. -/
theorem treeOf_eq_ok_iff_expands (text : String) (tree : Tree) :
    (treeOf text = .ok tree ↔
      ∃ row, Lexemes.scan text = .ok row ∧ Expands .sum row.tokens tree ∧
        NestedWithin nestingLimit row.tokens) ∧
    (treeOf text = .ok tree →
      ∃ row, Lexemes.scan text = .ok row ∧
        ∀ other, Expands .sum row.tokens other ↔ other = tree) := by
  constructor
  · simp only [treeOf_eq_ok_iff, expands_iff_derives]
  · intro success
    obtain ⟨row, scanned, derived, _⟩ := treeOf_eq_ok_iff.mp success
    refine ⟨row, scanned, fun other => ⟨?_, ?_⟩⟩
    · intro expanded
      exact expanded.derives.unique derived
    · rintro rfl
      exact derived.expands

end Reckoner
