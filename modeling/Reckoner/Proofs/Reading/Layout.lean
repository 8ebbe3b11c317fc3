import Mathlib.Data.List.Forall2
import Reckoner.Proofs.Reading.Grammar
import Reckoner.Proofs.Reading.Morphism
import Reckoner.Proofs.Reading.OnePass
import Reckoner.Proofs.Scanning.Places

/-! # Independence of the layout

Blanks, line breaks and leading zeros decide where the lexemes of a text stand and which characters
write them, but not how they are read. Two texts with the same tokens have the same meaning, or
they have the same fault at lexemes of the same index (`meaning_of_same_tokens`).

The meaning is a matter of the grammar, which knows of no locations. The fault is the one that the
checker of `Reckoner.Grammar.Pushdown` finds, so it is enough to run this on both rows side by side,
with locations that correspond to each other in the rows and on the stacks of open parentheses.
-/

namespace Reckoner

/-- Two faults of one kind, with the same tokens and counts and with locations that correspond. A
text that cannot be cut into lexemes has no tokens to compare. -/
inductive Fault.Alike (same : Location → Location → Prop) : Fault → Fault → Prop where
  | unmatchedParentheses (opening closing : Nat) :
    Alike same (.unmatchedParentheses opening closing) (.unmatchedParentheses opening closing)
  | unclosedParenthesis {opened opened' location location' : Location} (found : Token)
    (start : same opened opened') (place : same location location') :
    Alike same (.unclosedParenthesis opened found location)
      (.unclosedParenthesis opened' found location')
  | operandExpected {location location' : Location} (found : Token)
    (place : same location location') :
    Alike same (.operandExpected found location) (.operandExpected found location')
  | trailingInput {location location' : Location} (found : Token)
    (place : same location location') :
    Alike same (.trailingInput found location) (.trailingInput found location')
  | nestingTooDeep {location location' : Location} (limit : Nat)
    (place : same location location') :
    Alike same (.nestingTooDeep limit location) (.nestingTooDeep limit location')

/-- Two computations end alike: with results that are related, or with faults that are alike. -/
inductive Parallel {α β : Type} (same : Location → Location → Prop) (related : α → β → Prop) :
    Except Fault α → Except Fault β → Prop where
  | ok {first : α} {second : β} (results : related first second) :
    Parallel same related (.ok first) (.ok second)
  | error {first second : Fault} (faults : first.Alike same second) :
    Parallel same related (.error first) (.error second)

/-- Computations that end alike are continued alike. -/
theorem Parallel.bind {α β γ δ : Type} {same : Location → Location → Prop} {related : α → β → Prop}
    {related' : γ → δ → Prop} {first : Except Fault α} {second : Except Fault β}
    {next : α → Except Fault γ} {next' : β → Except Fault δ}
    (heads : Parallel same related first second)
    (tails : ∀ {value value'}, related value value' →
      Parallel same related' (next value) (next' value')) :
    Parallel same related' (first.bind next) (second.bind next') := by
  cases heads with
  | ok results => exact tails results
  | error faults => exact .error faults

/-- Their results may be mapped alike. -/
theorem Parallel.map {α β γ δ : Type} {same : Location → Location → Prop} {related : α → β → Prop}
    {related' : γ → δ → Prop} {first : Except Fault α} {second : Except Fault β} {f : α → γ}
    {f' : β → δ} (ends : Parallel same related first second)
    (keeps : ∀ {value value'}, related value value' → related' (f value) (f' value')) :
    Parallel same related' (first.map f) (second.map f') := by
  cases ends with
  | ok results => exact .ok (keeps results)
  | error faults => exact .error faults

/-- Two computations end alike if they do so apart from their results and the results are equal. -/
theorem Parallel.of_map {α : Type} {same : Location → Location → Prop}
    {first second : Except Fault α}
    (ends : Parallel same Eq (first.map fun _ => ()) (second.map fun _ => ()))
    (results : ∀ value, first = .ok value → second = .ok value) :
    Parallel same Eq first second := by
  cases first with
  | ok value =>
    rw [results value rfl]
    exact .ok rfl
  | error fault =>
    cases second with
    | ok value => cases ends
    | error fault' =>
      cases ends with
      | error faults => exact .error faults

/-- Two lexemes with the same token at locations that correspond. -/
structure Lexeme.Alike (same : Location → Location → Prop) (first second : Lexeme) : Prop where
  token : first.token = second.token
  place : same first.location second.location

/-! ## Two checkers side by side -/

namespace Pushdown

variable {same : Location → Location → Prop}

/-- Two checkers that expect the same, with parentheses that correspond. -/
structure Alike (same : Location → Location → Prop) (first second : Pushdown) : Prop where
  expectsOperand : first.expectsOperand = second.expectsOperand
  opened : List.Forall₂ same first.opened second.opened

/-- What stands in the wrong place is wrong in both texts alike. -/
theorem misplaced_alike {opened others : List Location} {location location' : Location}
    (parentheses : List.Forall₂ same opened others) (found : Token)
    (place : same location location') :
    (misplaced opened found location).Alike same (misplaced others found location') := by
  cases parentheses with
  | nil => exact .trailingInput found place
  | cons start _ => exact .unclosedParenthesis found start place

/-- One step of both checkers. -/
theorem step_parallel {first second : Pushdown} {lexeme other : Lexeme}
    (checkers : first.Alike same second) (lexemes : lexeme.Alike same other) :
    Parallel same (Alike same) (first.step lexeme) (second.step other) := by
  obtain ⟨expectsOperand, opened⟩ := first
  obtain ⟨_, others⟩ := second
  obtain ⟨rfl, parentheses⟩ := checkers
  obtain ⟨token, location, raw⟩ := lexeme
  obtain ⟨_, location', raw'⟩ := other
  obtain ⟨rfl, place⟩ := lexemes
  have long := parentheses.length_eq
  cases expectsOperand with
  | true =>
    cases token with
    | number value => exact .ok ⟨rfl, parentheses⟩
    | openParen =>
      by_cases full : opened.length = nestingLimit
      · have alsoFull : others.length = nestingLimit := long ▸ full
        simp only [step, full, alsoFull, ↓reduceIte]
        exact .error (.nestingTooDeep _ place)
      · have alsoSpace : others.length ≠ nestingLimit := long ▸ full
        simp only [step, full, alsoSpace, ↓reduceIte]
        exact .ok ⟨rfl, .cons place parentheses⟩
    | operator op => exact .error (.operandExpected _ place)
    | closeParen => exact .error (.operandExpected _ place)
    | endOfInput => exact .error (.operandExpected _ place)
  | false =>
    cases token with
    | operator op => exact .ok ⟨rfl, parentheses⟩
    | closeParen =>
      cases parentheses with
      | nil => exact .error (.trailingInput _ place)
      | cons _ inner => exact .ok ⟨rfl, inner⟩
    | number value => exact .error (misplaced_alike parentheses _ place)
    | openParen => exact .error (misplaced_alike parentheses _ place)
    | endOfInput => exact .error (misplaced_alike parentheses _ place)

/-- At the ends of their rows both checkers end alike. -/
theorem conclude_parallel {first second : Pushdown} {finish finish' : Location}
    (checkers : first.Alike same second) (place : same finish finish') :
    Parallel same Eq (first.conclude finish) (second.conclude finish') := by
  obtain ⟨expectsOperand, opened⟩ := first
  obtain ⟨_, others⟩ := second
  obtain ⟨rfl, parentheses⟩ := checkers
  cases expectsOperand with
  | true => exact .error (.operandExpected _ place)
  | false =>
    cases parentheses with
    | nil => exact .ok rfl
    | cons start _ => exact .error (.unclosedParenthesis _ start place)

/-- Both checkers on the rest of their rows. -/
theorem checkFrom_parallel {first second : Pushdown} {finish finish' : Location}
    {row others : List Lexeme} (checkers : first.Alike same second)
    (lexemes : List.Forall₂ (Lexeme.Alike same) row others) (place : same finish finish') :
    Parallel same Eq (checkFrom finish first row) (checkFrom finish' second others) := by
  induction lexemes generalizing first second with
  | nil => exact conclude_parallel checkers place
  | cons alike _ ih =>
    rw [checkFrom_cons, checkFrom_cons]
    exact (step_parallel checkers alike).bind ih

/-- Two rows of the same tokens are checked alike. -/
theorem check_parallel {row others : Lexemes}
    (lexemes : List.Forall₂ (Lexeme.Alike same) row.body others.body)
    (place : same row.finish others.finish) :
    Parallel same Eq (check row) (check others) :=
  checkFrom_parallel ⟨rfl, .nil⟩ lexemes place

end Pushdown

/-! ## Two texts with the same tokens -/

/-- Two locations are those of lexemes with the same index, the end of the input included. -/
structure SamePlace (row others : Lexemes) (location location' : Location) : Prop where
  stands : ∃ index : Nat, row.toList[index]?.map Lexeme.location = some location
  index : ∀ index : Nat, row.toList[index]?.map Lexeme.location = some location ↔
    others.toList[index]?.map Lexeme.location = some location'

section Texts

variable {text other : String} {row others : Lexemes}

/-- Lexemes at the same index stand at places that correspond. -/
theorem samePlace_of_index (scanned : Lexemes.scan text = .ok row)
    (scanned' : Lexemes.scan other = .ok others) {index : Nat} {lexeme lexeme' : Lexeme}
    (stands : row.toList[index]? = some lexeme) (stands' : others.toList[index]? = some lexeme') :
    SamePlace row others lexeme.location lexeme'.location where
  stands := ⟨index, by rw [stands, Option.map_some]⟩
  index := fun there => by
    rw [Lexemes.location_iff_index scanned stands, Lexemes.location_iff_index scanned' stands']

/-- Rows of the same tokens have the same length, -/
theorem Lexemes.length_eq_of_tokens (same : row.tokens = others.tokens) :
    row.body.length = others.body.length := by
  rw [← Lexemes.length_tokens, same, Lexemes.length_tokens]

/-- and the same counts. -/
theorem Lexemes.count_eq_of_tokens (same : row.tokens = others.tokens) (kind : Token → Bool) :
    row.count kind = others.count kind := by
  rw [Lexemes.count_eq_countP, Lexemes.count_eq_countP, same]

/-- Their ends correspond. -/
theorem samePlace_finish (scanned : Lexemes.scan text = .ok row)
    (scanned' : Lexemes.scan other = .ok others) (same : row.tokens = others.tokens) :
    SamePlace row others row.finish others.finish := by
  have last : row.toList[row.body.length]? = some (.atEnd row.finish) := by
    simp [Lexemes.toList]
  have last' : others.toList[row.body.length]? = some (.atEnd others.finish) := by
    simp [Lexemes.toList, Lexemes.length_eq_of_tokens same]
  exact samePlace_of_index scanned scanned' last last'

/-- Lexeme by lexeme, the two rows have the same tokens at locations of the same index. -/
theorem alike_of_tokens (scanned : Lexemes.scan text = .ok row)
    (scanned' : Lexemes.scan other = .ok others) (same : row.tokens = others.tokens) :
    List.Forall₂ (Lexeme.Alike (SamePlace row others)) row.body others.body := by
  refine List.forall₂_iff_get.mpr ⟨Lexemes.length_eq_of_tokens same, fun index inside inside' => ?_⟩
  rw [List.get_eq_getElem, List.get_eq_getElem]
  constructor
  · have found : row.tokens[index]? = others.tokens[index]? := by rw [same]
    simpa [Lexemes.tokens, Lexeme.tokens, inside, inside'] using found
  · apply samePlace_of_index scanned scanned'
    · rw [Lexemes.toList, List.getElem?_append_left inside, List.getElem?_eq_getElem inside]
    · rw [Lexemes.toList, List.getElem?_append_left inside', List.getElem?_eq_getElem inside']

/-- A tree is decided by the tokens. -/
theorem treeOf_eq_ok_of_tokens (scanned : Lexemes.scan text = .ok row)
    (scanned' : Lexemes.scan other = .ok others) (same : row.tokens = others.tokens) {tree : Tree}
    (accepted : treeOf text = .ok tree) : treeOf other = .ok tree := by
  obtain ⟨row', again, derived, nested⟩ := treeOf_eq_ok_iff.mp accepted
  obtain rfl : row = row' := by simpa [scanned] using again
  rw [same] at derived nested
  exact treeOf_eq_ok_iff.mpr ⟨others, scanned', derived, nested⟩

/-- Texts with the same tokens have the same tree, or faults that correspond. -/
theorem treeOf_parallel (scanned : Lexemes.scan text = .ok row)
    (scanned' : Lexemes.scan other = .ok others) (same : row.tokens = others.tokens) :
    Parallel (SamePlace row others) Eq (treeOf text) (treeOf other) := by
  have counts := Lexemes.count_eq_of_tokens same
  have meaning : treeOf text = (row.read .tree).result := by
    rw [treeOf, readText_of_scan .tree scanned]
  have meaning' : treeOf other = (others.read .tree).result := by
    rw [treeOf, readText_of_scan .tree scanned']
  by_cases matched : row.count (· == .openParen) = row.count (· == .closeParen)
  · have matched' : others.count (· == .openParen) = others.count (· == .closeParen) := by
      rw [← counts, ← counts, matched]
    have checked : Parallel (SamePlace row others) Eq (Pushdown.check row)
        (Pushdown.check others) :=
      Pushdown.check_parallel (alike_of_tokens scanned scanned' same)
        (samePlace_finish scanned scanned' same)
    rw [Pushdown.check_eq_map_read .tree row matched, ← meaning,
      Pushdown.check_eq_map_read .tree others matched', ← meaning'] at checked
    exact .of_map checked fun _ => treeOf_eq_ok_of_tokens scanned scanned' same
  · have unmatched' : others.count (· == .openParen) ≠ others.count (· == .closeParen) := by
      rwa [← counts, ← counts]
    rw [meaning, meaning', Lexemes.read_of_unmatched .tree matched,
      Lexemes.read_of_unmatched .tree unmatched', counts, counts]
    exact .error (.unmatchedParentheses _ _)

/-- **Independence of the layout.** Two texts with the same tokens have the same tree and the same
value, or both have faults of one kind. Such faults name the same tokens and counts, and a location
in the one is where the lexeme of some index stands exactly if its counterpart in the other is. -/
theorem meaning_of_same_tokens (scanned : Lexemes.scan text = .ok row)
    (scanned' : Lexemes.scan other = .ok others) (same : row.tokens = others.tokens) :
    Parallel (SamePlace row others) Eq (treeOf text) (treeOf other) ∧
      Parallel (SamePlace row others) Eq (valueOf text) (valueOf other) := by
  have trees := treeOf_parallel scanned scanned' same
  refine ⟨trees, ?_⟩
  rw [valueOf_eq_map_treeOf, valueOf_eq_map_treeOf]
  exact trees.map (congrArg Tree.eval)

end Texts

/-- A parenthesis is not closed in time, on one line and on two. -/
theorem meaning_of_same_tokens_of_unclosed :
    ∃ row others, Lexemes.scan "(1 2)" = .ok row ∧ Lexemes.scan " ( 01\n 2 )" = .ok others ∧
      row.tokens = others.tokens ∧
      treeOf "(1 2)" = .error (.unclosedParenthesis ⟨0, 1, 1⟩ (.number 2) ⟨3, 1, 4⟩) ∧
      treeOf " ( 01\n 2 )" = .error (.unclosedParenthesis ⟨1, 1, 2⟩ (.number 2) ⟨7, 2, 2⟩) ∧
      Parallel (SamePlace row others) Eq (treeOf "(1 2)") (treeOf " ( 01\n 2 )") ∧
      Parallel (SamePlace row others) Eq (valueOf "(1 2)") (valueOf " ( 01\n 2 )") := by
  have scanned : Lexemes.scan "(1 2)" =
      .ok ⟨[⟨.openParen, ⟨0, 1, 1⟩, "("⟩, ⟨.number 1, ⟨1, 1, 2⟩, "1"⟩,
        ⟨.number 2, ⟨3, 1, 4⟩, "2"⟩, ⟨.closeParen, ⟨4, 1, 5⟩, ")"⟩], ⟨5, 1, 6⟩⟩ := by
    cbv
  have scanned' : Lexemes.scan " ( 01\n 2 )" =
      .ok ⟨[⟨.openParen, ⟨1, 1, 2⟩, "("⟩, ⟨.number 1, ⟨3, 1, 4⟩, "01"⟩,
        ⟨.number 2, ⟨7, 2, 2⟩, "2"⟩, ⟨.closeParen, ⟨9, 2, 4⟩, ")"⟩], ⟨10, 2, 5⟩⟩ := by
    cbv
  have rejected : treeOf "(1 2)" =
      .error (.unclosedParenthesis ⟨0, 1, 1⟩ (.number 2) ⟨3, 1, 4⟩) := by
    rw [treeOf, readText_of_scan _ scanned, ← Pushdown.check_eq_error_iff .tree (by decide)]
    rfl
  have rejected' : treeOf " ( 01\n 2 )" =
      .error (.unclosedParenthesis ⟨1, 1, 2⟩ (.number 2) ⟨7, 2, 2⟩) := by
    rw [treeOf, readText_of_scan _ scanned', ← Pushdown.check_eq_error_iff .tree (by decide)]
    rfl
  exact ⟨_, _, scanned, scanned', rfl, rejected, rejected',
    meaning_of_same_tokens scanned scanned' rfl⟩

end Reckoner
