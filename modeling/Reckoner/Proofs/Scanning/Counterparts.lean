import Reckoner.Proofs.Scanning.Parentheses

/-! # Counterparts of parentheses

What closes a parenthesis is its counterpart: a closing parenthesis, such that what stands between
the two closes whatever it opens. A parenthesis has a counterpart as soon as the characters behind
it close more than they open (`Text.hasCounterpart_iff`). The parentheses without a counterpart,
one inside the other, cut the beginning of a text into closed pieces (`Text.LeavesOpen`).
-/

namespace Reckoner.Text

/-- The characters close every parenthesis that they open, and none before they have opened one. -/
structure IsClosed (text : List Char) : Prop where
  covered : ∀ before : List Char, before <+: text → 0 ≤ surplus before
  balanced : surplus text = 0

/-- The parenthesis in front of these characters is closed among them. -/
def HasCounterpart (after : List Char) : Prop :=
  ∃ inside rest, inside ++ ')' :: rest = after ∧ IsClosed inside

/-- Every parenthesis that is opened is closed further to the right. -/
def ClosesEach (text : List Char) : Prop :=
  ∀ before after, before ++ '(' :: after = text → HasCounterpart after

/-- Of all the parentheses that are not closed among the characters `passed`, the one behind
`before` is the last. -/
def IsLastOpen (passed before : List Char) : Prop :=
  ∃ inside, before ++ '(' :: inside = passed ∧ ¬ HasCounterpart inside ∧ ClosesEach inside

variable {text inside more : List Char}

/-- Characters are closed as the marks that they write are. -/
theorem isClosed_iff :
    IsClosed text ↔ Reckoner.IsClosed (text.filterMap Token.ofSymbol?) := by
  constructor
  · intro closed
    refine ⟨fun row marks => ?_, by rw [← surplus_eq, closed.balanced]⟩
    obtain ⟨before, starts, rfl⟩ := List.prefix_filterMap_iff.mp marks
    rw [← surplus_eq]
    exact closed.covered before starts
  · intro closed
    refine ⟨fun before starts => ?_, by rw [surplus_eq, closed.balanced]⟩
    rw [surplus_eq]
    exact closed.covered _ (starts.filterMap _)

namespace IsClosed

/-- Blanks open and close nothing. -/
theorem of_blanks {lead : List Char} (separates : ∀ c ∈ lead, isBlank c = true) :
    IsClosed lead := by
  rw [isClosed_iff, Token.filterMap_ofSymbol?_of_isBlank separates]
  exact .nil

/-- A number or an operator neither opens nor closes a parenthesis. -/
theorem of_writes {raw : List Char} {token : Token} (writes : Writes raw token)
    (level : Reckoner.surplus [token] = 0) : IsClosed raw := by
  rw [isClosed_iff, writes.filterMap_ofSymbol?]
  cases mark : token.isMark with
  | true =>
    rw [List.filter_cons_of_pos mark]
    exact .of_surplus_eq_zero level
  | false =>
    rw [List.filter_cons_of_neg (by simp [mark])]
    exact .nil

/-- What is closed in two parts is closed. -/
theorem append (first : IsClosed text) (second : IsClosed more) : IsClosed (text ++ more) := by
  rw [isClosed_iff, List.filterMap_append]
  exact (isClosed_iff.mp first).append (isClosed_iff.mp second)

/-- A parenthesis and its counterpart around what is closed are closed. -/
theorem parenthesized (closed : IsClosed inside) : IsClosed ('(' :: inside ++ [')']) := by
  have opening : Token.ofSymbol? '(' = some .openParen := Token.ofSymbol?_eq_some_iff.mpr rfl
  have closing : Token.ofSymbol? ')' = some .closeParen := Token.ofSymbol?_eq_some_iff.mpr rfl
  rw [isClosed_iff, List.filterMap_append, List.filterMap_cons_some opening,
    List.filterMap_cons_some closing]
  exact (isClosed_iff.mp closed).parenthesized

end IsClosed

/-- The surplus is counted character by character. -/
theorem surplus_cons (c : Char) (rest : List Char) :
    surplus (c :: rest) = surplus [c] + surplus rest := by
  rw [← List.singleton_append, surplus_append]

/-- Only a closing parenthesis takes something away. -/
theorem surplus_nonneg_of_ne {c : Char} (other : c ≠ ')') : 0 ≤ surplus [c] := by
  have none : [c].count ')' = 0 := List.count_eq_zero.mpr (by simpa using other.symm)
  rw [surplus, none]
  omega

/-- **Counterparts.** A parenthesis is closed when more has been closed behind it than opened. -/
theorem hasCounterpart_iff :
    HasCounterpart text ↔ ∃ before, before <+: text ∧ surplus before < 0 := by
  constructor
  · rintro ⟨inside, rest, rfl, closed⟩
    refine ⟨inside ++ [')'], ⟨rest, by simp⟩, ?_⟩
    rw [surplus_append, closed.balanced]
    decide
  · rintro ⟨before, starts, below⟩
    -- Of the beginnings that close too much, the shortest one ends with the counterpart.
    induction text using List.reverseRecOn generalizing before with
    | nil =>
      rw [List.prefix_nil.mp starts] at below
      cases below
    | append_singleton text c ih =>
      by_cases earlier : ∃ shorter, shorter <+: text ∧ surplus shorter < 0
      · obtain ⟨shorter, starts, below⟩ := earlier
        obtain ⟨inside, rest, rfl, closed⟩ := ih shorter starts below
        exact ⟨inside, rest ++ [c], by simp, closed⟩
      · have covered (shorter : List Char) (starts : shorter <+: text) : 0 ≤ surplus shorter :=
          Int.not_lt.mp fun below => earlier ⟨shorter, starts, below⟩
        obtain rfl : before = text ++ [c] :=
          (List.prefix_concat_iff.mp starts).resolve_right fun starts =>
            earlier ⟨before, starts, below⟩
        have level := covered text (List.prefix_refl text)
        rw [surplus_append] at below
        obtain rfl : c = ')' := by
          by_contra other
          have grown := surplus_nonneg_of_ne other
          omega
        have closing : surplus [')'] = -1 := rfl
        exact ⟨text, [], rfl, covered, by omega⟩

namespace IsClosed

/-- In what is closed, nothing closes a parenthesis in front of it. -/
theorem not_hasCounterpart (closed : IsClosed inside) : ¬ HasCounterpart inside := by
  rw [hasCounterpart_iff]
  rintro ⟨before, starts, below⟩
  have level := closed.covered before starts
  omega

/-- In what is closed, everything that is opened is closed further on. -/
theorem closesEach (closed : IsClosed text) : ClosesEach text := by
  rintro before after rfl
  have level := closed.covered before (List.prefix_append before _)
  have balanced := closed.balanced
  have opened : surplus ['('] = 1 := rfl
  rw [surplus_append, surplus_cons] at balanced
  exact hasCounterpart_iff.mpr ⟨after, List.prefix_refl after, by omega⟩

end IsClosed

/-- The characters leave some parentheses open, the last one first: each is given by the characters
in front of it, and is closed by nothing that follows it. -/
inductive LeavesOpen : List Char → List (List Char) → Prop where
  | nothing {text : List Char} (closed : IsClosed text) : LeavesOpen text []
  | opened {before inside : List Char} {others : List (List Char)}
    (earlier : LeavesOpen before others) (closed : IsClosed inside) :
    LeavesOpen (before ++ '(' :: inside) (before :: others)

namespace LeavesOpen

variable {passed before : List Char} {opened others : List (List Char)}

/-- What is closed leaves nothing more open. -/
theorem append (leaves : LeavesOpen passed opened) (closed : IsClosed more) :
    LeavesOpen (passed ++ more) opened := by
  cases leaves with
  | nothing earlier => exact .nothing (earlier.append closed)
  | opened earlier inside =>
    rw [List.append_assoc, List.cons_append]
    exact .opened earlier (inside.append closed)

/-- A parenthesis at the end is open, the last of all. -/
theorem openParen (leaves : LeavesOpen passed opened) :
    LeavesOpen (passed ++ ['(']) (passed :: opened) :=
  .opened leaves (.of_blanks (by simp))

/-- The last parenthesis that is open is closed first. -/
theorem closeParen (leaves : LeavesOpen passed (before :: others)) :
    LeavesOpen (passed ++ [')']) others := by
  cases leaves with
  | opened earlier closed =>
    rw [List.append_assoc]
    exact earlier.append closed.parenthesized

/-- If nothing is left open, all is closed. -/
theorem isClosed (leaves : LeavesOpen passed []) : IsClosed passed := by
  cases leaves with
  | nothing closed => exact closed

/-- The parenthesis that was opened last is the last that is open. -/
theorem isLastOpen (leaves : LeavesOpen passed (before :: others)) : IsLastOpen passed before := by
  cases leaves with
  | opened _ closed => exact ⟨_, rfl, closed.not_hasCounterpart, closed.closesEach⟩

end LeavesOpen

end Reckoner.Text
