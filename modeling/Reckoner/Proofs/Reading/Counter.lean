import Reckoner.Meaning
import Reckoner.Proofs.Reading.Depth
import Reckoner.Proofs.Reading.Descent
import Reckoner.Proofs.Scanning.Tiling

/-! # What the counter counts

Whenever a procedure is entered or comes back, the counter says how many parentheses are open before
the cursor. A call that comes back has passed tokens that close all they open, so it leaves the
counter as it was, and groups side by side never come near the limit together. What one procedure
keeps is said by `Course.Keeps`, and what holds of a whole run by `Run.Contract`.
-/

namespace Reckoner

/-- The tokens that a cursor passes on its way from one place to another. -/
def Lexemes.between (row : Lexemes) (first last : Nat) : List Token :=
  (row.tokens.take last).drop first

/-- A parenthesis that is opened at a location inside as many others as may be open. -/
def Lexemes.IsFullAt (row : Lexemes) (location : Location) : Prop :=
  ∃ (index : Nat) (lexeme : Lexeme), row.body[index]? = some lexeme ∧ lexeme.token = .openParen ∧
    lexeme.location = location ∧ surplus (row.tokens.take index) = nestingLimit

namespace Lexemes

variable {row : Lexemes}

/-- The way from one place to another may be broken at a third. -/
theorem between_append {first middle last : Nat} (forward : first ≤ middle)
    (further : middle ≤ last) (inside : last ≤ row.body.length) :
    row.between first middle ++ row.between middle last = row.between first last := by
  have long : first ≤ ((row.tokens.take last).take middle).length := by
    rw [List.length_take, List.length_take, length_tokens]
    omega
  have start : (row.tokens.take last).take middle = row.tokens.take middle := by
    rw [List.take_take, Nat.min_eq_left further]
  rw [between, between, between, ← start, ← List.drop_append_of_le_length long,
    List.take_append_drop]

/-- The surplus in front of the cursor grows by that of the tokens passed. -/
theorem surplus_take {first last : Nat} (forward : first ≤ last)
    (inside : last ≤ row.body.length) :
    surplus (row.tokens.take last) =
      surplus (row.tokens.take first) + surplus (row.between first last) := by
  have whole := between_append (Nat.zero_le first) forward inside
  simp only [between, List.drop_zero] at whole
  rw [← whole, surplus_append]
  rfl

end Lexemes

namespace Descent

variable {α : Type} {algebra : Algebra α} {row : Lexemes}

/-- A lexeme that is passed is the only one between the cursor before and the cursor after. -/
theorem between_look {here : Spot} (inside : here.cursor < row.body.length) :
    row.between here.cursor (here.cursor + 1) = [(look row here).token] := by
  have long : here.cursor < row.tokens.length := by rwa [Lexemes.length_tokens]
  rw [Lexemes.between, List.drop_take, Nat.add_sub_cancel_left, List.drop_eq_getElem_cons long,
    look_of_lt inside]
  simp [Lexemes.tokens, Lexeme.tokens]

/-- The counter tells the parentheses that are open before the cursor, and they are not too many. -/
structure IsCounted (row : Lexemes) (here : Spot) : Prop where
  inside : here.cursor ≤ row.body.length
  counted : (here.depth : Int) = surplus (row.tokens.take here.cursor)
  bounded : here.depth ≤ nestingLimit

/-- From one spot to the other the cursor moves on over tokens that close what they open, and the
counter is where it was. -/
structure Completes (row : Lexemes) (entry exit : Spot) : Prop where
  further : entry.cursor < exit.cursor
  inside : exit.cursor ≤ row.body.length
  level : exit.depth = entry.depth
  closed : IsClosed (row.between entry.cursor exit.cursor)

/-- Where a call comes back the counter is right if it was where the call was entered. -/
theorem IsCounted.of_completes {entry exit : Spot} (counted : IsCounted row entry)
    (completes : Completes row entry exit) : IsCounted row exit where
  inside := completes.inside
  counted := by
    rw [completes.level, counted.counted,
      Lexemes.surplus_take completes.further.le completes.inside, completes.closed.balanced,
      Int.add_zero]
  bounded := by
    rw [completes.level]
    exact counted.bounded

/-- The calls of a row between two places of the cursor: each is entered where the counter is right,
no sooner than what was before it, and comes back behind tokens that close what they open. After a
call that does not come back there is none. -/
inductive IsOrderly (row : Lexemes) : Nat → Calls → Nat → Prop where
  | none {first last : Nat} (forward : first ≤ last) : IsOrderly row first .none last
  | returned {phrase : Phrase} {entry exit : Spot} {inside later : Calls} {first last : Nat}
    (counted : IsCounted row entry) (forward : first ≤ entry.cursor)
    (completes : Completes row entry exit) (inner : IsOrderly row entry.cursor inside exit.cursor)
    (others : IsOrderly row exit.cursor later last) :
    IsOrderly row first (.call phrase entry inside (some exit) later) last
  | broken {phrase : Phrase} {entry : Spot} {inside : Calls} {first last : Nat}
    (counted : IsCounted row entry) (forward : first ≤ entry.cursor)
    (inner : IsOrderly row entry.cursor inside last) :
    IsOrderly row first (.call phrase entry inside .none .none) last

namespace IsOrderly

variable {first last : Nat} {calls : Calls}

/-- At every entry and exit the counter is right. -/
theorem isCounted (orderly : IsOrderly row first calls last) :
    ∀ spot ∈ calls.spots, IsCounted row spot := by
  induction orderly with
  | none => simp [Calls.spots]
  | returned counted _ completes _ _ inner_ih others_ih =>
    have back := counted.of_completes completes
    simpa [Calls.spots, or_imp, forall_and] using ⟨counted, inner_ih, back, others_ih⟩
  | broken counted _ _ inner_ih =>
    simpa [Calls.spots, or_imp, forall_and] using ⟨counted, inner_ih⟩

/-- Every call that comes back has passed what closes what it opens. -/
theorem completes (orderly : IsOrderly row first calls last) :
    ∀ call ∈ calls.all, ∀ exit, call.exit? = some exit → Completes row call.entry exit := by
  induction orderly with
  | none => simp [Calls.all]
  | returned _ _ completes _ _ inner_ih others_ih =>
    simpa [Calls.all, or_imp, forall_and] using ⟨completes, inner_ih, others_ih⟩
  | broken _ _ _ inner_ih =>
    simpa [Calls.all, or_imp, forall_and] using inner_ih

/-- The cursor goes back neither from one spot to the next nor at the two ends. -/
theorem isChain (orderly : IsOrderly row first calls last) :
    (first :: (calls.spots.map Spot.cursor ++ [last])).IsChain (· ≤ ·) := by
  induction orderly with
  | none forward => simpa [Calls.spots] using forward
  | @returned phrase entry exit inside later first last _ forward _ _ _ inner_ih others_ih =>
    have whole : (entry.cursor :: inside.spots.map Spot.cursor ++ [exit.cursor] ++
        (later.spots.map Spot.cursor ++ [last])).IsChain (· ≤ ·) :=
      List.IsChain.append_overlap (by simpa using inner_ih) (by simpa using others_ih) (by simp)
    simp only [List.cons_append, List.append_assoc, List.nil_append] at whole
    simpa [Calls.spots] using ⟨forward, whole⟩
  | broken _ forward _ inner_ih =>
    simpa [Calls.spots] using ⟨forward, inner_ih⟩

/-- In the order of time the cursor never goes back. -/
theorem pairwise (orderly : IsOrderly row first calls last) :
    (calls.spots.map Spot.cursor).Pairwise (· ≤ ·) := by
  have rising := List.isChain_iff_pairwise.mp orderly.isChain
  exact (List.pairwise_append.mp (List.pairwise_cons.mp rising).2).1

end IsOrderly

/-! ## One procedure -/

/-- How a procedure ends that was entered at `start` and has made its calls from the place `first`
on: with what was passed closed, or with a fault that fits the counter. Of the calls there are fewer
than three for each lexeme that is passed or left, by the number `spare` at least. -/
def Ending.Keeps (row : Lexemes) (start : Spot) (first : Nat) (calls : Calls) (spare : Nat)
    {origin : Nat} : Ending α origin → Prop
  | .returned _ after _ =>
    Completes row start after ∧ IsOrderly row first calls after.cursor ∧
      calls.all.length + spare + 3 * first ≤ 3 * after.cursor
  | .broken reason =>
    IsOrderly row first calls row.body.length ∧
      calls.all.length + spare + 3 * first ≤ 3 * row.size ∧
      ∀ limit location, reason = .fault (.nestingTooDeep limit location) →
        limit = nestingLimit ∧ row.IsFullAt location

/-- What a procedure keeps. At most so many calls for primaries are active inside as parentheses
may still be opened, and `extra` more. -/
structure Course.Keeps (row : Lexemes) (start here : Spot) (spare extra : Nat) {origin : Nat}
    (course : Course α origin) : Prop where
  ending : course.ending.Keeps row start here.cursor course.calls spare
  active : course.calls.active .primary + here.depth ≤ nestingLimit + extra

def Procedure.Keeps {bound : Nat} (spare extra : Nat) (procedure : Procedure row α bound) : Prop :=
  ∀ (here : Spot) near, IsCounted row here → (procedure here near).Keeps row here here spare extra

/-- A procedure that comes back has passed what closes what it opens. -/
theorem Course.Keeps.completes {start here : Spot} {spare extra origin : Nat}
    {course : Course α origin} (keeps : course.Keeps row start here spare extra) {value : α}
    {after : Spot} {further : origin < after.cursor}
    (returned : course.ending = .returned value after further) : Completes row start after := by
  have ending := keeps.ending
  rw [returned] at ending
  exact ending.1

/-- Passing a token that opens and closes nothing. -/
theorem completes_advance {here : Spot} (solid : (look row here).token ≠ .endOfInput)
    (level : IsClosed [(look row here).token]) : Completes row here (advance row here) := by
  have inside := cursor_lt_of_look solid
  rw [advance_eq solid]
  exact ⟨Nat.lt_succ_self _, inside, rfl, by rwa [between_look inside]⟩

/-- Two passages one after the other are a passage. -/
theorem Completes.trans {first second third : Spot} (before : Completes row first second)
    (after : Completes row second third) : Completes row first third where
  further := Nat.lt_trans before.further after.further
  inside := after.inside
  level := after.level.trans before.level
  closed := by
    rw [← Lexemes.between_append before.further.le after.further.le after.inside]
    exact before.closed.append after.closed

/-- A call that is entered at `entry` has its place in what a procedure does from `here` on: it
leaves what it needs of the calls that are spared and of those that may be active. -/
structure Admits (here : Spot) (spare extra : Nat) (kind : Phrase) (entry : Spot)
    (callSpare callExtra : Nat) : Prop where
  forward : here.cursor ≤ entry.cursor
  deeper : here.depth ≤ entry.depth
  spared : spare + 3 * here.cursor + 1 ≤ callSpare + 3 * entry.cursor
  active : (if kind = .primary then 1 else 0) + callExtra + here.depth ≤ extra + entry.depth

section Calls

variable {start here entry : Spot} {kind : Phrase} {spare extra callSpare callExtra origin : Nat}
  {course : Course α entry.cursor}

/-- A procedure that breaks off because a call of it does. -/
theorem Course.Keeps.broken (admits : Admits here spare extra kind entry callSpare callExtra)
    (entered : IsCounted row entry) (keeps : course.Keeps row entry entry callSpare callExtra)
    {reason : Break} (broken : course.ending = .broken reason) :
    (⟨.broken reason, .call kind entry course.calls none .none⟩ : Course α origin).Keeps row start
      here spare extra := by
  obtain ⟨ending, active⟩ := keeps
  rw [broken] at ending
  obtain ⟨orderly, few, fits⟩ := ending
  refine ⟨⟨.broken entered admits.forward orderly, ?_, fits⟩, ?_⟩
  · have spared := admits.spared
    simp only [Calls.all, List.length_cons, List.length_append, List.length_nil]
    omega
  · have more := admits.active
    simp only [Calls.active, Nat.max_zero]
    omega

/-- A procedure that goes on behind a call of it. -/
theorem Course.Keeps.returned (admits : Admits here spare extra kind entry callSpare callExtra)
    (entered : IsCounted row entry) (keeps : course.Keeps row entry entry callSpare callExtra)
    {value : α} {after : Spot} {later : entry.cursor < after.cursor}
    (returned : course.ending = .returned value after later) {others : Course α origin}
    (goesOn : others.Keeps row start after 0 extra) :
    (⟨others.ending, .call kind entry course.calls (some after) others.calls⟩ :
      Course α origin).Keeps row start here spare extra := by
  obtain ⟨ending, active⟩ := keeps
  rw [returned] at ending
  obtain ⟨completes, orderly, few⟩ := ending
  have spared := admits.spared
  constructor
  · cases last : others.ending with
    | returned value final further =>
      have ending := goesOn.ending
      rw [last] at ending
      obtain ⟨all, orderly', few'⟩ := ending
      refine ⟨all, .returned entered admits.forward completes orderly orderly', ?_⟩
      simp only [Calls.all, List.length_cons, List.length_append]
      omega
    | broken reason =>
      have ending := goesOn.ending
      rw [last] at ending
      obtain ⟨orderly', few', fits⟩ := ending
      refine ⟨.returned entered admits.forward completes orderly orderly', ?_, fits⟩
      simp only [Calls.all, List.length_cons, List.length_append]
      omega
  · have more := admits.active
    have deeper := admits.deeper
    have level := completes.level
    have active' := goesOn.active
    simp only [Calls.active]
    omega

end Calls

/-- An operator is passed before the operand on its right is read. -/
theorem admits_operand {here : Spot} {level : Precedence} {op : Operator} {kind : Phrase}
    {extra : Nat} (spare : Nat) (found : (look row here).token.operatorAt? level = some op)
    (weight : (if kind = .primary then 1 else 0) + extra = 1) :
    Completes row here (advance row here) ∧
      Admits here 0 1 kind (advance row here) spare extra := by
  have solid := look_ne_end found
  have joint := (Token.operatorAt?_eq_some_iff.mp found).1
  have moved := advance_eq solid
  refine ⟨completes_advance solid (by rw [joint]; exact .operator op), ?_, ?_, ?_, ?_⟩
  all_goals
    simp only [moved]
    omega

/-- A chain keeps what its operands keep, whatever it has read before. -/
theorem chainFrom_keeps {level : Precedence} {kind : Phrase} {spare extra bound origin : Nat}
    {operand : Procedure row α bound} (operands : operand.Keeps spare extra)
    (weight : (if kind = .primary then 1 else 0) + extra = 1) (left : α) {start here : Spot}
    {further : origin < here.cursor} {near : row.body.length - here.cursor < bound}
    (counted : IsCounted row here) (soFar : Completes row start here) :
    (chainFrom algebra row level kind operand left here further near).Keeps row start here 0 1 := by
  -- What has been passed since `start` is closed whenever the next operator is looked for.
  fun_induction chainFrom algebra row level kind operand left here further near with
  | case1 left here further near found =>
    have bounded := counted.bounded
    refine ⟨⟨soFar, .none (Nat.le_refl _), by simp [Calls.all]⟩, ?_⟩
    simp only [Calls.active]
    omega
  | case2 left here further near op found solid passed inside course reason broken =>
    obtain ⟨passes, admits⟩ := admits_operand spare found weight
    have entered := counted.of_completes passes
    exact .broken admits entered (operands _ _ entered) broken
  | case3 left here further near op found solid passed inside course right after later returned
      others ih =>
    obtain ⟨passes, admits⟩ := admits_operand spare found weight
    have entered := counted.of_completes passes
    have keeps : course.Keeps row (advance row here) (advance row here) spare extra :=
      operands _ _ entered
    have completes := keeps.completes returned
    exact .returned admits entered keeps returned
      (ih (entered.of_completes completes) (soFar.trans (passes.trans completes)))

/-- The operands of a product are the active calls that are counted; those of a sum have them
inside. -/
theorem chain_keeps {level : Precedence} {kind : Phrase} {spare extra bound : Nat}
    {operand : Procedure row α bound} (operands : operand.Keeps (spare + 1) extra)
    (weight : (if kind = .primary then 1 else 0) + extra = 1) :
    Procedure.Keeps spare 1 (chain algebra row level kind operand) := by
  intro here near counted
  have keeps := operands here near counted
  have admits : Admits here spare 1 kind here (spare + 1) extra :=
    ⟨Nat.le_refl _, Nat.le_refl _, by omega, by omega⟩
  unfold chain
  cases ending : (operand here near).ending with
  | broken reason =>
    simp only [ending]
    exact .broken admits counted keeps ending
  | returned left after later =>
    have completes := keeps.completes ending
    simp only [ending]
    exact .returned admits counted keeps ending
      (chainFrom_keeps operands weight left (counted.of_completes completes) completes)

/-- Behind a parenthesis that is opened the counter is right when it is raised. -/
theorem IsCounted.opened {here : Spot} (counted : IsCounted row here)
    (found : (look row here).token = .openParen) (space : here.depth ≠ nestingLimit) :
    IsCounted row ⟨(advance row here).cursor, here.depth + 1⟩ := by
  have filled : (look row here).token ≠ .endOfInput := by simp [found]
  have inside := cursor_lt_of_look filled
  have bounded := counted.bounded
  refine ⟨by rw [advance_eq filled]; exact inside, ?_, by simp only; omega⟩
  have parenthesis : surplus [Token.openParen] = 1 := rfl
  rw [advance_eq filled, Lexemes.surplus_take (Nat.le_succ here.cursor) inside,
    between_look inside, found, parenthesis, ← counted.counted]
  rfl

/-- A parenthesis and its counterpart around what is closed. -/
theorem Completes.parenthesized {here : Spot} {cursor : Nat}
    (found : (look row here).token = .openParen)
    (inner : Completes row ⟨(advance row here).cursor, here.depth + 1⟩ ⟨cursor, here.depth + 1⟩)
    (counterpart : (look row ⟨cursor, here.depth⟩).token = .closeParen) :
    Completes row here ⟨cursor + 1, here.depth⟩ := by
  have filled : (look row here).token ≠ .endOfInput := by simp [found]
  have inside := cursor_lt_of_look filled
  have closing : (look row ⟨cursor, here.depth⟩).token ≠ .endOfInput := by simp [counterpart]
  have last : cursor < row.body.length := cursor_lt_of_look closing
  obtain ⟨further, -, -, closed⟩ := inner
  rw [advance_eq filled] at further closed
  simp only at further closed
  refine ⟨by simp only; omega, last, rfl, ?_⟩
  have front : row.between here.cursor (here.cursor + 1) = [.openParen] := by
    rw [between_look inside, found]
  have back : row.between cursor (cursor + 1) = [.closeParen] := by
    rw [← counterpart]
    exact between_look (cursor_lt_of_look closing)
  have whole : row.between here.cursor (cursor + 1) =
      .openParen :: row.between (here.cursor + 1) cursor ++ [.closeParen] := by
    rw [← Lexemes.between_append (Nat.le_succ here.cursor) (by omega) last,
      ← Lexemes.between_append further.le (Nat.le_succ cursor) last, front, back]
    rfl
  rw [whole]
  exact closed.parenthesized

/-- A procedure that breaks off before it has called any other. -/
theorem Course.Keeps.at_once {start here : Spot} {spare extra origin : Nat} {reason : Break}
    (counted : IsCounted row here) (few : spare ≤ 3)
    (fits : ∀ limit location, reason = .fault (.nestingTooDeep limit location) →
        limit = nestingLimit ∧ row.IsFullAt location) :
    (⟨.broken reason, .none⟩ : Course α origin).Keeps row start here spare extra := by
  have inside := counted.inside
  have bounded := counted.bounded
  refine ⟨⟨.none inside, ?_, fits⟩, ?_⟩
  · simp only [Calls.all, List.length_nil, Lexemes.size]
    omega
  · simp only [Calls.active]
    omega

/-- Closing a parenthesis completes what was opened with it. -/
theorem close_keeps {here after : Spot} {origin : Nat} (value : α) (opened : Location)
    (further : origin < after.cursor) (found : (look row here).token = .openParen)
    (counted : IsCounted row after)
    (inner : Completes row ⟨(advance row here).cursor, here.depth + 1⟩ after) :
    (⟨close row opened value after further, .none⟩ : Course α origin).Keeps row here after 0 0 := by
  have bounded := counted.bounded
  have level := inner.level
  obtain ⟨cursor, depth⟩ := after
  simp only at level further bounded
  subst level
  simp only [close]
  split
  case h_1 counterpart =>
    have filled : (look row ⟨cursor, here.depth⟩).token ≠ .endOfInput := by simp [counterpart]
    have closes : Completes row here (advance row ⟨cursor, here.depth⟩) := by
      rw [advance_eq filled]
      exact inner.parenthesized found counterpart
    have onward : cursor ≤ (advance row ⟨cursor, here.depth⟩).cursor :=
      le_cursor_advance row ⟨cursor, here.depth⟩
    refine ⟨⟨closes, .none onward, ?_⟩, ?_⟩
    · simp only [Calls.all, List.length_nil]
      omega
    · simp only [Calls.active]
      omega
  case h_2 =>
    exact .at_once counted (Nat.zero_le _) (by simp)

/-- A parenthesis keeps what its inside keeps, with one more call active. -/
theorem group_keeps {bound : Nat} {inner : Procedure row α bound} (inners : inner.Keeps 1 1)
    {here : Spot} (found : (look row here).token = .openParen)
    (near : row.body.length - here.cursor < bound + 1) (counted : IsCounted row here) :
    (group inner here found near).Keeps row here here 3 0 := by
  have filled : (look row here).token ≠ .endOfInput := by simp [found]
  have inside := cursor_lt_of_look filled
  have moved : (advance row here).cursor = here.cursor + 1 := by rw [advance_eq filled]
  unfold group
  by_cases full : here.depth = nestingLimit
  · simp only [full, ↓reduceIte]
    refine .at_once counted (Nat.le_refl _) ?_
    rintro limit location ⟨⟩
    refine ⟨rfl, here.cursor, look row here, ?_, found, rfl, ?_⟩
    · rw [look_of_lt inside, List.getElem?_eq_getElem inside]
    · rw [← counted.counted, full]
  · simp only [full, ↓reduceIte]
    have entered := counted.opened found full
    have keeps := inners ⟨(advance row here).cursor, here.depth + 1⟩ (by simp only; omega) entered
    have admits : Admits here 3 0 .sum ⟨(advance row here).cursor, here.depth + 1⟩ 1 1 :=
      ⟨by simp only; omega, Nat.le_succ _, by simp only; omega, by simp; omega⟩
    cases ending : (inner ⟨(advance row here).cursor, here.depth + 1⟩
      (by simp only; omega)).ending with
    | broken reason => exact .broken admits entered keeps ending
    | returned value after later =>
      have completes := keeps.completes ending
      have further : here.cursor < after.cursor := by
        simp only at later
        omega
      exact .returned admits entered keeps ending
        (close_keeps value _ further found (entered.of_completes completes) completes)

/-- So does a procedure that reads a number or a parenthesis. -/
theorem operand_keeps {bound : Nat} {inner : Procedure row α bound} (inners : inner.Keeps 1 1) :
    Procedure.Keeps 3 0 (operand algebra row inner) := by
  intro here near counted
  have bounded := counted.bounded
  unfold operand
  split
  case h_1 n found =>
    have filled : (look row here).token ≠ .endOfInput := by simp [found]
    have passes := completes_advance filled (by rw [found]; exact .number n)
    refine ⟨⟨passes, .none passes.further.le, ?_⟩, ?_⟩
    · simp only [Calls.all, List.length_nil, advance_eq filled]
      omega
    · simp only [Calls.active]
      omega
  case h_2 found => exact group_keeps inners found near counted
  all_goals exact .at_once counted (Nat.le_refl _) (by simp)

/-- Sums keep the counter. -/
theorem sum_keeps (bound : Nat) : Procedure.Keeps 1 1 (sum algebra row bound) := by
  induction bound with
  | zero => exact fun here near => absurd near (Nat.not_lt_zero _)
  | succ bound ih =>
    -- A primary spares three calls, a product two and a sum one: each is a call of the next.
    exact chain_keeps (chain_keeps (operand_keeps ih) (by simp)) (by simp)

/-! ## A whole run -/

/-- In front of a row nothing is open. -/
theorem isCounted_beginning : IsCounted row beginning :=
  ⟨Nat.zero_le _, rfl, Nat.zero_le _⟩

/-- What holds of a run on a row, however it ends. A spot is where a call for a sum, a product or a
primary is entered or comes back. -/
structure Run.Contract (row : Lexemes) (run : Run α) : Prop where
  /-- If the parentheses match, there is one call for the whole row. -/
  entered : row.count (· == .openParen) = row.count (· == .closeParen) →
    ∃ inside exit?, run.calls = .call .sum beginning inside exit? .none
  /-- The counter is never wrong and never above the limit, and the cursor is in the row. -/
  counted : ∀ spot ∈ run.calls.spots, IsCounted row spot
  /-- The cursor never goes back. -/
  rising : (run.calls.spots.map Spot.cursor).Pairwise (· ≤ ·)
  /-- A call that comes back has passed tokens that close what they open. -/
  completes : ∀ call ∈ run.calls.all, ∀ exit, call.exit? = some exit →
    Completes row call.entry exit
  /-- There are not more calls than the lexemes allow, -/
  finite : run.calls.all.length ≤ 3 * row.size
  /-- and only so many of them are active at the same time. -/
  active : run.calls.active .primary ≤ nestingLimit + 1
  /-- Too many parentheses are those around one parenthesis, not those beside it. -/
  apart : ∀ limit location, run.result = .error (.fault (.nestingTooDeep limit location)) →
    limit = nestingLimit ∧ row.IsFullAt location

/-- What the calls of a run keep is what holds of the run. -/
theorem Run.Contract.of_orderly {run : Run α} {last : Nat}
    (entered : row.count (· == .openParen) = row.count (· == .closeParen) →
      ∃ inside exit?, run.calls = .call .sum beginning inside exit? .none)
    (orderly : IsOrderly row beginning.cursor run.calls last)
    (finite : run.calls.all.length ≤ 3 * row.size)
    (active : run.calls.active .primary ≤ nestingLimit + 1)
    (apart : ∀ limit location, run.result = .error (.fault (.nestingTooDeep limit location)) →
      limit = nestingLimit ∧ row.IsFullAt location) : run.Contract row where
  entered := entered
  counted := orderly.isCounted
  rising := orderly.pairwise
  completes := orderly.completes
  finite := finite
  active := active
  apart := apart

/-- Every run keeps the counter. -/
theorem contract_run (algebra : Algebra α) (row : Lexemes) : (run algebra row).Contract row := by
  simp only [run]
  split
  case isTrue unmatched =>
    exact .of_orderly (fun matched => absurd matched unmatched) (.none (Nat.le_refl _))
      (Nat.zero_le _) (Nat.zero_le _) (by simp)
  case isFalse =>
    have near : row.body.length - beginning.cursor < row.size := by
      simp [Lexemes.size, beginning]
    obtain ⟨last, active⟩ : (sum algebra row row.size beginning near).Keeps row beginning
        beginning 1 1 := sum_keeps row.size beginning near isCounted_beginning
    cases ending : (sum algebra row row.size beginning near).ending with
    | broken reason =>
      rw [ending] at last
      obtain ⟨orderly, few, fits⟩ := last
      have whole : IsOrderly row beginning.cursor (.call .sum beginning _ none .none) _ :=
        .broken isCounted_beginning (Nat.le_refl _) orderly
      refine .of_orderly (fun _ => ⟨_, _, rfl⟩) whole ?_ ?_ ?_
      · simp only [Calls.all, List.length_cons, List.length_append, List.length_nil]
        omega
      · simpa [Calls.active, beginning] using active
      · intro limit location broken
        simp only [Except.error.injEq] at broken
        exact fits limit location broken
    | returned value here further =>
      rw [ending] at last
      obtain ⟨completes, orderly, few⟩ := last
      have inside := completes.inside
      have size : row.size = row.body.length + 1 := rfl
      have whole : IsOrderly row beginning.cursor (.call .sum beginning _ (some here) .none) _ :=
        .returned isCounted_beginning (Nat.le_refl _) completes orderly (.none (Nat.le_refl _))
      refine .of_orderly (fun _ => ⟨_, _, rfl⟩) whole ?_ ?_ ?_
      · simp only [Calls.all, List.length_cons, List.length_append, List.length_nil]
        omega
      · simpa [Calls.active, beginning] using active
      · intro limit location broken
        simp only at broken
        split at broken <;> simp at broken

/-- **The contract of the counter.** On a text that can be cut into lexemes the reading with a
cursor and a counter ends as the reading of the text does, and so never by lowering the counter
below zero. At every entry of a call and wherever one comes back, the counter is the surplus of the
parentheses before the cursor and within the limit. The cursor never goes back. What a call passes
on its way is not empty and closes what it opens, and the counter is then where it was. So the run
makes no more calls than the lexemes allow, the active calls for primaries are at most one more than
the parentheses that may be open, and parentheses side by side do not add up. -/
theorem contract_of_scan {text : String} {row : Lexemes} (scanned : Lexemes.scan text = .ok row)
    (algebra : Algebra α) :
    (run algebra row).result = (readText algebra text).result.mapError Break.fault ∧
      (run algebra row).result ≠ .error .underflow ∧ (run algebra row).Contract row := by
  have same : (run algebra row).result = (readText algebra text).result.mapError Break.fault := by
    rw [readText_of_scan algebra scanned]
    exact result_run (Lexemes.isSolid_of_scan scanned)
  refine ⟨same, ?_, contract_run algebra row⟩
  rw [same]
  cases (readText algebra text).result <;> simp [Except.mapError]

/-- The second of two parentheses lacks an operand. The first does not count for it. -/
theorem contract_of_scan_of_missing_operand :
    ∃ row, Lexemes.scan "(1+2)x(3-)" = .ok row ∧
      (run .tree row).result = .error (.fault (.operandExpected .closeParen ⟨9, 1, 10⟩)) ∧
      (run .tree row).calls.active .primary = 2 ∧
      (run .tree row).result = (readText .tree "(1+2)x(3-)").result.mapError Break.fault ∧
      (run .tree row).Contract row := by
  have scanned : Lexemes.scan "(1+2)x(3-)" =
      .ok ⟨[⟨.openParen, ⟨0, 1, 1⟩, "("⟩, ⟨.number 1, ⟨1, 1, 2⟩, "1"⟩,
        ⟨.operator .add, ⟨2, 1, 3⟩, "+"⟩, ⟨.number 2, ⟨3, 1, 4⟩, "2"⟩,
        ⟨.closeParen, ⟨4, 1, 5⟩, ")"⟩, ⟨.operator .mul, ⟨5, 1, 6⟩, "x"⟩,
        ⟨.openParen, ⟨6, 1, 7⟩, "("⟩, ⟨.number 3, ⟨7, 1, 8⟩, "3"⟩,
        ⟨.operator .sub, ⟨8, 1, 9⟩, "-"⟩, ⟨.closeParen, ⟨9, 1, 10⟩, ")"⟩], ⟨10, 1, 11⟩⟩ := by
    decide +kernel
  obtain ⟨same, -, contract⟩ := contract_of_scan scanned .tree
  exact ⟨_, scanned, by decide +kernel, by decide +kernel, same, contract⟩

end Descent

end Reckoner
