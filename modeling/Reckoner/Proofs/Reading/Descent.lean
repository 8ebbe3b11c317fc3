import Reckoner.Grammar.Descent
import Reckoner.Proofs.Scanning.Tiling

/-! # The cursor, the counter and the reader

On a row where only the last lexeme is the end of the input, the procedures that share a cursor and
a counter read what the rules read and find the faults that these find (`Descent.result_run`). What
the cursor has not passed is the row that is left to a rule, and the counter and the room that is
left to a rule add up to the limit. The calls that the procedures hand out are all that they make
(`Descent.calls_on_record`).
-/

namespace Reckoner

/-- The calls that a procedure makes itself, each with the calls that are made inside it. -/
def Calls.direct : Calls → List (Call × Calls)
  | .none => []
  | .call phrase entry inside exit? later => (⟨phrase, entry, exit?⟩, inside) :: later.direct

namespace Descent

variable {α : Type} {algebra : Algebra α} {row : Lexemes}

/-- In the body of a row the cursor stands at a lexeme of it. -/
theorem look_of_lt {here : Spot} (inside : here.cursor < row.body.length) :
    look row here = row.body[here.cursor] := by
  simp [look, Lexemes.toList, List.getElem?_append_left inside, inside]

/-- Behind the body it stands at the end of the input. -/
theorem look_of_ge {here : Spot} (beyond : row.body.length ≤ here.cursor) :
    look row here = .atEnd row.finish := by
  unfold look Lexemes.toList
  rw [List.getD_eq_getElem?_getD, List.getElem?_append_right beyond]
  cases here.cursor - row.body.length <;> rfl

/-- In the body it does not stand at the end of the input. -/
theorem look_ne_of_lt {here : Spot} (solid : row.IsSolid)
    (inside : here.cursor < row.body.length) : (look row here).token ≠ .endOfInput := by
  rw [look_of_lt inside]
  exact solid _ (List.getElem_mem inside)

/-- The lexeme at the cursor is the first of those that are left, and advancing passes it. -/
theorem drop_cursor {here : Spot} (solid : (look row here).token ≠ .endOfInput) :
    row.body.drop here.cursor = look row here :: row.body.drop (advance row here).cursor := by
  have inside := cursor_lt_of_look solid
  rw [advance_eq solid, look_of_lt inside, List.drop_eq_getElem_cons inside]

/-- Advancing leaves the counter as it is. -/
@[simp]
theorem depth_advance (row : Lexemes) (here : Spot) : (advance row here).depth = here.depth := by
  unfold advance
  split <;> rfl

/-- A procedure ends as a rule does: with the same value and the counter where it was, or with the
same fault. -/
def Ending.Agrees (row : Lexemes) (depth : Nat) {origin length : Nat} :
    Ending α origin → Reading α length → Prop
  | .returned value here _, .read value' rest _ _ =>
    value = value' ∧ here.cursor ≤ row.body.length ∧ here.depth = depth ∧
      rest = row.body.drop here.cursor
  | .broken reason, .failed fault _ => reason = .fault fault
  | _, _ => False

/-- A procedure that comes back agrees with a rule that has read as much. -/
theorem Ending.Agrees.of_returned {depth origin length : Nat} {value : α} {here : Spot}
    {further : origin < here.cursor} {reading : Reading α length}
    (agrees : (Ending.returned value here further).Agrees row depth reading) :
    here.cursor ≤ row.body.length ∧ here.depth = depth ∧
      ∃ shorter made, reading = .read value (row.body.drop here.cursor) shorter made := by
  cases reading with
  | read value' rest shorter made =>
    obtain ⟨rfl, inside, level, rfl⟩ := agrees
    exact ⟨inside, level, shorter, made, rfl⟩
  | failed fault made => exact agrees.elim

/-- A procedure that breaks off agrees with a rule that fails for the same reason. -/
theorem Ending.Agrees.of_broken {depth origin length : Nat} {reason : Break}
    {reading : Reading α length}
    (agrees : (Ending.broken reason : Ending α origin).Agrees row depth reading) :
    ∃ fault made, reading = .failed fault made ∧ reason = .fault fault := by
  cases reading with
  | read value rest shorter made => exact agrees.elim
  | failed fault made => exact ⟨fault, made, rfl, agrees⟩

/-- The rule may be applied to the row that is left in another form. -/
theorem Ending.Agrees.of_rest {depth origin : Nat} {ending : Ending α origin} {rule : Rule α}
    {made : List (Step α)} {left rest : List Lexeme} (same : left = rest)
    (agrees : ending.Agrees row depth (rule made rest)) :
    ending.Agrees row depth (rule made left) := by
  subst same
  exact agrees

/-- A procedure agrees with a rule wherever the counter and the room add up. -/
def Procedure.Agrees {bound : Nat} (room : Nat) (procedure : Procedure row α bound)
    (rule : Rule α) : Prop :=
  ∀ (here : Spot) near made, here.cursor ≤ row.body.length → here.depth + room = nestingLimit →
    (procedure here near).ending.Agrees row here.depth (rule made (row.body.drop here.cursor))

/-- A chain agrees with a chain if the operands do. -/
theorem chainFrom_agrees {level : Precedence} {kind : Phrase} {room bound origin : Nat}
    {operand : Procedure row α bound} {rule : Rule α} (operands : operand.Agrees room rule)
    (left : α) {here : Spot} {further : origin < here.cursor}
    {near : row.body.length - here.cursor < bound} (inside : here.cursor ≤ row.body.length)
    (full : here.depth + room = nestingLimit) {length : Nat}
    {shorter : (row.body.drop here.cursor).length < length} (made : List (Step α)) :
    (chainFrom algebra row level kind operand left here further near).ending.Agrees row here.depth
      (Rule.chainFrom algebra level rule left made (row.body.drop here.cursor) shorter) := by
  fun_induction chainFrom algebra row level kind operand left here further near generalizing
    made with
  | case1 left here further near found =>
    rcases Nat.lt_or_ge here.cursor row.body.length with more | final
    · have rest := List.drop_eq_getElem_cons more
      rw [← look_of_lt more] at rest
      simp only [rest]
      rw [Rule.chainFrom]
      simp [found, Ending.Agrees, inside, rest]
    · have rest := List.drop_eq_nil_of_le final
      simp only [rest]
      rw [Rule.chainFrom]
      simp [Ending.Agrees, inside, rest]
  | case2 left here further near op found solid passed more course reason broken =>
    have inner := operands (advance row here) (by omega) made (by omega) (by simpa using full)
    obtain ⟨fault, made', reading, rfl⟩ := (broken ▸ inner).of_broken
    simp only [drop_cursor solid]
    rw [Rule.chainFrom]
    simp only [found, reading]
    rfl
  | case3 left here further near op found solid passed more course right after later returned
      others ih =>
    have inner := operands (advance row here) (by omega) made (by omega) (by simpa using full)
    obtain ⟨within, same, shorter', made', reading⟩ := (returned ▸ inner).of_returned
    rw [depth_advance] at same
    simp only [drop_cursor solid]
    rw [Rule.chainFrom]
    simp only [found, reading]
    rw [← same]
    exact ih within (by omega) _

/-- A chain with its first operand does so too. -/
theorem chain_agrees {level : Precedence} {kind : Phrase} {room bound : Nat}
    {operand : Procedure row α bound} {rule : Rule α} (operands : operand.Agrees room rule) :
    Procedure.Agrees room (chain algebra row level kind operand)
      (Rule.chain algebra level rule) := by
  intro here near made inside full
  have first := operands here near made inside full
  unfold chain Rule.chain
  cases ending : (operand here near).ending with
  | broken reason =>
    obtain ⟨fault, made', reading, rfl⟩ := (ending ▸ first).of_broken
    simp only [ending, reading, Ending.Agrees]
  | returned left after later =>
    obtain ⟨within, same, shorter, made', reading⟩ := (ending ▸ first).of_returned
    simp only [ending, reading, ← same]
    exact chainFrom_agrees operands left within (by omega) made'

/-- Both end a parenthesis alike, whatever comes next. -/
theorem close_agrees (solid : row.IsSolid) {depth origin length : Nat} {opened : Location}
    {value : α} {here : Spot} {further : origin < here.cursor}
    (inside : here.cursor ≤ row.body.length) (raised : here.depth = depth + 1)
    {shorter : (row.body.drop here.cursor).length < length} (made : List (Step α)) :
    (close row opened value here further).Agrees row depth
      (Rule.close row.finish opened value made (row.body.drop here.cursor) shorter) := by
  obtain ⟨cursor, counted⟩ := here
  subst raised
  simp only [close]
  rcases Nat.lt_or_ge cursor row.body.length with more | final
  · have filled : (look row ⟨cursor, depth⟩).token ≠ .endOfInput := look_ne_of_lt solid more
    have rest := drop_cursor filled
    have moved := advance_eq filled
    simp only at rest
    simp only [rest]
    cases found : (look row ⟨cursor, depth⟩).token with
    | closeParen => simp [Rule.close, found, Ending.Agrees, moved]; omega
    | _ => simp [Rule.close, found, Ending.Agrees]
  · have ended : look row ⟨cursor, depth⟩ = .atEnd row.finish := look_of_ge final
    have rest := List.drop_eq_nil_of_le final
    simp only [rest]
    simp [Rule.close, ended, Lexeme.atEnd, Ending.Agrees]

/-- A parenthesis is refused by both, or its inside is read by both. -/
theorem group_agrees (solid : row.IsSolid) {room bound : Nat} {inner : Procedure row α bound}
    (inners : ∀ smaller, room = smaller + 1 →
      inner.Agrees smaller (Rule.sum algebra row.finish smaller))
    {here : Spot} (found : (look row here).token = .openParen)
    (near : row.body.length - here.cursor < bound + 1) (made : List (Step α))
    (full : here.depth + room = nestingLimit) :
    (group inner here found near).ending.Agrees row here.depth
      (Rule.primary algebra row.finish room made (row.body.drop here.cursor)) := by
  have filled : (look row here).token ≠ .endOfInput := by simp [found]
  have more := cursor_lt_of_look filled
  have moved := advance_eq filled
  apply Ending.Agrees.of_rest (drop_cursor filled)
  simp only [Rule.primary, Rule.operand, found]
  unfold group
  cases room with
  | zero =>
    have limit : here.depth = nestingLimit := by omega
    simp only [Rule.inside, limit, ↓reduceIte, Ending.Agrees]
  | succ room =>
    have below : here.depth ≠ nestingLimit := by omega
    have deeper := inners room rfl ⟨(advance row here).cursor, here.depth + 1⟩
      (by simp only [moved]; omega) made (by simp only [moved]; omega) (by simp only; omega)
    simp only [Rule.inside, below, ↓reduceIte]
    cases ending : (inner ⟨(advance row here).cursor, here.depth + 1⟩
      (by simp only [moved]; omega)).ending with
    | broken reason =>
      obtain ⟨fault, made', reading, rfl⟩ := (ending ▸ deeper).of_broken
      simp only [reading, Ending.Agrees]
    | returned value after later =>
      obtain ⟨within, raised, shorter, made', reading⟩ := (ending ▸ deeper).of_returned
      simp only [reading]
      exact close_agrees solid within raised made'

/-- What begins no operand, the end of the row included. -/
theorem primary_of_other {here : Spot} {room : Nat} (made : List (Step α))
    (noNumber : ∀ n, (look row here).token ≠ .number n)
    (noParenthesis : (look row here).token ≠ .openParen) :
    Rule.primary algebra row.finish room made (row.body.drop here.cursor) =
      .failed (.operandExpected (look row here).token (look row here).location) made := by
  rcases Nat.lt_or_ge here.cursor row.body.length with more | final
  · have rest := List.drop_eq_getElem_cons more
    rw [← look_of_lt more] at rest
    rw [rest]
    cases found : (look row here).token with
    | number n => exact absurd found (noNumber n)
    | openParen => exact absurd found noParenthesis
    | _ => simp [Rule.primary, Rule.operand, found]
  · rw [List.drop_eq_nil_of_le final, look_of_ge final]
    rfl

/-- A number or a parenthesis is read alike. -/
theorem operand_agrees (solid : row.IsSolid) {room bound : Nat} {inner : Procedure row α bound}
    (inners : ∀ smaller, room = smaller + 1 →
      inner.Agrees smaller (Rule.sum algebra row.finish smaller)) :
    Procedure.Agrees room (operand algebra row inner) (Rule.primary algebra row.finish room) := by
  intro here near made inside full
  unfold operand
  split
  case h_1 n found =>
    have filled : (look row here).token ≠ .endOfInput := by simp [found]
    have more := cursor_lt_of_look filled
    apply Ending.Agrees.of_rest (drop_cursor filled)
    simp only [Rule.primary, Rule.operand, found, Ending.Agrees, advance_eq filled, true_and,
      and_true]
    exact more
  case h_2 found => exact group_agrees solid inners found near made full
  all_goals
    rename_i found
    rw [primary_of_other made (by simp [found]) (by simp [found])]
    rfl

/-- Sums agree, however many parentheses may still be opened. -/
theorem sum_agrees (solid : row.IsSolid) (bound : Nat) : ∀ room,
    Procedure.Agrees room (sum algebra row bound) (Rule.sum algebra row.finish room) := by
  induction bound with
  | zero => exact fun room here near => absurd near (Nat.not_lt_zero _)
  | succ bound ih =>
    intro room
    rw [Rule.sum_eq_chain]
    exact chain_agrees (chain_agrees (operand_agrees solid fun smaller _ => ih smaller))

/-- **The same reading.** On a row that only its last lexeme ends, the counter never has to fall
below zero, and the outcome is that of the rules. -/
theorem result_run (solid : row.IsSolid) :
    (run algebra row).result = (row.read algebra).result.mapError Break.fault := by
  unfold run Lexemes.read
  by_cases counts : row.count (· == .openParen) ≠ row.count (· == .closeParen)
  · simp [counts, Except.mapError]
  · simp only [counts, ↓reduceIte]
    have agrees : Procedure.Agrees nestingLimit (sum algebra row row.size)
        (Rule.sum algebra row.finish nestingLimit) := sum_agrees solid row.size nestingLimit
    have root := agrees beginning (by simp [Lexemes.size, beginning]) [] (Nat.zero_le _)
      (Nat.zero_add _)
    rw [show row.body.drop beginning.cursor = row.body from rfl] at root
    cases ending : (sum algebra row row.size beginning
      (by simp [Lexemes.size, beginning])).ending with
    | broken reason =>
      obtain ⟨fault, made, reading, rfl⟩ := (ending ▸ root).of_broken
      simp only [reading, Except.mapError]
    | returned value here further =>
      obtain ⟨within, -, shorter, made, reading⟩ := (ending ▸ root).of_returned
      generalize left_over : row.body.drop here.cursor = rest at shorter reading
      rcases Nat.lt_or_ge here.cursor row.body.length with more | final
      · have filled := look_ne_of_lt solid more
        rw [drop_cursor filled] at left_over
        subst left_over
        simp [reading, Except.mapError, filled]
      · rw [List.drop_eq_nil_of_le final] at left_over
        subst left_over
        simp [reading, Except.mapError, look_of_ge final, Lexeme.atEnd]

/-! ## Calls on record -/

/-- Where a procedure comes back, if it does. -/
def Ending.exit? {origin : Nat} : Ending α origin → Option Spot
  | .returned _ here _ => some here
  | .broken _ => none

/-- The record that a caller leaves of its calls of one procedure is right and complete. A call on
record ended as the procedure ends where it was entered. And no call is missing: whatever another
procedure does elsewhere, the course is the same if it does the same where the calls on record were
entered. -/
structure Records {bound origin : Nat} (kind : Phrase) (callee : Procedure row α bound)
    (caller : Procedure row α bound → Course α origin) : Prop where
  right : ∀ call inside, (call, inside) ∈ (caller callee).calls.direct →
    call.phrase = kind ∧ ∃ near, call.exit? = (callee call.entry near).ending.exit? ∧
      inside = (callee call.entry near).calls
  complete : ∀ other : Procedure row α bound,
    (∀ call inside, (call, inside) ∈ (caller callee).calls.direct →
      ∀ near, other call.entry near = callee call.entry near) → caller other = caller callee

/-- A call, and what is done when it comes back. -/
def calling {origin : Nat} (kind : Phrase) (entry : Spot) (course : Course α entry.cursor)
    (next : α → (after : Spot) → entry.cursor < after.cursor → Course α origin) :
    Course α origin :=
  match course.ending with
  | .broken reason => ⟨.broken reason, .call kind entry course.calls none .none⟩
  | .returned value after later =>
    ⟨(next value after later).ending,
      .call kind entry course.calls (some after) (next value after later).calls⟩

namespace Records

variable {bound origin : Nat} {kind : Phrase} {callee : Procedure row α bound}

/-- A caller that makes no call. -/
theorem of_none {caller : Procedure row α bound → Course α origin} {ending : Ending α origin}
    (idle : ∀ callee, caller callee = ⟨ending, .none⟩) : Records kind callee caller where
  right := by
    intro call inside recorded
    rw [idle] at recorded
    cases recorded
  complete := by
    intro other _
    rw [idle, idle]

/-- A caller that makes a call first, and then goes on with the value of this call. -/
theorem calling {entry : Spot} {near : row.body.length - entry.cursor < bound}
    {next : Procedure row α bound → α → (after : Spot) → entry.cursor < after.cursor →
      Course α origin}
    (later : ∀ value after forward,
      (callee entry near).ending = .returned value after forward →
        Records kind callee fun callee => next callee value after forward) :
    Records kind callee fun callee =>
      Descent.calling kind entry (callee entry near) (next callee) := by
  cases ending : (callee entry near).ending with
  | broken reason =>
    have stops : Descent.calling kind entry (callee entry near) (next callee) =
        ⟨.broken reason, .call kind entry (callee entry near).calls none .none⟩ := by
      simp only [Descent.calling, ending]
    constructor
    · intro call inside recorded
      rw [stops] at recorded
      simp only [Calls.direct, List.mem_singleton, Prod.mk.injEq] at recorded
      obtain ⟨rfl, rfl⟩ := recorded
      exact ⟨rfl, near, by simp [ending, Ending.exit?], rfl⟩
    · intro other agrees
      have same := agrees _ _ (by rw [stops]; exact List.mem_singleton.mpr rfl) near
      simp only [Descent.calling, same, ending]
  | returned value after forward =>
    have rest := later value after forward ending
    have goesOn : Descent.calling kind entry (callee entry near) (next callee) =
        ⟨(next callee value after forward).ending,
          .call kind entry (callee entry near).calls (some after)
            (next callee value after forward).calls⟩ := by
      simp only [Descent.calling, ending]
    constructor
    · intro call inside recorded
      rw [goesOn] at recorded
      rcases List.mem_cons.mp recorded with first | others
      · obtain ⟨rfl, rfl⟩ := Prod.mk.inj first
        exact ⟨rfl, near, by simp [ending, Ending.exit?], rfl⟩
      · exact rest.right call inside others
    · intro other agrees
      rw [goesOn] at agrees
      have same := agrees _ _ List.mem_cons_self near
      have others := rest.complete other fun call inside recorded =>
        agrees call inside (List.mem_cons_of_mem _ recorded)
      simp only [Descent.calling, same, ending, others]

end Records

/-- Without an operator of the level, a chain ends. -/
theorem chainFrom_of_none {level : Precedence} {kind : Phrase} {bound origin : Nat}
    {operand : Procedure row α bound} {left : α} {here : Spot} {further : origin < here.cursor}
    {near : row.body.length - here.cursor < bound}
    (found : (look row here).token.operatorAt? level = none) :
    chainFrom algebra row level kind operand left here further near =
      ⟨.returned left here further, .none⟩ := by
  rw [chainFrom]
  split
  · rfl
  · rename_i other
    rw [found] at other
    cases other

/-- Behind an operator of the level, the operand is called, and the chain goes on with its value. -/
theorem chainFrom_of_some {level : Precedence} {kind : Phrase} {bound origin : Nat}
    {operand : Procedure row α bound} {left : α} {here : Spot} {further : origin < here.cursor}
    {near : row.body.length - here.cursor < bound} {op : Operator}
    (found : (look row here).token.operatorAt? level = some op)
    (closer : row.body.length - (advance row here).cursor < bound) :
    chainFrom algebra row level kind operand left here further near =
      calling kind (advance row here) (operand (advance row here) closer)
        fun right after later =>
          chainFrom algebra row level kind operand (algebra.operation op left right) after
            (by have := le_cursor_advance row here; omega) (by omega) := by
  rw [chainFrom]
  split
  · rename_i other
    rw [found] at other
    cases other
  · rename_i found'
    obtain rfl := Option.some.inj (found.symm.trans found')
    unfold calling
    cases ending : (operand (advance row here) closer).ending with
    | broken reason => simp only [ending]
    | returned right after later => simp only [ending]

/-- A chain has the calls for its further operands on record. -/
theorem chainFrom_records {level : Precedence} {kind : Phrase} {bound origin : Nat}
    (operand : Procedure row α bound) (left : α) (here : Spot)
    (further : origin < here.cursor) (near : row.body.length - here.cursor < bound) :
    Records kind operand fun callee =>
      chainFrom algebra row level kind callee left here further near := by
  fun_induction chainFrom algebra row level kind operand left here further near with
  | case1 left here further near found =>
    exact .of_none fun callee => chainFrom_of_none found
  | case2 left here further near op found solid passed inside course reason broken =>
    have closer : row.body.length - (advance row here).cursor < bound := by omega
    simp only [chainFrom_of_some found closer]
    refine .calling fun value after forward returned => ?_
    cases broken.symm.trans returned
  | case3 left here further near op found solid passed inside course right after later returned
      others ih =>
    have closer : row.body.length - (advance row here).cursor < bound := by omega
    simp only [chainFrom_of_some found closer]
    refine .calling fun value after forward again => ?_
    cases returned.symm.trans again
    exact ih

/-- A chain has the calls for all its operands on record. -/
theorem chain_records {level : Precedence} {kind : Phrase} {bound : Nat}
    (operand : Procedure row α bound) (here : Spot)
    (near : row.body.length - here.cursor < bound) :
    Records kind operand fun callee => chain algebra row level kind callee here near := by
  have first (callee : Procedure row α bound) : chain algebra row level kind callee here near =
      calling kind here (callee here near) fun left after later =>
        chainFrom algebra row level kind callee left after later (by omega) := by
    rfl
  simp only [first]
  exact .calling fun value after forward _ => chainFrom_records operand value after forward _

/-- With the counter at its limit, no parenthesis is opened. -/
theorem group_of_full {bound : Nat} {inside : Procedure row α bound} {here : Spot}
    (found : (look row here).token = .openParen)
    (near : row.body.length - here.cursor < bound + 1) (full : here.depth = nestingLimit) :
    group inside here found near =
      ⟨.broken (.fault (.nestingTooDeep nestingLimit (look row here).location)), .none⟩ := by
  simp only [group, full, ↓reduceIte]

/-- Below its limit, the inside is called and the parenthesis closed. -/
theorem group_of_room {bound : Nat} {inside : Procedure row α bound} {here : Spot}
    (found : (look row here).token = .openParen)
    (near : row.body.length - here.cursor < bound + 1) (room : here.depth ≠ nestingLimit)
    (closer : row.body.length - (advance row here).cursor < bound) :
    group inside here found near =
      calling .sum ⟨(advance row here).cursor, here.depth + 1⟩
        (inside ⟨(advance row here).cursor, here.depth + 1⟩ closer) fun value after later =>
          ⟨close row (look row here).location value after
            (Nat.lt_of_le_of_lt (le_cursor_advance row here) later), .none⟩ := by
  simp only [group, room, ↓reduceIte]
  obtain ⟨ending, calls⟩ := inside ⟨(advance row here).cursor, here.depth + 1⟩ closer
  cases ending <;> rfl

/-- A procedure for primaries has its calls for sums on record. -/
theorem operand_records {bound : Nat} (inside : Procedure row α bound) (here : Spot)
    (near : row.body.length - here.cursor < bound + 1) :
    Records .sum inside fun callee => operand algebra row callee here near := by
  by_cases found : (look row here).token = .openParen
  · have opens (callee : Procedure row α bound) :
        operand algebra row callee here near = group callee here found near := by
      unfold operand
      split
      case h_2 => rfl
      all_goals
        rename_i other
        cases found.symm.trans other
    simp only [opens]
    by_cases full : here.depth = nestingLimit
    · exact .of_none fun callee => group_of_full found near full
    · have solid : (look row here).token ≠ .endOfInput := by simp [found]
      have passed := advance_eq solid
      have within := cursor_lt_of_look solid
      have closer : row.body.length - (advance row here).cursor < bound := by
        simp only [passed]
        omega
      simp only [group_of_room found near full closer]
      exact .calling fun value after forward _ => .of_none fun callee => rfl
  · have idle (callee : Procedure row α bound) : operand algebra row callee here near =
        ⟨(operand algebra row inside here near).ending, .none⟩ := by
      unfold operand
      split
      case h_2 opens => exact absurd opens found
      all_goals rfl
    exact .of_none idle

/-- **Every call is on record.** A sum has its calls for products on record, a product those for
primaries and a primary those for sums. -/
theorem calls_on_record (algebra : Algebra α) (row : Lexemes) (bound : Nat) (here : Spot)
    (near : row.body.length - here.cursor < bound + 1) :
    (Records .product (product algebra row bound) fun callee =>
      chain algebra row .additive .product callee here near) ∧
    (Records .primary (primary algebra row bound) fun callee =>
      chain algebra row .multiplicative .primary callee here near) ∧
    Records .sum (sum algebra row bound) fun callee => operand algebra row callee here near :=
  ⟨chain_records _ here near, chain_records _ here near, operand_records _ here near⟩

end Descent

end Reckoner
