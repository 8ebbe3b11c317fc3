import Mathlib.Data.List.Forall2
import Reckoner.CommandLine.Run
import Reckoner.Proofs.Reading.Morphism

/-! # The account of a run

The expressions of a run are answered on their own. One with a value prints a line, and its tree on
a second one if that is asked for (`Answer.ofText_of_accepted`); one with a fault prints nothing and
leaves a report (`Answer.ofText_of_rejected`). An expression is read twice when its tree is to be
shown, and the second time something has been printed already; but the second reading always
succeeds (`Session.answer_all_or_nothing`). What a whole run prints and returns follows from the
answers to its expressions one after the other (`Completion.accounts_ofExpressions`).
-/

namespace Reckoner

/-- Whether an expression has a value. -/
def isAccepted (text : String) : Bool :=
  (valueOf text).isOk

/-- What is printed for an expression that has a value, the tree only if it is to be shown. -/
def Prints (showTree : Bool) (text printed : String) : Prop :=
  ∃ value tree, valueOf text = .ok value ∧ treeOf text = .ok tree ∧
    printed = text ++ " = " ++ Decimal.floatText value ++ "\n" ++
      if showTree then tree.written ++ "\n" else ""

/-! ## One answer -/

namespace Answer

variable {text : String}

/-- An expression with a fault prints nothing, and the report is on this fault. -/
theorem ofText_of_error {fault : Fault} (failed : valueOf text = .error fault) (showTree : Bool) :
    ofText text showTree = ⟨"", some (.ofFault text fault)⟩ := by
  rw [ofText, failed]

/-- An expression with a tree prints its value, and the tree if that is asked for. -/
theorem ofText_of_ok {tree : Tree} (read : treeOf text = .ok tree) (showTree : Bool) :
    ofText text showTree = ⟨text ++ " = " ++ Decimal.floatText tree.eval ++ "\n" ++
      if showTree then tree.written ++ "\n" else "", none⟩ := by
  have evaluated : valueOf text = .ok tree.eval := valueOf_eq_ok_iff.mpr ⟨tree, read, rfl⟩
  rw [ofText, evaluated]
  cases showTree with
  | true => simp [read, valueLine, treeLine]
  | false => simp [valueLine]

/-- An expression that is accepted prints what it has to and leaves no report. -/
theorem ofText_of_accepted (accepted : isAccepted text = true) (showTree : Bool) :
    ∃ printed, Prints showTree text printed ∧ ofText text showTree = ⟨printed, none⟩ := by
  cases evaluated : valueOf text with
  | error fault =>
    rw [isAccepted, evaluated] at accepted
    cases accepted
  | ok value =>
    obtain ⟨tree, read, rfl⟩ := valueOf_eq_ok_iff.mp evaluated
    exact ⟨_, ⟨tree.eval, tree, evaluated, read, rfl⟩, ofText_of_ok read showTree⟩

/-- An expression that is rejected prints nothing and leaves a report. -/
theorem ofText_of_rejected (rejected : isAccepted text = false) (showTree : Bool) :
    ∃ report, ofText text showTree = ⟨"", some report⟩ := by
  cases evaluated : valueOf text with
  | error fault => exact ⟨_, ofText_of_error evaluated showTree⟩
  | ok value =>
    rw [isAccepted, evaluated] at rejected
    cases rejected

/-- The answers to all expressions print what those with a value print, in order. -/
theorem join_outputs (texts : List String) (showTree : Bool) :
    ∃ printed, List.Forall₂ (Prints showTree) (texts.filter isAccepted) printed ∧
      String.join ((texts.map fun text => ofText text showTree).map output) =
        String.join printed := by
  induction texts with
  | nil => exact ⟨[], .nil, rfl⟩
  | cons text texts ih =>
    obtain ⟨others, prints, same⟩ := ih
    cases accepted : isAccepted text with
    | true =>
      obtain ⟨printed, answered, answer⟩ := ofText_of_accepted accepted showTree
      refine ⟨printed :: others, ?_, ?_⟩
      · rw [List.filter_cons_of_pos accepted]
        exact .cons answered prints
      · rw [List.map_cons, List.map_cons, String.join_cons, String.join_cons, same, answer]
    | false =>
      obtain ⟨report, answer⟩ := ofText_of_rejected accepted showTree
      refine ⟨others, ?_, ?_⟩
      · rwa [List.filter_cons_of_neg (by simp [accepted])]
      · rw [List.map_cons, List.map_cons, String.join_cons, same, answer, String.empty_append]

/-- There is one report for every expression that has a fault. -/
theorem length_reports (texts : List String) (showTree : Bool) :
    ((texts.map fun text => ofText text showTree).filterMap report?).length =
      texts.countP fun text => !isAccepted text := by
  rw [List.filterMap_map, List.length_filterMap_eq_countP]
  refine List.countP_congr fun text _ => ?_
  cases accepted : isAccepted text with
  | true =>
    obtain ⟨printed, -, answer⟩ := ofText_of_accepted accepted showTree
    simp [answer]
  | false =>
    obtain ⟨report, answer⟩ := ofText_of_rejected accepted showTree
    simp [answer]

end Answer

/-! ## All or nothing

Here an answer is given by a session, which is asked for the number first, then prints the text that
it remembers, and is asked for the tree at last. Both readings find the same faults and the session
passes nothing on, so an answer is complete, or it is a report and nothing else.
-/

namespace Session

/-- An answer given by a session. A fault that is found in the second reading is reported behind the
line that was printed. -/
def answer (session : Session) (text : String) (showTree : Bool) : Answer :=
  match session.value text with
  | (.error fault, _) => ⟨"", some (.ofFault text fault)⟩
  | (.ok value, after) =>
    let printed := Answer.valueLine after.text value
    if showTree then
      match after.tree text with
      | (.error fault, _) => ⟨printed, some (.ofFault text fault)⟩
      | (.ok tree, _) => ⟨printed ++ Answer.treeLine tree, none⟩
    else ⟨printed, none⟩

/-- What the session remembers is the text that was just read, so the answer is the one that the
text has on its own. -/
theorem answer_eq_ofText (session : Session) (text : String) (showTree : Bool) :
    session.answer text showTree = Answer.ofText text showTree := by
  have value : session.value text = (valueOf text, session.after text (valueOf text)) := rfl
  rw [answer, Answer.ofText, value]
  cases valueOf text with
  | error fault => rfl
  | ok number =>
    have tree : Session.tree ⟨text⟩ text = (treeOf text, Session.after ⟨text⟩ text (treeOf text)) :=
      rfl
    simp only [after_ok, tree]
    cases treeOf text <;> rfl

/-- **All or nothing.** An answer fails exactly if the text has no number. Then nothing is printed
and the report is on the fault of the text, whether a tree is asked for or not. Else the answer has
the text as it is and its number, and if the tree is asked for, the written form of the tree that
the text stands for; the number is the value of this tree. The tree is read after the number was
printed, and this second reading never fails. -/
theorem answer_all_or_nothing (session : Session) (text : String) (showTree : Bool) :
    session.answer text showTree = Answer.ofText text showTree ∧
    ((session.answer text showTree).report?.isSome ↔ ∃ fault, valueOf text = .error fault) ∧
    (∀ fault, valueOf text = .error fault →
      session.answer text showTree = ⟨"", some (.ofFault text fault)⟩) ∧
    ∀ value, valueOf text = .ok value → ∃ tree, treeOf text = .ok tree ∧ tree.value = value ∧
      ((session.value text).2.tree text).1 = .ok tree ∧
      session.answer text showTree = ⟨text ++ " = " ++ Decimal.floatText value ++ "\n" ++
        if showTree then tree.text ++ "\n" else "", none⟩ := by
  rw [answer_eq_ofText]
  refine ⟨rfl, ?_, fun fault failed => Answer.ofText_of_error failed showTree, ?_⟩
  · cases evaluated : valueOf text with
    | error fault => simp [Answer.ofText_of_error evaluated]
    | ok value =>
      obtain ⟨tree, read, -⟩ := valueOf_eq_ok_iff.mp evaluated
      simp [Answer.ofText_of_ok read]
  · intro value evaluated
    obtain ⟨tree, read, rfl⟩ := valueOf_eq_ok_iff.mp evaluated
    refine ⟨tree, read, tree.value_eq_eval, read, ?_⟩
    rw [← tree.written_eq_text]
    exact Answer.ofText_of_ok read showTree

end Session

/-! ## A whole run -/

namespace Completion

/-- What a run on some expressions leaves behind: the output of those with a value, in order, and
a status and a summary that tell how many have a fault. -/
structure Accounts (showTree : Bool) (texts : List String) (completion : Completion) : Prop where
  output : ∃ printed, List.Forall₂ (Prints showTree) (texts.filter isAccepted) printed ∧
    completion.output = String.join printed
  passed : (∀ text ∈ texts, isAccepted text = true) →
    completion.status = 0 ∧ completion.summary = none
  failed : (∃ text ∈ texts, isAccepted text = false) →
    completion.status = 1 ∧ completion.summary =
      some (toString (texts.countP fun text => !isAccepted text) ++ " of " ++
        toString texts.length ++ " expressions failed")

/-- What a run on some expressions prints and returns. -/
theorem accounts_ofExpressions (texts : List String) (showTree verbose : Bool) :
    (ofExpressions texts showTree verbose).Accounts showTree texts := by
  have many := Answer.length_reports texts showTree
  constructor
  case output => exact Answer.join_outputs texts showTree
  case passed =>
    intro all
    have nothing : (texts.countP fun text => !isAccepted text) = 0 :=
      List.countP_eq_zero.mpr fun text inside => by simp [all text inside]
    have empty := List.isEmpty_iff_length_eq_zero.mpr (many.trans nothing)
    simp only [ofExpressions, empty, ↓reduceIte, and_self]
  case failed =>
    intro some
    have positive : 0 < texts.countP fun text => !isAccepted text :=
      List.countP_pos_iff.mpr (by simpa using some)
    have filled := List.isEmpty_eq_false_iff.mpr (List.ne_nil_of_length_pos (many ▸ positive))
    simp only [ofExpressions, filled, many, Bool.false_eq_true, ↓reduceIte, and_self]

/-- **The account of a run.** If the expressions cannot be read, nothing is printed and the status
is 1. Else the output consists of what the expressions with a value print, in order, whatever the
others are. The status is 0 if all have one, and otherwise it is 1 and the summary says how many
have not. -/
theorem account_of_options (options : Options) (surroundings : Surroundings) :
    (∃ fault, options.source.expressions surroundings = .error fault ∧
      (ofOptions options surroundings).output = "" ∧
      (ofOptions options surroundings).status = 1) ∨
    ∃ texts, options.source.expressions surroundings = .ok texts ∧
      (ofOptions options surroundings).Accounts options.tree texts := by
  rw [ofOptions]
  cases options.source.expressions surroundings with
  | error fault => exact .inl ⟨fault, rfl, rfl, rfl⟩
  | ok texts => exact .inr ⟨texts, rfl, accounts_ofExpressions texts options.tree options.verbose⟩

/-- Of three expressions the second has a fault, and the others are printed with their trees. -/
example : (ofOptions ⟨["1 + 2", "(1", "2 x 3"], none, true, false⟩ ⟨fun _ => none, .empty⟩).output =
    "1 + 2 = 3\n(1 + 2)\n2 x 3 = 6\n(2 x 3)\n" := by
  decide +kernel

end Completion

end Reckoner
