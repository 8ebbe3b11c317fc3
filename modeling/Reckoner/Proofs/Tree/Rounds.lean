import Mathlib.Computability.StateTransition
import Reckoner.Tree.Walk

/-! # Walks round by round

A walk over a tree is a loop: a round takes one task from the list and may leave others to be done.
Here a round is a function of its own, and every walk is shown to come to an end by what one round
does: it makes the tasks cheaper and does not change what comes of them (`Computes`). Of an
evaluation more is said, that at every round an operator finds its two values
(`Tree.evaluation_of_tree`).
-/

namespace Reckoner

open StateTransition

/-! ## Loops -/

/-- A loop computes something of the state it is in: a round makes cheaper what is left to be done,
and the result stays the same. -/
structure Computes {σ α : Type} (next? : σ → Option σ) (cost : σ → ℕ) (result : σ → α) : Prop where
  cheaper {state after : σ} (round : next? state = some after) : cost after < cost state
  same {state after : σ} (round : next? state = some after) : result after = result state

namespace Computes

variable {σ α : Type} {next? : σ → Option σ} {cost : σ → ℕ} {result : σ → α} {state after : σ}

/-- However many rounds are made, the result stays the same. -/
theorem result_eq_of_reaches (computes : Computes next? cost result)
    (reaches : Reaches next? state after) : result after = result state := by
  induction reaches with
  | refl => rfl
  | tail _ round ih => exact (computes.same round).trans ih

/-- The loop comes to an end, and the result stays the same. -/
theorem exists_mem_eval (computes : Computes next? cost result) (state : σ) :
    ∃ last ∈ eval next? state, result last = result state := by
  induction left : cost state using Nat.strong_induction_on generalizing state with
  | _ _ ih =>
    subst left
    cases round : next? state with
    | none => exact ⟨state, mem_eval.mpr ⟨.refl, round⟩, rfl⟩
    | some after =>
      obtain ⟨last, ends, same⟩ := ih _ (computes.cheaper round) after rfl
      obtain ⟨reaches, stopped⟩ := mem_eval.mp ends
      exact ⟨last, mem_eval.mpr ⟨.head round reaches, stopped⟩, same.trans (computes.same round)⟩

end Computes

namespace Tree

/-! ## Evaluation -/

/-- An evaluation under way: the tasks that are left, and the values so far, the latest first. -/
structure Evaluation where
  tasks : List EvalTask
  values : List Float

namespace Evaluation

def start (tree : Tree) : Evaluation :=
  ⟨[.visit tree], []⟩

/-- One round. There is none when no task is left, or when an operator finds fewer than two
values. -/
def next? : Evaluation → Option Evaluation
  | ⟨[], _⟩ => none
  | ⟨.visit (.leaf value) :: tasks, values⟩ => some ⟨tasks, value :: values⟩
  | ⟨.visit (.node op left right) :: tasks, values⟩ =>
    some ⟨.visit left :: .visit right :: .apply op :: tasks, values⟩
  | ⟨.apply op :: tasks, right :: left :: values⟩ => some ⟨tasks, op.compute left right :: values⟩
  | ⟨.apply _ :: _, _⟩ => none

def cost (evaluation : Evaluation) : ℕ :=
  evaluation.tasks.foldr (fun task others => task.cost + others) 0

/-- The values that are there in the end, if every operator finds two. -/
def result (evaluation : Evaluation) : Option (List Float) :=
  runEval evaluation.tasks evaluation.values

/-- What a round can do. -/
theorem next?_cases {evaluation after : Evaluation} (round : evaluation.next? = some after) :
    (∃ value tasks, evaluation.tasks = .visit (.leaf value) :: tasks ∧
      after = ⟨tasks, value :: evaluation.values⟩) ∨
    (∃ op left right tasks, evaluation.tasks = .visit (.node op left right) :: tasks ∧
      after = ⟨.visit left :: .visit right :: .apply op :: tasks, evaluation.values⟩) ∨
    ∃ op tasks right left values, evaluation.tasks = .apply op :: tasks ∧
      evaluation.values = right :: left :: values ∧
      after = ⟨tasks, op.compute left right :: values⟩ := by
  unfold next? at round
  split at round
  · cases round
  · exact .inl ⟨_, _, rfl, (Option.some.inj round).symm⟩
  · exact .inr (.inl ⟨_, _, _, _, rfl, (Option.some.inj round).symm⟩)
  · exact .inr (.inr ⟨_, _, _, _, _, rfl, rfl, (Option.some.inj round).symm⟩)
  · cases round

/-- A round carries out the task in front, as the evaluation does. -/
theorem computes : Computes next? cost result where
  cheaper {evaluation after} round := by
    obtain ⟨tasks, values⟩ := evaluation
    obtain ⟨_, _, rfl, rfl⟩ | ⟨_, _, _, _, rfl, rfl⟩ | ⟨_, _, _, _, _, rfl, rfl, rfl⟩ :=
      next?_cases round
    all_goals simp [cost, EvalTask.cost, size]
    omega
  same {evaluation after} round := by
    obtain ⟨tasks, values⟩ := evaluation
    obtain ⟨_, _, rfl, rfl⟩ | ⟨_, _, _, _, rfl, rfl⟩ | ⟨_, _, _, _, _, rfl, rfl, rfl⟩ :=
      next?_cases round
    all_goals simp [result, runEval]

/-- An operator that leads to values in the end finds its two operands. -/
theorem exists_operands {op : Operator} {tasks : List EvalTask} {values last : List Float}
    (owes : result ⟨.apply op :: tasks, values⟩ = some last) :
    ∃ right left others, values = right :: left :: others := by
  match values with
  | [] => simp [result, runEval] at owes
  | [_] => simp [result, runEval] at owes
  | right :: left :: others => exact ⟨right, left, others, rfl⟩

/-- No round is left only when there are no tasks. -/
theorem eq_of_next?_eq_none {evaluation : Evaluation} {last : List Float}
    (owes : evaluation.result = some last) (stopped : evaluation.next? = none) :
    evaluation = ⟨[], last⟩ := by
  obtain ⟨tasks, values⟩ := evaluation
  cases tasks with
  | nil =>
    have finished : some values = some last := by simpa [result, runEval] using owes
    rw [Option.some.inj finished]
  | cons task tasks =>
    cases task with
    | visit tree => cases tree <;> cases stopped
    | apply op =>
      obtain ⟨right, left, others, rfl⟩ := exists_operands owes
      cases stopped

end Evaluation

/-- **Evaluation.** The list of tasks computes what the recursion on the tree defines. It comes to
an end, and then the value of the tree is the only one on the stack; at no round before does an
operator find fewer than two values. -/
theorem evaluation_of_tree (tree : Tree) :
    tree.value = tree.eval ∧ runEval [.visit tree] [] = some [tree.value] ∧
      ⟨[], [tree.eval]⟩ ∈ StateTransition.eval Evaluation.next? (.start tree) ∧
      ∀ state, Reaches Evaluation.next? (.start tree) state →
        (∀ op tasks, state.tasks = .apply op :: tasks →
          ∃ right left others, state.values = right :: left :: others) ∧
        (state.next? = none → state = ⟨[], [tree.eval]⟩) := by
  have value := tree.value_eq_eval
  have owes : (Evaluation.start tree).result = some [tree.eval] := tree.runEval_singleton
  refine ⟨value, ?_, ?_, fun state reached => ⟨?_, ?_⟩⟩
  · rw [value, runEval_singleton]
  · obtain ⟨last, ends, same⟩ := Evaluation.computes.exists_mem_eval (.start tree)
    rw [← Evaluation.eq_of_next?_eq_none (same.trans owes) (mem_eval.mp ends).2]
    exact ends
  · have still := (Evaluation.computes.result_eq_of_reaches reached).trans owes
    obtain ⟨_, values⟩ := state
    rintro op tasks rfl
    exact Evaluation.exists_operands still
  · have still := (Evaluation.computes.result_eq_of_reaches reached).trans owes
    exact Evaluation.eq_of_next?_eq_none still

/-- Of two numbers to be subtracted, the right one was found last. -/
theorem evaluation_of_tree_of_difference :
    ∃ state : Evaluation, state = ⟨[.apply .sub], [Number.ofInt64 2, Number.ofInt64 1]⟩ ∧
      Reaches Evaluation.next? (.start (minus (ofInt64 1) (ofInt64 2))) state ∧
      ∃ right left others, state.values = right :: left :: others := by
  have reached : Reaches Evaluation.next? (.start (minus (ofInt64 1) (ofInt64 2)))
      ⟨[.apply .sub], [Number.ofInt64 2, Number.ofInt64 1]⟩ :=
    .head rfl (.head rfl (.head rfl .refl))
  obtain ⟨-, -, -, rounds⟩ := evaluation_of_tree (minus (ofInt64 1) (ofInt64 2))
  exact ⟨_, rfl, reached, (rounds _ reached).1 .sub [] rfl⟩

/-! ## Writing -/

/-- A written form under way: what is written so far, and the pieces that are left. -/
structure Writing where
  done : String
  tasks : List WriteTask

namespace Writing

def start (tree : Tree) : Writing :=
  ⟨"", [.visit tree]⟩

/-- One round. There is none when nothing is left. -/
def next? : Writing → Option Writing
  | ⟨_, []⟩ => none
  | ⟨done, .visit (.leaf value) :: tasks⟩ => some ⟨done ++ Decimal.floatText value, tasks⟩
  | ⟨done, .visit (.node op left right) :: tasks⟩ =>
    some ⟨done ++ "(", .visit left :: .operator op :: .visit right :: .close :: tasks⟩
  | ⟨done, .operator op :: tasks⟩ => some ⟨done ++ " " ++ op.text ++ " ", tasks⟩
  | ⟨done, .close :: tasks⟩ => some ⟨done ++ ")", tasks⟩

def cost (writing : Writing) : ℕ :=
  writing.tasks.foldr (fun task others => task.cost + others) 0

/-- What is written in the end. -/
def result (writing : Writing) : String :=
  runWrite writing.done writing.tasks

/-- Each round of writing is cheaper and leaves the result as it is. -/
theorem computes : Computes next? cost result where
  cheaper {writing after} round := by
    unfold next? at round
    split at round <;> cases round
    all_goals simp [cost, WriteTask.cost, size]
    omega
  same {writing after} round := by
    unfold next? at round
    split at round <;> cases round
    all_goals simp [result, runWrite]

/-- Writing stops when no task is left. -/
theorem eq_of_next?_eq_none {writing : Writing} (stopped : writing.next? = none) :
    writing = ⟨writing.result, []⟩ := by
  unfold next? at stopped
  split at stopped <;> cases stopped
  simp [result, runWrite]

/-- The pieces are written one after the other, and in the end they are the written form. -/
theorem mem_eval_start (tree : Tree) :
    ⟨tree.text, []⟩ ∈ StateTransition.eval next? (start tree) := by
  obtain ⟨last, ends, same⟩ := computes.exists_mem_eval (start tree)
  have all : (start tree).result = tree.text := tree.written_eq_text
  rw [← all, ← same, ← eq_of_next?_eq_none (mem_eval.mp ends).2]
  exact ends

end Writing

/-! ## Likeness -/

namespace Comparison

/-- One round of a comparison, with the pairs that are left. There is none when no pair is left, or
when the first one shows that the trees are not alike. -/
def next? : List (Tree × Tree) → Option (List (Tree × Tree))
  | (.leaf first, .leaf second) :: pairs => if first == second then some pairs else none
  | (.node op left right, .node op' left' right') :: pairs =>
    if op == op' then some ((left, left') :: (right, right') :: pairs) else none
  | _ => none

def cost (pairs : List (Tree × Tree)) : ℕ :=
  pairs.foldr (fun pair others => pair.1.size + others) 0

/-- Each round of a comparison is cheaper and leaves the result as it is. -/
theorem computes : Computes next? cost runMatch where
  cheaper {pairs after} round := by
    unfold next? at round
    split at round
    · obtain ⟨-, rfl⟩ := Option.ite_some_none_eq_some.mp round
      simp [cost, size]
    · obtain ⟨-, rfl⟩ := Option.ite_some_none_eq_some.mp round
      simp [cost, size]
      omega
    · cases round
  same {pairs after} round := by
    unfold next? at round
    split at round
    · obtain ⟨same, rfl⟩ := Option.ite_some_none_eq_some.mp round
      simp [runMatch, same]
    · obtain ⟨same, rfl⟩ := Option.ite_some_none_eq_some.mp round
      simp [runMatch, same]
    · cases round

/-- The trees are alike if no pair is left when no round is. -/
theorem runMatch_of_next?_eq_none {pairs : List (Tree × Tree)} (stopped : next? pairs = none) :
    runMatch pairs = pairs.isEmpty := by
  match pairs with
  | [] => simp [runMatch]
  | (.leaf first, .leaf second) :: rest =>
    have unlike : (first == second) = false := by simpa [next?] using stopped
    simp [runMatch, unlike]
  | (.node op left right, .node op' left' right') :: rest =>
    have unlike : (op == op') = false := by simpa [next?] using stopped
    simp [runMatch, unlike]
  | (.leaf _, .node ..) :: _ => simp [runMatch]
  | (.node .., .leaf _) :: _ => simp [runMatch]

/-- A comparison ends, and the trees are alike if no pair is left then. -/
theorem exists_mem_eval (first second : Tree) :
    ∃ last ∈ StateTransition.eval next? [(first, second)],
      first.matching second = last.isEmpty := by
  obtain ⟨last, ends, same⟩ := computes.exists_mem_eval [(first, second)]
  exact ⟨last, ends, same.symm.trans (runMatch_of_next?_eq_none (mem_eval.mp ends).2)⟩

end Comparison

end Tree

end Reckoner
