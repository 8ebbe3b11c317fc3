import Reckoner.Grammar.Derivation

/-! # The grammar with repetition

The grammar as it is written down: a sum is a product followed by any number of additive operators
with a product each, and a product repeats primaries in the same way. Each repetition is folded to
the left. The rules of `Derives`, which take one operand at a time, say the same
(`expands_iff_derives`).
-/

namespace Reckoner

/-- One repetition: an operator, and the phrase on its right with its tree. -/
structure Link where
  op : Operator
  tokens : List Token
  tree : Tree

namespace Link

/-- The tokens of a row of repetitions. -/
def written (links : List Link) : List Token :=
  links.flatMap fun link => .operator link.op :: link.tokens

/-- The tree of a first operand and the repetitions after it, folded to the left. -/
def folded (first : Tree) (links : List Link) : Tree :=
  links.foldl (fun left link => .node link.op left link.tree) first

@[simp]
theorem written_nil : written [] = [] :=
  rfl

/-- The first link is written first: its operator, then its operand. -/
@[simp]
theorem written_cons (link : Link) (links : List Link) :
    written (link :: links) = .operator link.op :: link.tokens ++ written links :=
  rfl

/-- The links of two chains are written one after the other. -/
@[simp]
theorem written_append (first second : List Link) :
    written (first ++ second) = written first ++ written second := by
  simp [written]

@[simp]
theorem folded_nil (first : Tree) : folded first [] = first :=
  rfl

/-- The first link is folded first. -/
@[simp]
theorem folded_cons (first : Tree) (link : Link) (links : List Link) :
    folded first (link :: links) = folded (.node link.op first link.tree) links :=
  rfl

/-- Folding two chains is folding the second onto the result of the first. -/
@[simp]
theorem folded_append (first : Tree) (links more : List Link) :
    folded first (links ++ more) = folded (folded first links) more := by
  simp [folded]

end Link

/-- `sum := product (("+" | "-") product)*`, `product := primary (("x" | "÷") primary)*` and
`primary := NUMBER | "(" sum ")"`. -/
inductive Expands : Phrase → List Token → Tree → Prop where
  | number (value : Int64) : Expands .primary [.number value] (.ofInt64 value)
  | parenthesized {tokens : List Token} {tree : Tree} (inside : Expands .sum tokens tree) :
    Expands .primary (.openParen :: tokens ++ [.closeParen]) tree
  | product {tokens : List Token} {tree : Tree} (links : List Link)
    (first : Expands .primary tokens tree)
    (level : ∀ link ∈ links, link.op.precedence = .multiplicative)
    (operands : ∀ link ∈ links, Expands .primary link.tokens link.tree) :
    Expands .product (tokens ++ Link.written links) (Link.folded tree links)
  | sum {tokens : List Token} {tree : Tree} (links : List Link)
    (first : Expands .product tokens tree)
    (level : ∀ link ∈ links, link.op.precedence = .additive)
    (operands : ∀ link ∈ links, Expands .product link.tokens link.tree) :
    Expands .sum (tokens ++ Link.written links) (Link.folded tree links)

/-- Links prolong a derived chain one by one. -/
theorem Joins.links {level : Precedence} {whole part : Phrase} (joins : Joins level whole part)
    {links : List Link} (levels : ∀ link ∈ links, link.op.precedence = level)
    (operands : ∀ link ∈ links, Derives part link.tokens link.tree) {tokens : List Token}
    {tree : Tree} (first : Derives whole tokens tree) :
    Derives whole (tokens ++ Link.written links) (Link.folded tree links) := by
  induction links generalizing tokens tree with
  | nil => simpa using first
  | cons link links ih =>
    have level_here := levels link List.mem_cons_self
    have operand_here := operands link List.mem_cons_self
    have longer := joins level_here first operand_here
    have all := ih (fun other inside => levels other (List.mem_cons_of_mem link inside))
      (fun other inside => operands other (List.mem_cons_of_mem link inside)) longer
    simpa using all

/-- What the starred grammar expands is derived one operand at a time. -/
theorem Expands.derives {phrase : Phrase} {tokens : List Token} {tree : Tree}
    (expanded : Expands phrase tokens tree) : Derives phrase tokens tree := by
  induction expanded with
  | number value => exact .number value
  | parenthesized _ ih => exact .parenthesized ih
  | product links _ level _ first_ih operands_ih =>
    exact Joins.links Derives.times level operands_ih (.factor first_ih)
  | sum links _ level _ first_ih operands_ih =>
    exact Joins.links Derives.plus level operands_ih (.term first_ih)

/-- One more operand is one more repetition. -/
theorem Expands.times {op : Operator} {lefts rights : List Token} {left right : Tree}
    (level : op.precedence = .multiplicative) (before : Expands .product lefts left)
    (last : Expands .primary rights right) :
    Expands .product (lefts ++ .operator op :: rights) (.node op left right) := by
  cases before with
  | @product tokens tree links first levels operands =>
    have all := Expands.product (links ++ [⟨op, rights, right⟩]) first
      (by simpa [or_imp, forall_and] using ⟨levels, level⟩)
      (by simpa [or_imp, forall_and] using ⟨operands, last⟩)
    simpa using all

/-- A sum with one more product is a sum. -/
theorem Expands.plus {op : Operator} {lefts rights : List Token} {left right : Tree}
    (level : op.precedence = .additive) (before : Expands .sum lefts left)
    (last : Expands .product rights right) :
    Expands .sum (lefts ++ .operator op :: rights) (.node op left right) := by
  cases before with
  | @sum tokens tree links first levels operands =>
    have all := Expands.sum (links ++ [⟨op, rights, right⟩]) first
      (by simpa [or_imp, forall_and] using ⟨levels, level⟩)
      (by simpa [or_imp, forall_and] using ⟨operands, last⟩)
    simpa using all

/-- What is derived one operand at a time is expanded by the starred grammar. -/
theorem Derives.expands {phrase : Phrase} {tokens : List Token} {tree : Tree}
    (derived : Derives phrase tokens tree) : Expands phrase tokens tree := by
  induction derived with
  | number value => exact .number value
  | parenthesized _ ih => exact .parenthesized ih
  | factor _ ih => simpa using Expands.product [] ih (by simp) (by simp)
  | times level _ _ before_ih last_ih => exact before_ih.times level last_ih
  | term _ ih => simpa using Expands.sum [] ih (by simp) (by simp)
  | plus level _ _ before_ih last_ih => exact before_ih.plus level last_ih

/-- **Repetition.** Folding starred sequences to the left and adding operands one at a time give
the same trees to the same rows. -/
theorem expands_iff_derives {phrase : Phrase} {tokens : List Token} {tree : Tree} :
    Expands phrase tokens tree ↔ Derives phrase tokens tree :=
  ⟨Expands.derives, Derives.expands⟩

end Reckoner
