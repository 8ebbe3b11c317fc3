import Reckoner.Grammar.Reading

/-! # The meaning of a text

A text means a number and a tree, or it has a fault. Both readings follow the same rules, so the
number is the value of the tree and a fault is a fault of both; `Lexemes.map_read` in
`Reckoner.Proofs.Reading.Morphism` is the general statement behind it. A session reads one text
after the other and remembers the last one that had a meaning, which has no influence on what is
read.
-/

namespace Reckoner

/-- Reads a text as one expression. -/
def readText {α : Type} (algebra : Algebra α) (text : String) : Outcome α :=
  match Lexemes.scan text with
  | .ok row => row.read algebra
  | .error fault => ⟨.error (.scan fault), []⟩

/-- The meaning of a text is that of its row of lexemes. -/
theorem readText_of_scan {α : Type} (algebra : Algebra α) {text : String} {row : Lexemes}
    (scanned : Lexemes.scan text = .ok row) : readText algebra text = row.read algebra := by
  simp only [readText, scanned]

/-- Only a text that can be cut into lexemes has a meaning, and it is the meaning of these. -/
theorem readText_eq_ok_iff {α : Type} {algebra : Algebra α} {text : String} {value : α} :
    (readText algebra text).result = .ok value ↔
      ∃ row, Lexemes.scan text = .ok row ∧ (row.read algebra).result = .ok value := by
  unfold readText
  cases Lexemes.scan text <;> simp

/-- The number that a text stands for. -/
def valueOf (text : String) : Except Fault Float :=
  (readText .value text).result

/-- The tree that a text stands for. -/
def treeOf (text : String) : Except Fault Tree :=
  (readText .tree text).result

/-! ## Sessions -/

/-- What a session remembers: its last text without a fault, and nothing at the start. -/
structure Session where
  source : String
  deriving DecidableEq, Repr

namespace Session

/-- A session that has read nothing. -/
def start : Session :=
  ⟨""⟩

/-- The session after a text was read. -/
def after {α : Type} (session : Session) (text : String) : Except Fault α → Session
  | .ok _ => ⟨text⟩
  | .error _ => session

/-- Reads a text under some meaning. -/
def read {α : Type} (session : Session) (algebra : Algebra α) (text : String) :
    Except Fault α × Session :=
  let result := (readText algebra text).result
  (result, session.after text result)

/-- Reads a text as a number. -/
def value (session : Session) (text : String) : Except Fault Float × Session :=
  session.read .value text

/-- Reads a text as a tree. -/
def tree (session : Session) (text : String) : Except Fault Tree × Session :=
  session.read .tree text

/-- A session is shown as the text that it remembers. -/
def text (session : Session) : String :=
  session.source

/-- A text without a fault is remembered. -/
@[simp]
theorem after_ok {α : Type} (session : Session) (text : String) (value : α) :
    session.after text (.ok value) = ⟨text⟩ :=
  rfl

end Session

end Reckoner
