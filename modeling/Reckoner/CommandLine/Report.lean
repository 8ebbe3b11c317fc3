import Reckoner.Meaning
import Reckoner.Tree.Walk

/-! # Answers and reports

The answer to an expression is a line with the expression and its value and, if asked for, a second
line with the expression in full parentheses; or it is a report. A report tells a user why an
expression has no value. It points at the character where the fault lies, or at the end of the
expression when too little was written.
-/

namespace Reckoner

/-- A span of bytes of an expression. -/
structure Label where
  offset : Nat
  length : Nat
  deriving DecidableEq, Repr

/-- What is said at a labelled span. -/
def Label.caption : String :=
  "here"

/-- A message about an expression, with the spans it is about. -/
structure Report where
  message : String
  labels : List Label
  deriving DecidableEq, Repr

namespace Report

/-- The label of the character at a location of a text: empty at the end of the text. -/
def labelAt (text : String) (location : Location) : Label :=
  match Text.suffixFrom? location.offset text.toList with
  | some (c :: _) => ⟨location.offset, c.utf8Size⟩
  | _ => ⟨location.offset, 0⟩

/-- The report on a fault of an expression. -/
def ofFault (text : String) (fault : Fault) : Report :=
  ⟨fault.message, fault.location?.toList.map (labelAt text)⟩

end Report

/-- What is printed for an expression, and the report on it if it has a fault. -/
structure Answer where
  output : String
  report? : Option Report
  deriving DecidableEq, Repr

namespace Answer

/-- The line that gives an expression its value. -/
def valueLine (text : String) (value : Float) : String :=
  text ++ " = " ++ Decimal.floatText value ++ "\n"

/-- The line that shows how an expression was read. -/
def treeLine (tree : Tree) : String :=
  tree.written ++ "\n"

/-- Answers an expression. The value is printed before the tree is read. -/
def ofText (text : String) (showTree : Bool) : Answer :=
  match valueOf text with
  | .error fault => ⟨"", some (.ofFault text fault)⟩
  | .ok value =>
    if showTree then
      match treeOf text with
      | .error fault => ⟨valueLine text value, some (.ofFault text fault)⟩
      | .ok tree => ⟨valueLine text value ++ treeLine tree, none⟩
    else ⟨valueLine text value, none⟩

end Answer

end Reckoner
