import Reckoner.Lexeme.Scan

/-! # Faults

Why a text is no expression. A fault says what was found and where, and its message is the one
sentence that a user sees. The statement `location?_eq_none_iff` says which faults concern the
text as a whole.
-/

namespace Reckoner

/-- How many parentheses may be open at once. -/
def nestingLimit : Nat :=
  256

/-- Why a text is no expression. -/
inductive Fault where
  /-- The text cannot be cut into lexemes. -/
  | scan (fault : ScanFault)
  /-- The text has different numbers of opening and closing parentheses. -/
  | unmatchedParentheses (opening closing : Nat)
  /-- The parenthesis at `opened` is not closed where its inside ends. -/
  | unclosedParenthesis (opened : Location) (found : Token) (location : Location)
  /-- Neither a number nor an opening parenthesis stands where an operand has to. -/
  | operandExpected (found : Token) (location : Location)
  /-- Something follows a complete expression. -/
  | trailingInput (found : Token) (location : Location)
  /-- A parenthesis is opened inside as many others as `limit` says. -/
  | nestingTooDeep (limit : Nat) (location : Location)
  deriving DecidableEq, Repr

namespace Fault

/-- Where the text goes wrong. -/
def location? : Fault → Option Location
  | .scan fault => some fault.location
  | .unmatchedParentheses _ _ => none
  | .unclosedParenthesis _ _ location => some location
  | .operandExpected _ location => some location
  | .trailingInput _ location => some location
  | .nestingTooDeep _ location => some location

/-- What a user is told. -/
def message : Fault → String
  | .scan fault => fault.message
  | .unmatchedParentheses opening closing =>
    String.join ["unmatched parentheses: ", toString opening, " opening but ", toString closing,
      " closing"]
  | .unclosedParenthesis opened found location =>
    String.join ["unbalanced parenthesis: `(` at ", opened.text, " expects `)`, found ",
      found.text, " at ", location.text]
  | .operandExpected found location =>
    String.join ["expected a number or `(`, found ", found.text, " at ", location.text]
  | .trailingInput found location =>
    String.join ["trailing input: ", found.text, " at ", location.text]
  | .nestingTooDeep limit location =>
    String.join ["parentheses nested more than ", toString limit, " deep at ", location.text]

/-- The message of the fault behind this one. -/
def cause? : Fault → Option String
  | .scan fault => some fault.message
  | _ => none

/-- Only a count of the whole text has no place in it. -/
theorem location?_eq_none_iff {fault : Fault} :
    fault.location? = none ↔ ∃ opening closing, fault = .unmatchedParentheses opening closing := by
  cases fault <;> simp [location?]

end Fault

end Reckoner
