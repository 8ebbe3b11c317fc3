import Reckoner.Proofs.Scanning.Concatenation
import Reckoner.Proofs.Scanning.Violations

/-! # The tokens of a text

The tokens of a text do not depend on where the text stands, and the tokens of two texts one behind
the other are those of the one and then those of the other, provided that no run of digits goes on
from the one into the other (`Lexemes.tokens?_append`).
-/

namespace Reckoner.Lexemes

open Text

/-- The tokens of a text, if it can be cut into lexemes. -/
def tokens? (text : List Char) : Option (List Token) :=
  (scanFrom [] .start text).toOption.map Lexemes.tokens

/-- The tokens do not depend on the location, and lexemes found earlier come first. -/
theorem tokens_scanFrom (found : List Lexeme) (here : Location) (text : List Char) :
    (scanFrom found here text).toOption.map Lexemes.tokens =
      (tokens? text).map (Lexeme.tokens found.reverse ++ ·) := by
  unfold tokens?
  induction text using pieceInduction generalizing found here with
  | empty => simp [scanFrom_nil, Except.toOption, Lexemes.tokens]
  | blank c rest separates ih =>
    rw [scanFrom_blank separates, scanFrom_blank separates, ih found, ih [] (Location.start.step c)]
    simp [Function.comp_def]
  | run digits rest run ih =>
    cases literal : Literal.ofDigits? digits with
    | none =>
      rw [scanFrom_tooLarge run literal, scanFrom_tooLarge run literal]
      rfl
    | some value =>
      rw [scanFrom_literal run literal, scanFrom_literal run literal, ih (_ :: found), ih [_]]
      simp [Function.comp_def]
  | symbol c rest token known ih =>
    rw [scanFrom_symbol known, scanFrom_symbol known, ih (_ :: found), ih [_]]
    simp [Function.comp_def]
  | foreign c rest solid other unknown =>
    rw [scanFrom_foreign solid other unknown, scanFrom_foreign solid other unknown]
    rfl

/-- A text has the tokens of the row into which it is cut. -/
theorem tokens?_eq_some_iff {text : String} {tokens : List Token} :
    tokens? text.toList = some tokens ↔ ∃ row, scan text = .ok row ∧ row.tokens = tokens := by
  rw [tokens?, ← scan]
  cases scan text <;> simp [Except.toOption]

variable {c : Char} {digits rest : List Char}

/-- The empty text has no tokens. -/
@[simp]
theorem tokens?_nil : tokens? [] = some [] := by
  rw [tokens?, scanFrom_nil]
  rfl

/-- A blank adds no token. -/
theorem tokens?_blank (separates : isBlank c = true) : tokens? (c :: rest) = tokens? rest := by
  rw [tokens?, scanFrom_blank separates, tokens_scanFrom]
  simp

/-- A symbol adds its token. -/
theorem tokens?_symbol {token : Token} (known : Token.ofSymbol? c = some token) :
    tokens? (c :: rest) = (tokens? rest).map (token :: ·) := by
  rw [tokens?, scanFrom_symbol known, tokens_scanFrom]
  simp

/-- An opening parenthesis adds itself, -/
theorem tokens?_openParen : tokens? ('(' :: rest) = (tokens? rest).map (.openParen :: ·) :=
  tokens?_symbol (Token.ofSymbol?_eq_some_iff.mpr rfl)

/-- and so does a closing one. -/
theorem tokens?_closeParen : tokens? (')' :: rest) = (tokens? rest).map (.closeParen :: ·) :=
  tokens?_symbol (Token.ofSymbol?_eq_some_iff.mpr rfl)

/-- The symbol of an operator adds this operator. -/
theorem tokens?_operator (op : Operator) :
    tokens? (op.symbol :: rest) = (tokens? rest).map (.operator op :: ·) :=
  tokens?_symbol (Token.ofSymbol?_eq_some_iff.mpr rfl)

/-- A run of digits is one token, or none if its number is too large. -/
theorem tokens?_run (run : IsRun digits rest) :
    tokens? (digits ++ rest) =
      (Literal.ofDigits? digits).bind fun value => (tokens? rest).map (.number value :: ·) := by
  rw [tokens?, scanFrom_run run]
  cases Literal.ofDigits? digits with
  | none => rfl
  | some value =>
    rw [tokens_scanFrom]
    simp

/-- What writes a token is this token in front of every text that does not go on with its digits. -/
theorem tokens?_mark {raw : List Char} {token : Token} (writes : Writes raw token)
    (apart : (∀ c ∈ raw, c.isDigit = true) → NoDigitNext rest) :
    tokens? (raw ++ rest) = (tokens? rest).map (token :: ·) := by
  rw [tokens?, scanFrom_mark writes apart, tokens_scanFrom]
  simp

/-- A character outside the alphabet leaves a text without tokens. -/
theorem tokens?_foreign (solid : isBlank c = false) (other : c.isDigit = false)
    (unknown : Token.ofSymbol? c = none) : tokens? (c :: rest) = none := by
  rw [tokens?, scanFrom_foreign solid other unknown]
  rfl

/-- **Concatenation.** Where no run of digits goes on, the tokens of two texts are put together. -/
theorem tokens?_append {first second : List Char} (apart : NoDigitNext second) :
    tokens? (first ++ second) =
      (tokens? first).bind fun before => (tokens? second).map (before ++ ·) := by
  cases scanned : scanFrom [] .start first with
  | error fault =>
    rw [tokens?, scanFrom_append_of_error scanned, tokens?, scanned]
    rfl
  | ok row =>
    have apart : ¬ RunsOn first second := not_runsOn_of_noDigitNext apart
    rw [tokens?, scanFrom_append_of_ok scanned apart, tokens_scanFrom, List.reverse_reverse]
    have before : tokens? first = some row.tokens := by rw [tokens?, scanned]; rfl
    rw [before]
    rfl

/-- Only characters of the alphabet have tokens. -/
theorem inAlphabet_of_tokens? {text : List Char} {tokens : List Token}
    (known : tokens? text = some tokens) : ∀ c ∈ text, InAlphabet c := by
  unfold tokens? at known
  cases scanned : scanFrom [] .start text with
  | error fault =>
    rw [scanned] at known
    cases known
  | ok row =>
    have ends : Ends text (scanFrom [] .start text) := ends_scanFrom (.begin text) []
    exact (ends.exists_ok_iff.mp ⟨row, scanned⟩).1

end Reckoner.Lexemes
