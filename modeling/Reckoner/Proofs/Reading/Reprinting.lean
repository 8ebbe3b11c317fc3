import Reckoner.Proofs.Reading.Grammar
import Reckoner.Proofs.Reading.Morphism
import Reckoner.Proofs.Scanning.Tokens

/-! # Printing tokens and scanning them again

Tokens are printed as messages name them, with single spaces between. Apart from the end of the
input and negative numbers, each token is written by its own text (`Token.writes_text`), up to the
largest number, so that the scan gives back the tokens that were printed. A text may therefore be
printed anew from its tokens: doing this twice changes nothing, and the meaning stays
(`Token.scan_spaced_and_meaning`).
-/

namespace Reckoner

namespace Token

/-- The texts of some tokens with single spaces between them. -/
def spaced (tokens : List Token) : String :=
  " ".intercalate (tokens.map text)

/-- A token that characters can write: it is not the end of the input, and if it is a number, then
one without a sign. -/
structure IsWritable (token : Token) : Prop where
  inside : token ≠ .endOfInput
  nonnegative : ∀ value, token = .number value → 0 ≤ value.toInt

/-- A number without a sign is printed as its digits. -/
theorem toList_text_number {value : Int64} (nonnegative : 0 ≤ value.toInt) :
    (text (.number value)).toList = Nat.toDigits 10 value.toInt.toNat := by
  obtain ⟨n, same⟩ := Int.eq_ofNat_of_zero_le nonnegative
  simp [text, same, Int.repr]

/-- A token that characters can write is written by its own text. -/
theorem writes_text {token : Token} (writable : token.IsWritable) :
    Writes token.text.toList token := by
  cases token with
  | number value =>
    have nonnegative := writable.nonnegative value rfl
    rw [toList_text_number nonnegative]
    refine .number Nat.toDigits_ne_nil (fun c inside => ?_) ?_
    · exact Nat.isDigit_of_mem_toDigits (by decide) (by decide) inside
    · rw [Nat.ofDigitChars_ten_toDigits, Int.toNat_of_nonneg nonnegative]
  | operator op =>
    have symbol : (text (.operator op)).toList = [op.symbol] := by simp [text, Operator.text]
    rw [symbol]
    exact .operator op
  | openParen => exact .openParen
  | closeParen => exact .closeParen
  | endOfInput => exact absurd rfl writable.inside

end Token

/-- What some characters write can be written. -/
theorem Writes.isWritable {raw : List Char} {token : Token} (writes : Writes raw token) :
    token.IsWritable where
  inside := writes.ne_endOfInput
  nonnegative := by
    rintro value rfl
    cases writes with
    | number _ _ means =>
      rw [means]
      exact Int.natCast_nonneg _

namespace Lexemes

/-- What a scan finds can be written again. -/
theorem isWritable_of_scan {text : String} {row : Lexemes} (scanned : scan text = .ok row) :
    ∀ token ∈ row.tokens, token.IsWritable := by
  intro token inside
  obtain ⟨lexeme, known, rfl⟩ := List.mem_map.mp inside
  exact (writes_of_scan scanned lexeme known).isWritable

/-- The tokens of what is printed with spaces are those that were printed. -/
theorem tokens?_spaced {tokens : List Token} (writable : ∀ token ∈ tokens, token.IsWritable) :
    tokens? (Token.spaced tokens).toList = some tokens := by
  rw [Token.spaced, String.toList_intercalate]
  induction tokens with
  | nil => exact tokens?_nil
  | cons token tokens ih =>
    obtain ⟨first, others⟩ := List.forall_mem_cons.mp writable
    have writes := Token.writes_text first
    cases tokens with
    | nil =>
      have alone := tokens?_mark writes fun _ => Text.noDigitNext_nil
      simpa using alone
    | cons next tokens =>
      -- A space stands behind the token, so no digit goes on from it.
      have gap : Text.isBlank ' ' = true := by decide
      have apart (rest : List Char) : Text.NoDigitNext (' ' :: rest) :=
        Text.noDigitNext_cons.mpr (by decide)
      have space : " ".toList = [' '] := rfl
      have later := ih others
      simp only [List.map_cons, space] at later ⊢
      rw [List.intercalate_cons_cons, List.append_assoc, List.singleton_append,
        tokens?_mark writes fun _ => apart _, tokens?_blank gap, later]
      rfl

/-- **Scanning what was printed.** The scan succeeds, with the tokens that were printed and the end
of the input. -/
theorem exists_scan_spaced {tokens : List Token}
    (writable : ∀ token ∈ tokens, token.IsWritable) :
    ∃ row, scan (Token.spaced tokens) = .ok row ∧
      row.toList.map Lexeme.token = tokens ++ [.endOfInput] := by
  obtain ⟨row, scanned, rfl⟩ := tokens?_eq_some_iff.mp (tokens?_spaced writable)
  exact ⟨row, scanned, by simp [toList, Lexemes.tokens, Lexeme.tokens, Lexeme.atEnd]⟩

end Lexemes

/-- A text printed anew from its tokens, if it can be cut into lexemes. -/
def Text.respaced (text : String) : Except ScanFault String :=
  (Lexemes.scan text).map fun row => Token.spaced row.tokens

section Respaced

variable {text shown : String}

/-- A text that is printed anew keeps its tokens. -/
theorem tokens?_of_respaced (printed : Text.respaced text = .ok shown) :
    ∃ row, Lexemes.scan text = .ok row ∧ shown = Token.spaced row.tokens ∧
      Lexemes.tokens? shown.toList = some row.tokens := by
  unfold Text.respaced at printed
  cases scanned : Lexemes.scan text with
  | error stop =>
    rw [scanned] at printed
    cases printed
  | ok row =>
    rw [scanned] at printed
    cases printed
    exact ⟨row, rfl, rfl, Lexemes.tokens?_spaced (Lexemes.isWritable_of_scan scanned)⟩

/-- Printing a text again changes nothing more. -/
theorem respaced_of_respaced (printed : Text.respaced text = .ok shown) :
    Text.respaced shown = .ok shown := by
  obtain ⟨row, -, rfl, known⟩ := tokens?_of_respaced printed
  obtain ⟨again, scanned, same⟩ := Lexemes.tokens?_eq_some_iff.mp known
  rw [Text.respaced, scanned, ← same]
  rfl

/-- The grammar looks at the tokens only. -/
theorem treeOf_eq_ok_iff_of_respaced (printed : Text.respaced text = .ok shown) {tree : Tree} :
    treeOf shown = .ok tree ↔ treeOf text = .ok tree := by
  obtain ⟨row, scanned, -, known⟩ := tokens?_of_respaced printed
  have known_before : Lexemes.tokens? text.toList = some row.tokens :=
    Lexemes.tokens?_eq_some_iff.mpr ⟨row, scanned, rfl⟩
  rw [treeOf_eq_ok_iff_tokens?, treeOf_eq_ok_iff_tokens?, known, known_before]

/-- A text and its print have the same value. -/
theorem valueOf_eq_ok_iff_of_respaced (printed : Text.respaced text = .ok shown)
    {value : Float} : valueOf shown = .ok value ↔ valueOf text = .ok value := by
  simp only [valueOf_eq_ok_iff, treeOf_eq_ok_iff_of_respaced printed]

end Respaced

/-- **Printing and scanning.** Printed with single spaces, tokens other than the end of the input
and negative numbers are scanned as these tokens and the end of the input. Hence a text that can be
cut into lexemes may be printed anew from its tokens: to do so twice changes nothing more, and what
is printed has a number and a tree exactly if the text has, and the same. -/
theorem Token.scan_spaced_and_meaning :
    (∀ tokens : List Token, (∀ token ∈ tokens, token.IsWritable) →
      ∃ row, Lexemes.scan (Token.spaced tokens) = .ok row ∧
        row.toList.map Lexeme.token = tokens ++ [.endOfInput]) ∧
    ∀ text row, Lexemes.scan text = .ok row → ∃ shown, Text.respaced text = .ok shown ∧
      Text.respaced shown = .ok shown ∧
      (∀ value, valueOf shown = .ok value ↔ valueOf text = .ok value) ∧
      ∀ tree, treeOf shown = .ok tree ↔ treeOf text = .ok tree := by
  refine ⟨fun tokens writable => Lexemes.exists_scan_spaced writable, ?_⟩
  intro text row scanned
  have printed : Text.respaced text = .ok (Token.spaced row.tokens) := by
    rw [Text.respaced, scanned]
    rfl
  exact ⟨_, printed, respaced_of_respaced printed,
    fun _ => valueOf_eq_ok_iff_of_respaced printed, fun _ => treeOf_eq_ok_iff_of_respaced printed⟩

/-- The largest number keeps all its digits. -/
example :
    Token.spaced [.number 9223372036854775807, .operator .div, .closeParen, .number 0] =
      "9223372036854775807 ÷ ) 0" := by
  decide

end Reckoner
