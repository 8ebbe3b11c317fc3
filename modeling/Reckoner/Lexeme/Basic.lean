import Reckoner.Location
import Reckoner.Operator

/-! # Tokens and lexemes

A token is what a mark in an expression means; a lexeme is a token together with the place and
the characters that wrote it. A text is read as a row of lexemes and the location where the text
ends. The statement `ofSymbol?_eq_some_iff` says which tokens are written by a single character.
-/

namespace Reckoner

/-- The meaning of one mark of an expression. Numbers are signed 64-bit integers; the end of the
input counts as a token, so that it can be what a reader found. -/
inductive Token where
  | number (value : Int64)
  | operator (op : Operator)
  | openParen
  | closeParen
  | endOfInput
  deriving DecidableEq, Repr

namespace Token

/-- What a token carries: a number, or the character that writes it. -/
inductive Content where
  | integer (value : Int64)
  | mark (symbol : Char)
  deriving DecidableEq, Repr

/-- The content of a token. Only the end of the input has none. -/
def content? : Token → Option Content
  | .number value => some (.integer value)
  | .operator op => some (.mark op.symbol)
  | .openParen => some (.mark '(')
  | .closeParen => some (.mark ')')
  | .endOfInput => none

/-- Whether a token is the end of the input. -/
def isEnd : Token → Bool
  | .endOfInput => true
  | _ => false

/-- The operator of a token, if it is one of some level. -/
def operatorAt? (level : Precedence) : Token → Option Operator
  | .operator op => if op.precedence = level then some op else none
  | _ => none

/-- How messages name a token. -/
def text : Token → String
  | .number value => toString value.toInt
  | .operator op => op.text
  | .openParen => "("
  | .closeParen => ")"
  | .endOfInput => "end of input"

/-- The token that one character other than a digit writes. -/
def ofSymbol? (c : Char) : Option Token :=
  match Operator.ofSymbol? c with
  | some op => some (.operator op)
  | none =>
    if c = '(' then some .openParen
    else if c = ')' then some .closeParen
    else none

/-- The operator that a token has at a level is the one that it is. -/
theorem operatorAt?_eq_some_iff {level : Precedence} {token : Token} {op : Operator} :
    token.operatorAt? level = some op ↔ token = .operator op ∧ op.precedence = level := by
  cases token with
  | operator other =>
    simp only [operatorAt?, Option.ite_none_right_eq_some, Option.some.injEq, operator.injEq]
    constructor
    · rintro ⟨same, rfl⟩
      exact ⟨rfl, same⟩
    · rintro ⟨rfl, same⟩
      exact ⟨same, rfl⟩
  | _ => simp [operatorAt?]

/-- Only one token is the end of the input. -/
@[simp]
theorem isEnd_iff {token : Token} : token.isEnd = true ↔ token = .endOfInput := by
  cases token <;> simp [isEnd]

/-- A single character writes a token exactly when the token carries that character. -/
theorem ofSymbol?_eq_some_iff {c : Char} {token : Token} :
    ofSymbol? c = some token ↔ token.content? = some (.mark c) := by
  cases found : Operator.ofSymbol? c with
  | some op =>
    have known := Operator.ofSymbol?_eq_some_iff.mp found
    subst known
    cases token with
    | operator other =>
      simp only [ofSymbol?, found, content?, Option.some.injEq, operator.injEq,
        Content.mark.injEq]
      exact ⟨fun same => same ▸ rfl, fun same => (Operator.symbol_injective same).symm⟩
    | openParen => cases op <;> decide
    | closeParen => cases op <;> decide
    | number value => simp [ofSymbol?, content?, found]
    | endOfInput => simp [ofSymbol?, content?, found]
  | none =>
    have unwritten : ∀ op : Operator, c ≠ op.symbol := by
      intro op written
      rw [Operator.ofSymbol?_eq_some_iff.mpr written] at found
      cases found
    cases token with
    | operator op => grind [ofSymbol?, content?]
    | openParen => grind [ofSymbol?, content?]
    | closeParen => grind [ofSymbol?, content?]
    | number value => grind [ofSymbol?, content?]
    | endOfInput => grind [ofSymbol?, content?]

end Token

/-- A token where it stands in a text, with the characters that wrote it. -/
structure Lexeme where
  token : Token
  location : Location
  raw : String
  deriving DecidableEq, Repr

namespace Lexeme

/-- The end of a text, which no character writes. -/
def atEnd (location : Location) : Lexeme :=
  ⟨.endOfInput, location, ""⟩

/-- The tokens of a row without their places. -/
def tokens (row : List Lexeme) : List Token :=
  row.map Lexeme.token

@[simp]
theorem tokens_nil : tokens [] = [] :=
  rfl

@[simp]
theorem tokens_cons (lexeme : Lexeme) (row : List Lexeme) :
    tokens (lexeme :: row) = lexeme.token :: tokens row :=
  rfl

/-- The tokens of two rows come one after the other. -/
@[simp]
theorem tokens_append (first second : List Lexeme) :
    tokens (first ++ second) = tokens first ++ tokens second := by
  simp [tokens]

/-- Each lexeme has one token. -/
@[simp]
theorem length_tokens (row : List Lexeme) : (tokens row).length = row.length := by
  simp [tokens]

end Lexeme

/-- A text as its marks: the lexemes in order, and the location where the text ends. -/
structure Lexemes where
  body : List Lexeme
  finish : Location
  deriving DecidableEq, Repr

namespace Lexemes

/-- All lexemes, the end of the input last. -/
def toList (row : Lexemes) : List Lexeme :=
  row.body ++ [Lexeme.atEnd row.finish]

/-- The tokens in front of the end. -/
def tokens (row : Lexemes) : List Token :=
  Lexeme.tokens row.body

/-- How many lexemes there are, the end of the input included. -/
def size (row : Lexemes) : Nat :=
  row.body.length + 1

/-- How many lexemes of the body have a token of some kind. -/
def count (row : Lexemes) (kind : Token → Bool) : Nat :=
  row.body.countP fun lexeme => kind lexeme.token

/-- Counting lexemes is counting their tokens. -/
theorem count_eq_countP (row : Lexemes) (kind : Token → Bool) :
    row.count kind = row.tokens.countP kind := by
  rw [tokens, Lexeme.tokens, List.countP_map]
  rfl

/-- A row has as many tokens as lexemes in front of its end. -/
theorem length_tokens (row : Lexemes) : row.tokens.length = row.body.length :=
  Lexeme.length_tokens row.body

/-- As a list, a row has its end in addition. -/
@[simp]
theorem length_toList (row : Lexemes) : row.toList.length = row.size := by
  simp [toList, size]

end Lexemes

end Reckoner
