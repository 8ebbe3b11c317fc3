import Reckoner.Proofs.Reading.Depth
import Reckoner.Proofs.Scanning.Tokens

/-! # The parentheses of a text

Numbers apart, the tokens of a text are what its characters write one by one
(`Lexemes.filter_isMark_of_tokens?`). So a text has the parentheses of its tokens, in the same
order, and its depth can be read off its characters (`Text.nestedWithin_iff`).
-/

namespace Reckoner

/-- Whether a token is written by one character. -/
def Token.isMark : Token → Bool
  | .operator _ | .openParen | .closeParen => true
  | .number _ | .endOfInput => false

/-- A single character writes an operator or a parenthesis. -/
theorem Token.isMark_of_ofSymbol? {c : Char} {token : Token} (known : ofSymbol? c = some token) :
    token.isMark = true := by
  have carried := ofSymbol?_eq_some_iff.mp known
  cases token <;> simp_all [content?, isMark]

/-- A blank writes no token. -/
theorem Token.ofSymbol?_eq_none_of_isBlank {c : Char} (separates : Text.isBlank c = true) :
    ofSymbol? c = none := by
  cases known : ofSymbol? c with
  | none => rfl
  | some token => simp [isBlank_eq_false_of_ofSymbol? known] at separates

/-- A digit writes no token alone. -/
theorem Token.ofSymbol?_eq_none_of_isDigit {c : Char} (digit : c.isDigit = true) :
    ofSymbol? c = none := by
  cases known : ofSymbol? c with
  | none => rfl
  | some token => simp [isDigit_eq_false_of_ofSymbol? known] at digit

/-- Digits are skipped where symbols are collected. -/
theorem Token.filterMap_ofSymbol?_of_isDigit {digits : List Char}
    (decimal : ∀ c ∈ digits, c.isDigit = true) : digits.filterMap ofSymbol? = [] :=
  List.filterMap_eq_nil_iff.mpr fun c inside => ofSymbol?_eq_none_of_isDigit (decimal c inside)

/-- So are blanks. -/
theorem Token.filterMap_ofSymbol?_of_isBlank {lead : List Char}
    (separates : ∀ c ∈ lead, Text.isBlank c = true) : lead.filterMap ofSymbol? = [] :=
  List.filterMap_eq_nil_iff.mpr fun c inside => ofSymbol?_eq_none_of_isBlank (separates c inside)

/-- What writes a token writes this mark or, if the token is a number, no mark. -/
theorem Writes.filterMap_ofSymbol? {raw : List Char} {token : Token} (writes : Writes raw token) :
    raw.filterMap Token.ofSymbol? = [token].filter Token.isMark := by
  rcases writes.symbol_or_literal with ⟨c, rfl, known⟩ | ⟨value, rfl, -, digits, -⟩
  · rw [List.filterMap_cons_some known, List.filter_cons_of_pos (Token.isMark_of_ofSymbol? known)]
    rfl
  · rw [Token.filterMap_ofSymbol?_of_isDigit digits]
    rfl

/-- **Marks.** What is left of the tokens of a text without its numbers is what the characters of
the text write. -/
theorem Lexemes.filter_isMark_of_tokens? {text : List Char} {tokens : List Token}
    (known : tokens? text = some tokens) :
    tokens.filter Token.isMark = text.filterMap Token.ofSymbol? := by
  induction text using Text.pieceInduction generalizing tokens with
  | empty =>
    rw [tokens?_nil] at known
    cases known
    rfl
  | blank c rest separates ih =>
    rw [tokens?_blank separates] at known
    rw [ih known, List.filterMap_cons_none (Token.ofSymbol?_eq_none_of_isBlank separates)]
  | run digits rest run ih =>
    rw [tokens?_run run] at known
    obtain ⟨value, -, known⟩ := Option.bind_eq_some_iff.mp known
    obtain ⟨others, later, rfl⟩ := Option.map_eq_some_iff.mp known
    rw [List.filter_cons_of_neg (by simp [Token.isMark]), ih later, List.filterMap_append,
      Token.filterMap_ofSymbol?_of_isDigit run.digits, List.nil_append]
  | symbol c rest token written ih =>
    rw [tokens?_symbol written] at known
    obtain ⟨others, later, rfl⟩ := Option.map_eq_some_iff.mp known
    rw [List.filter_cons_of_pos (Token.isMark_of_ofSymbol? written), ih later,
      List.filterMap_cons_some written]
  | foreign c rest solid other unknown =>
    rw [tokens?_foreign solid other unknown] at known
    cases known

/-- The character that writes a token writes it wherever it stands, and no other does. -/
theorem Token.count_filterMap_ofSymbol? {c : Char} {token : Token}
    (written : ofSymbol? c = some token) (text : List Char) :
    (text.filterMap ofSymbol?).count token = text.count c := by
  have only (other : Char) : (ofSymbol? other == some token) = (other == c) := by
    rw [Bool.eq_iff_iff, beq_iff_eq, beq_iff_eq]
    constructor
    · intro same
      have carried := ofSymbol?_eq_some_iff.mp same
      rw [ofSymbol?_eq_some_iff.mp written] at carried
      simpa using carried.symm
    · rintro rfl
      exact written
  rw [List.count_filterMap, List.count]
  exact List.countP_congr fun other _ => by rw [only]

/-- A token that one character writes is as frequent as this character. -/
theorem Lexemes.count_of_tokens? {text : List Char} {tokens : List Token}
    (known : tokens? text = some tokens) {c : Char} {token : Token}
    (written : Token.ofSymbol? c = some token) : tokens.count token = text.count c := by
  rw [← List.count_filter (Token.isMark_of_ofSymbol? written), filter_isMark_of_tokens? known,
    Token.count_filterMap_ofSymbol? written]

/-- Numbers have no part in the surplus. -/
theorem surplus_filter_isMark (tokens : List Token) :
    surplus (tokens.filter Token.isMark) = surplus tokens := by
  rw [surplus, surplus, List.count_filter rfl, List.count_filter rfl]

namespace Text

/-- How many more parentheses some characters open than they close. -/
def surplus (text : List Char) : Int :=
  text.count '(' - text.count ')'

/-- No beginning of the text leaves more than `limit` parentheses open. -/
def NestedWithin (limit : Nat) (text : List Char) : Prop :=
  ∀ before : List Char, before <+: text → surplus before ≤ limit

@[simp]
theorem surplus_nil : surplus [] = 0 :=
  rfl

/-- The surplus of a text is that of its parts. -/
@[simp]
theorem surplus_append (first second : List Char) :
    surplus (first ++ second) = surplus first + surplus second := by
  simp only [surplus, List.count_append]
  omega

/-- The parentheses of some characters are those that they write. -/
theorem surplus_eq (text : List Char) :
    surplus text = Reckoner.surplus (text.filterMap Token.ofSymbol?) := by
  have opening : Token.ofSymbol? '(' = some .openParen := Token.ofSymbol?_eq_some_iff.mpr rfl
  have closing : Token.ofSymbol? ')' = some .closeParen := Token.ofSymbol?_eq_some_iff.mpr rfl
  rw [surplus, Reckoner.surplus, Token.count_filterMap_ofSymbol? opening,
    Token.count_filterMap_ofSymbol? closing]

/-- No blank is a parenthesis. -/
theorem notMem_of_blanks {lead : List Char} (separates : ∀ c ∈ lead, isBlank c = true) :
    '(' ∉ lead := fun inside => by
  have blank := separates _ inside
  revert blank
  decide

/-- Blanks have no surplus. -/
theorem surplus_of_blanks {lead : List Char} (separates : ∀ c ∈ lead, isBlank c = true) :
    surplus lead = 0 := by
  rw [surplus_eq, Token.filterMap_ofSymbol?_of_isBlank separates]
  rfl

/-- **Depth.** The parentheses of a text are as deep as those of its tokens. -/
theorem nestedWithin_iff {text : List Char} {tokens : List Token}
    (known : Lexemes.tokens? text = some tokens) {limit : Nat} :
    NestedWithin limit text ↔ Reckoner.NestedWithin limit tokens := by
  have marks := Lexemes.filter_isMark_of_tokens? known
  calc NestedWithin limit text
      ↔ ∀ before, before <+: text.filterMap Token.ofSymbol? →
          Reckoner.surplus before ≤ limit := by
        simp only [NestedWithin, surplus_eq, List.prefix_filterMap_iff]
        exact ⟨fun nested before ⟨row, starts, same⟩ => same ▸ nested row starts,
          fun nested row starts => nested _ ⟨row, starts, rfl⟩⟩
    _ ↔ ∀ before, before <+: tokens.filter Token.isMark →
          Reckoner.surplus before ≤ limit := by rw [marks]
    _ ↔ Reckoner.NestedWithin limit tokens := by
        simp only [Reckoner.NestedWithin, List.prefix_filter_iff]
        constructor
        · intro nested row starts
          rw [← surplus_filter_isMark]
          exact nested _ ⟨row, starts, rfl⟩
        · rintro nested _ ⟨row, starts, rfl⟩
          rw [surplus_filter_isMark]
          exact nested row starts

end Text

/-- A token has the parentheses of the characters that write it. -/
theorem Writes.surplus_eq {raw : List Char} {token : Token} (writes : Writes raw token) :
    Text.surplus raw = Reckoner.surplus [token] := by
  rw [Text.surplus_eq, writes.filterMap_ofSymbol?, surplus_filter_isMark]

end Reckoner
