import Reckoner.Lexeme.Basic
import Reckoner.Text.Basic
import Reckoner.Text.Quoted

/-! # Scanning a text

A text is cut into lexemes from the left. Blanks separate and are dropped, a run of decimal
digits is one number, and every other character either writes a token alone or stops the scan.
The number of a run is checked after every digit; `Literal.ofDigits?_eq` says that this accepts
exactly the runs whose value as a whole lies below the limit, however many zeros they start with.
-/

namespace Reckoner

/-! ## Integer literals -/

namespace Literal

/-- The least natural number that a signed 64-bit integer cannot hold. -/
def bound : Nat :=
  Int64.size / 2

/-- A number with one more decimal digit on its right, if it stays below the bound. -/
def appendDigit? (value : Nat) (digit : Char) : Option Nat :=
  let grown := 10 * value + (digit.toNat - '0'.toNat)
  if grown < bound then some grown else none

/-- The number that a run of digits writes, if every step towards it stays below the bound. -/
def ofDigits? (digits : List Char) : Option Int64 :=
  (digits.foldlM appendDigit? 0).map Int64.ofNat

/-- Further digits never make a number smaller. -/
theorem le_ofDigitChars (digits : List Char) (value : Nat) :
    value ≤ Nat.ofDigitChars 10 digits value := by
  induction digits generalizing value with
  | nil => simp [Nat.ofDigitChars]
  | cons digit rest ih =>
    rw [Nat.ofDigitChars_cons]
    exact Nat.le_trans (by omega) (ih _)

/-- Checking after every digit is checking once at the end, from any value below the bound. -/
theorem foldlM_appendDigit? (digits : List Char) (value : Nat) (below : value < bound) :
    digits.foldlM appendDigit? value =
      if Nat.ofDigitChars 10 digits value < bound then some (Nat.ofDigitChars 10 digits value)
      else none := by
  induction digits generalizing value with
  | nil => simp [Nat.ofDigitChars, below]
  | cons digit rest ih =>
    rw [List.foldlM_cons, Nat.ofDigitChars_cons]
    by_cases fits : 10 * value + (digit.toNat - '0'.toNat) < bound
    · have grown : appendDigit? value digit = some (10 * value + (digit.toNat - '0'.toNat)) :=
        if_pos fits
      rw [grown, ← ih _ fits]
      rfl
    · have stopped : appendDigit? value digit = none := if_neg fits
      have large := le_ofDigitChars rest (10 * value + (digit.toNat - '0'.toNat))
      rw [stopped, if_neg (by omega)]
      rfl

/-- **Exact range.** A run of digits is a literal exactly when its value lies below the bound. -/
theorem ofDigits?_eq (digits : List Char) :
    ofDigits? digits =
      if Nat.ofDigitChars 10 digits 0 < bound then
        some (Int64.ofNat (Nat.ofDigitChars 10 digits 0))
      else none := by
  rw [ofDigits?, foldlM_appendDigit? digits 0 (by decide)]
  split <;> rfl

end Literal

/-! ## Lexemes -/

/-- Why a text cannot be cut into lexemes. -/
inductive ScanFault where
  /-- A character that begins no token. -/
  | unrecognized (found : Char) (location : Location)
  /-- A run of digits, from its first digit on, whose number needs more than 64 bits. -/
  | literalTooLarge (location : Location)
  deriving DecidableEq, Repr

namespace ScanFault

/-- Where the scan stops. -/
def location : ScanFault → Location
  | .unrecognized _ location => location
  | .literalTooLarge location => location

/-- What a user is told. -/
def message : ScanFault → String
  | .unrecognized found location =>
    String.join ["unrecognized character ", Text.Quoted.char found, " at ", location.text]
  | .literalTooLarge location =>
    String.join ["integer literal at ", location.text, " does not fit in 64 bits"]

end ScanFault

namespace Lexemes

/-- Cuts the text that starts at `here` into lexemes and puts them after those already `found`,
which come latest first. -/
def scanFrom (found : List Lexeme) (here : Location) : List Char → Except ScanFault Lexemes
  | [] => .ok ⟨found.reverse, here⟩
  | c :: rest =>
    if Text.isBlank c then
      scanFrom found (here.step c) rest
    else if c.isDigit then
      let digits := c :: rest.takeWhile Char.isDigit
      match Literal.ofDigits? digits with
      | some value =>
        scanFrom (⟨.number value, here, String.ofList digits⟩ :: found) (here.advance digits)
          (rest.dropWhile Char.isDigit)
      | none => .error (.literalTooLarge here)
    else
      match Token.ofSymbol? c with
      | some token => scanFrom (⟨token, here, c.toString⟩ :: found) (here.step c) rest
      | none => .error (.unrecognized c here)
termination_by text => text.length
decreasing_by
  all_goals simp only [List.length_cons]
  · omega
  · have := (List.dropWhile_sublist (l := rest) Char.isDigit).length_le
    omega
  · omega

/-- Cuts a text into lexemes. -/
def scan (text : String) : Except ScanFault Lexemes :=
  scanFrom [] Location.start text.toList

/-- Lexemes put in front of a row. -/
def prepend (earlier : List Lexeme) (row : Lexemes) : Lexemes :=
  { row with body := earlier ++ row.body }

/-- Lexemes found earlier come first in the row and change nothing else. -/
theorem scanFrom_append (found earlier : List Lexeme) (here : Location) (text : List Char) :
    scanFrom (found ++ earlier) here text =
      (scanFrom found here text).map (prepend earlier.reverse) := by
  fun_induction scanFrom found here text with
  | case1 found here => simp [scanFrom, Except.map, prepend]
  | case2 found here c rest blank ih =>
    rw [scanFrom, if_pos blank, ih]
  | case3 found here c rest solid digit digits value literal ih =>
    rw [scanFrom, if_neg solid, if_pos digit]
    simp only [digits, literal] at ih ⊢
    exact ih
  | case4 found here c rest solid digit digits tooLarge =>
    rw [scanFrom, if_neg solid, if_pos digit]
    simp only [digits] at tooLarge
    simp [tooLarge, Except.map]
  | case5 found here c rest solid digit token known ih =>
    rw [scanFrom, if_neg solid, if_neg digit]
    simp only [known]
    exact ih
  | case6 found here c rest solid digit unknown =>
    rw [scanFrom, if_neg solid, if_neg digit]
    simp [unknown, Except.map]

end Lexemes

end Reckoner
