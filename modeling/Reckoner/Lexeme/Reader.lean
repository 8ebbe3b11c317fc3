import Reckoner.Lexeme.Scan

/-! # Reading lexemes with a cursor

A reader has a row of lexemes that stays as it is, and a cursor that moves to the right, at most to
the end of the input. A lexeme that was taken can be put back once, as long as nothing has been
taken or skipped since. Nothing in a reader keeps its cursor inside its row, so that a lexeme is
looked up in vain where the cursor is too far (`look?_eq_none_iff`) and the request breaks off.
-/

namespace Reckoner

/-- A reader of lexemes: how many it has passed, and where the one stands that was taken last, as
long as it can be put back. -/
structure Reader where
  lexemes : List Lexeme
  cursor : Nat
  lastTaken : Option Nat
  deriving DecidableEq, Repr

namespace Reader

/-- Why a reader does not put back: nothing was taken since it last moved otherwise. -/
inductive Refusal where
  | nothingTaken
  deriving DecidableEq, Repr

/-- What a user is told who puts back too much. -/
def Refusal.message : Refusal → String
  | .nothingTaken => "pushback without a preceding read"

/-- A reader at the start of a row. -/
def ofLexemes (row : Lexemes) : Reader :=
  ⟨row.toList, 0, none⟩

/-- A reader at the start of a text. -/
def ofText (text : String) : Except ScanFault Reader :=
  (Lexemes.scan text).map ofLexemes

/-- How many lexemes have a token of some kind, whatever has been read of them. -/
def count (reader : Reader) (kind : Token → Bool) : Nat :=
  reader.lexemes.countP fun lexeme => kind lexeme.token

/-- The lexeme at the cursor, without passing it. -/
def look? (reader : Reader) : Option Lexeme :=
  reader.lexemes[reader.cursor]?

/-- Whether the end of the input is at the cursor. -/
def atEnd? (reader : Reader) : Option Bool := do
  let next ← reader.look?
  return next.token.isEnd

/-- Moves the cursor on, unless it is at the end of the input. -/
def step? (reader : Reader) : Option Reader := do
  if ← reader.atEnd? then
    return reader
  else
    return { reader with cursor := reader.cursor + 1 }

/-- Passes the next lexeme for good. -/
def skip? (reader : Reader) : Option Reader :=
  { reader with lastTaken := none }.step?

/-- Passes the next lexeme so that it can be put back. -/
def take? (reader : Reader) : Option (Lexeme × Reader) := do
  let index := reader.cursor
  let moved ← reader.step?
  let taken := { moved with lastTaken := some index }
  let lexeme ← taken.lexemes[index]?
  return (lexeme, taken)

/-- Returns to where the last lexeme was taken, and forgets it. -/
def putBack (reader : Reader) : Except Refusal Unit × Reader :=
  let forgetful := { reader with lastTaken := none }
  match reader.lastTaken with
  | some index => (.ok (), { forgetful with cursor := index })
  | none => (.error .nothingTaken, forgetful)

/-- A lexeme is looked up in vain exactly if the cursor is behind all of them. -/
theorem look?_eq_none_iff {reader : Reader} :
    reader.look? = none ↔ reader.lexemes.length ≤ reader.cursor :=
  List.getElem?_eq_none_iff

/-! ## Requests -/

/-- What a reader can be asked. -/
inductive Request where
  | take
  | look
  | skip
  | putBack
  | texts
  | count (kind : Token → Bool)

/-- What a reader answers. -/
inductive Reply where
  | lexeme (lexeme : Lexeme)
  | done
  | refused (refusal : Refusal)
  | texts (texts : List String)
  | count (count : Nat)

/-- The answer to a request, and the reader afterwards. There is none if a lexeme is looked up in
vain. -/
def respond? (reader : Reader) : Request → Option (Reply × Reader)
  | .take => do
    let (lexeme, next) ← reader.take?
    return (.lexeme lexeme, next)
  | .look => do
    let lexeme ← reader.look?
    return (.lexeme lexeme, reader)
  | .skip => do
    let next ← reader.skip?
    return (.done, next)
  | .putBack =>
    match reader.putBack with
    | (.ok (), next) => some (.done, next)
    | (.error refusal, next) => some (.refused refusal, next)
  | .texts => some (.texts (reader.lexemes.map fun lexeme => lexeme.token.text), reader)
  | .count kind => some (.count (reader.count kind), reader)

/-- The answers to requests made one after the other, each with the reader as it left it. -/
def replies? (reader : Reader) : List Request → Option (List (Reply × Reader))
  | [] => some []
  | request :: requests => do
    let response ← reader.respond? request
    let later ← response.2.replies? requests
    return response :: later

end Reader

end Reckoner
