/-! # Locations in a text

A location says how many bytes, lines and columns a reader has passed. Only a line feed starts a
new line, and a column is one character wide. Passing a run of characters adds their bytes to the
offset (`offset_advance`).
-/

namespace Reckoner

/-- A place between two characters of a text: the UTF-8 bytes before it, its line and its
column, both counted from one. -/
structure Location where
  offset : Nat
  line : Nat
  column : Nat
  deriving DecidableEq, Repr

namespace Location

/-- Where every text starts. -/
def start : Location :=
  ⟨0, 1, 1⟩

/-- The location after one more character. -/
def step (here : Location) (c : Char) : Location :=
  if c = '\n' then
    ⟨here.offset + c.utf8Size, here.line + 1, 1⟩
  else
    ⟨here.offset + c.utf8Size, here.line, here.column + 1⟩

/-- The location after a run of characters. -/
def advance (here : Location) (passed : List Char) : Location :=
  passed.foldl step here

/-- A location as messages show it: line, colon, column. -/
def text (here : Location) : String :=
  toString here.line ++ ":" ++ toString here.column

@[simp]
theorem advance_nil (here : Location) : here.advance [] = here :=
  rfl

/-- The first character is passed first. -/
@[simp]
theorem advance_cons (here : Location) (c : Char) (passed : List Char) :
    here.advance (c :: passed) = (here.step c).advance passed :=
  rfl

/-- Two runs of characters are passed one after the other. -/
@[simp]
theorem advance_append (here : Location) (passed more : List Char) :
    here.advance (passed ++ more) = (here.advance passed).advance more := by
  simp [advance]

/-- A character adds its bytes to the offset, also if it is a line feed. -/
@[simp]
theorem offset_step (here : Location) (c : Char) :
    (here.step c).offset = here.offset + c.utf8Size := by
  unfold step
  split <;> rfl

/-- A run of characters adds its bytes to the offset. -/
theorem offset_advance (here : Location) (passed : List Char) :
    (here.advance passed).offset = here.offset + (String.ofList passed).utf8ByteSize := by
  induction passed generalizing here with
  | nil => simp
  | cons c rest ih =>
    rw [advance_cons, ih, offset_step, ← List.singleton_append, String.ofList_append]
    simp [Nat.add_assoc]

end Location

end Reckoner
