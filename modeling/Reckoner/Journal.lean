import Reckoner.Meaning

/-! # The journal

What is recorded while a text is read: how many lexemes it has, every operator applied on the way
to its value, and how the reading ended. A record has a level, and a threshold keeps those that
are important enough.
-/

namespace Reckoner

/-- How important a record is, or how much is kept: traces only at the level of traces. -/
inductive Level where
  | info
  | debug
  | trace
  deriving DecidableEq, Repr

/-- The more detailed a level is, the higher it ranks. -/
def Level.rank : Level → Nat
  | .info => 0
  | .debug => 1
  | .trace => 2

/-- What a record comes from. -/
inductive Origin where
  | scan
  | reading
  | commandLine
  deriving DecidableEq, Repr

/-- One entry of the journal. -/
structure Record where
  level : Level
  origin : Origin
  message : String
  deriving DecidableEq, Repr

namespace Record

/-- A text was cut into lexemes, the end of the input among them. -/
def scanned (text : String) (row : Lexemes) : Record :=
  ⟨.debug, .scan,
    "scanned " ++ toString row.size ++ " tokens from " ++ Text.Quoted.text text⟩

/-- An operator was applied to two numbers. -/
def computed (step : Step Float) : Record :=
  ⟨.trace, .reading, step.text⟩

/-- A reading ended. -/
def ended {α : Type} (text : String) : Except Fault α → Record
  | .ok _ => ⟨.debug, .reading, "parsed " ++ Text.Quoted.text text⟩
  | .error fault =>
    ⟨.debug, .reading, "failed to parse " ++ Text.Quoted.text text ++ ": " ++ fault.message⟩

end Record

namespace Journal

/-- The records of cutting a text into lexemes. A scan that fails leaves none. -/
def ofScan (text : String) : List Record :=
  match Lexemes.scan text with
  | .ok row => [.scanned text row]
  | .error _ => []

/-- The records of reading a text, with some records for every step. -/
def ofReading {α : Type} (algebra : Algebra α) (ofStep : Step α → List Record) (text : String) :
    List Record :=
  match Lexemes.scan text with
  | .ok row =>
    let outcome := row.read algebra
    .scanned text row :: (outcome.steps.flatMap ofStep ++ [.ended text outcome.result])
  | .error _ => []

/-- The records of reading a text as a number. -/
def ofValue (text : String) : List Record :=
  ofReading .value (fun step => [.computed step]) text

/-- The records of reading a text as a tree: nothing is computed. -/
def ofTree (text : String) : List Record :=
  ofReading .tree (fun _ => []) text

/-- The records that a threshold keeps. -/
def upTo (threshold : Level) (records : List Record) : List Record :=
  records.filter fun record => record.level.rank ≤ threshold.rank

/-- At the level of traces everything is kept. -/
@[simp]
theorem upTo_trace (records : List Record) : upTo .trace records = records := by
  rw [upTo, List.filter_eq_self]
  intro record _
  cases h : record.level <;> simp [Level.rank]

/-- The traces are the steps towards the value of a text, in the order in which they were made. -/
theorem trace_ofValue (text : String) :
    (ofValue text).filter (fun record => record.level = .trace) =
      (readText .value text).steps.map Record.computed := by
  unfold ofValue ofReading readText
  cases Lexemes.scan text with
  | error fault => rfl
  | ok row =>
    have closing (result : Except Fault Float) : (Record.ended text result).level = .debug := by
      cases result <;> rfl
    simp [Record.scanned, Record.computed, closing, ← List.map_eq_flatMap,
      List.filter_eq_self.mpr]

end Journal

end Reckoner
