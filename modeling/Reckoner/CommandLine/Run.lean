import Reckoner.CommandLine.Report
import Reckoner.Journal

/-! # A run of the calculator

Expressions are the lines of a file if one is named, else the arguments if there are any, else the
lines of the standard input. Those that hold only blanks are skipped. A run reads the expressions,
answers each of them on its own, and reports at the end how many have a fault. What it prints,
records and returns is a value that depends on nothing but the options, the files and the standard
input.
-/

namespace Reckoner

/-! ## Where expressions come from -/

/-- What a run is asked for: expressions, a file to read them from, whether trees are shown and
whether the journal is. -/
structure Options where
  expressions : List String
  file : Option String
  tree : Bool
  verbose : Bool
  deriving DecidableEq, Repr

/-- Where the expressions come from. -/
inductive Source where
  | file (path : String)
  | arguments (texts : List String)
  | standardInput
  deriving DecidableEq, Repr

/-- Why there are no expressions. -/
inductive SourceFault where
  /-- The file is missing, or its content is no text. -/
  | unreadableFile (path : String)
  | unreadableInput
  deriving DecidableEq, Repr

/-- What a user is told. -/
def SourceFault.message : SourceFault → String
  | .unreadableFile path => "could not read " ++ path
  | .unreadableInput => "could not read stdin"

/-- What a program finds when it starts: the content of the files that exist, and the bytes of its
standard input. -/
structure Surroundings where
  file? : String → Option ByteArray
  input : ByteArray

/-- The source that the options choose. -/
def Options.source (options : Options) : Source :=
  match options.file, options.expressions with
  | some path, _ => .file path
  | none, [] => .standardInput
  | none, texts => .arguments texts

namespace Options

variable {options : Options}

/-- A file that is named is preferred to everything else. -/
theorem source_of_file {path : String} (named : options.file = some path) :
    options.source = .file path := by
  simp only [source, named]

/-- Without a file, the expressions among the arguments are used. -/
theorem source_of_arguments (unnamed : options.file = none) (given : options.expressions ≠ []) :
    options.source = .arguments options.expressions := by
  cases texts : options.expressions with
  | nil => exact absurd texts given
  | cons first rest => simp only [source, unnamed, texts]

/-- Without either, the standard input is read. -/
theorem source_of_neither (unnamed : options.file = none) (bare : options.expressions = []) :
    options.source = .standardInput := by
  simp only [source, unnamed, bare]

end Options

namespace Source

/-- The texts of a source, blank ones included. -/
def candidates (surroundings : Surroundings) : Source → Except SourceFault (List String)
  | .file path =>
    match (surroundings.file? path).bind Text.Lines.ofContent? with
    | some lines => .ok lines
    | none => .error (.unreadableFile path)
  | .arguments texts => .ok texts
  | .standardInput =>
    match Text.Lines.ofStream? surroundings.input with
    | some lines => .ok lines
    | none => .error .unreadableInput

/-- The expressions of a source. -/
def expressions (source : Source) (surroundings : Surroundings) :
    Except SourceFault (List String) :=
  (source.candidates surroundings).map (List.filter fun text => !(Text.trimmed text).isEmpty)

end Source

/-! ## What a run does -/

/-- What a run leaves behind: its exit status, what it printed, the reports and the records made
on the way, and the closing message of a run that failed. -/
structure Completion where
  status : Nat
  output : String
  reports : List Report
  records : List Record
  summary : Option String
  deriving DecidableEq, Repr

namespace Completion

/-- A run that stopped for a reason. -/
def failing (status : Nat) (summary : Option String) : Completion :=
  ⟨status, "", [], [], summary⟩

/-- What is recorded when an expression is answered. -/
def recordsOf (text : String) (showTree : Bool) : List Record :=
  match valueOf text with
  | .ok _ => Journal.ofValue text ++ if showTree then Journal.ofTree text else []
  | .error _ => Journal.ofValue text

/-- Answers the expressions in order. One that has a fault prints nothing and stops nothing. -/
def ofExpressions (texts : List String) (showTree verbose : Bool) : Completion :=
  let answers := texts.map fun text => Answer.ofText text showTree
  let reports := answers.filterMap Answer.report?
  let started : Record :=
    ⟨.info, .commandLine, "evaluating " ++ toString texts.length ++ " expressions"⟩
  let records := started :: texts.flatMap fun text => recordsOf text showTree
  { status := if reports.isEmpty then 0 else 1
    output := String.join (answers.map Answer.output)
    reports := reports
    records := if verbose then Journal.upTo .debug records else []
    summary :=
      if reports.isEmpty then none
      else some (toString reports.length ++ " of " ++ toString texts.length ++
        " expressions failed") }

/-- A run with given options. -/
def ofOptions (options : Options) (surroundings : Surroundings) : Completion :=
  match options.source.expressions surroundings with
  | .ok texts => ofExpressions texts options.tree options.verbose
  | .error fault => failing 1 (some fault.message)

end Completion

end Reckoner
