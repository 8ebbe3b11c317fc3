import Reckoner.CommandLine.Run

/-! # Command-line arguments

Options begin with one hyphen, where several letters may share it, or with two; everything else is
an expression. Arguments are taken from the left, and the first one that ends the matter does:
a question for the version or for help, or a misuse. This is the outer layer of the program. What a
run does is decided by its `Options`, from whatever arguments these were read.
-/

namespace Reckoner

/-- What is to be done. -/
inductive Invocation where
  | run (options : Options)
  | version
  | help
  /-- The arguments break the rules. -/
  | misuse
  deriving DecidableEq, Repr

namespace Options

/-- The options before any argument. -/
def initial : Options :=
  ⟨[], none, false, false⟩

/-- What one argument leads to. -/
inductive Effect where
  | next (options : Options)
  /-- The file named by the next argument is still missing. -/
  | awaitFile (options : Options)
  | finish (invocation : Invocation)
  deriving DecidableEq, Repr

/-- Names the file, which may be done once. -/
def setFile (options : Options) (path : String) : Effect :=
  if options.file.isSome then .finish .misuse else .next { options with file := some path }

/-- Leaves the file to the next argument, which may be done once. -/
def expectFile (options : Options) : Effect :=
  if options.file.isSome then .finish .misuse else .awaitFile options

/-- Asks for trees, which may be done once. -/
def setTree (options : Options) : Effect :=
  if options.tree then .finish .misuse else .next { options with tree := true }

/-- Asks for the journal, which may be done once. -/
def setVerbose (options : Options) : Effect :=
  if options.verbose then .finish .misuse else .next { options with verbose := true }

/-- Takes an expression. -/
def addExpression (options : Options) (text : String) : Options :=
  { options with expressions := options.expressions ++ [text] }

/-- An option written out after two hyphens. Only the file takes a value after an equals sign. -/
def long (options : Options) (name : List Char) (value? : Option (List Char)) : Effect :=
  match String.ofList name, value? with
  | "file", some value => options.setFile (String.ofList value)
  | "file", none => options.expectFile
  | "tree", none => options.setTree
  | "verbose", none => options.setVerbose
  | "version", none => .finish .version
  | "help", none => .finish .help
  | _, _ => .finish .misuse

/-- The letters after one hyphen. The letter of the file takes all that follows as its value,
an equals sign in front of it dropped. -/
def short (options : Options) : List Char → Effect
  | [] => .next options
  | 't' :: rest =>
    match options.setTree with
    | .next options => options.short rest
    | effect => effect
  | 'v' :: rest =>
    match options.setVerbose with
    | .next options => options.short rest
    | effect => effect
  | 'V' :: _ => .finish .version
  | 'h' :: _ => .finish .help
  | ['f'] => options.expectFile
  | 'f' :: '=' :: value => options.setFile (String.ofList value)
  | 'f' :: value => options.setFile (String.ofList value)
  | _ :: _ => .finish .misuse

/-- What an argument leads to; a lone hyphen is an expression. -/
def argument (options : Options) (text : String) : Effect :=
  match text.toList with
  | '-' :: '-' :: name =>
    match name.dropWhile (· ≠ '=') with
    | [] => options.long name none
    | _ :: value => options.long (name.takeWhile (· ≠ '=')) (some value)
  | '-' :: c :: rest => options.short (c :: rest)
  | _ => .next (options.addExpression text)

/-- Whether an argument can be the value of the option before it. -/
def isValue (text : String) : Bool :=
  match text.toList with
  | '-' :: _ :: _ => false
  | _ => true

/-- Takes arguments one after the other. After two hyphens alone, all are expressions. -/
def readFrom (options : Options) : List String → Invocation
  | [] => .run options
  | text :: rest =>
    if text = "--" then .run { options with expressions := options.expressions ++ rest }
    else
      match options.argument text with
      | .next options => options.readFrom rest
      | .finish invocation => invocation
      | .awaitFile options =>
        match rest with
        | [] => .misuse
        | path :: rest =>
          if isValue path then { options with file := some path }.readFrom rest else .misuse

/-- Reads a whole command line. -/
def read (arguments : List String) : Invocation :=
  readFrom initial arguments

example : read ["-tf", "in.txt", "1"] = .run ⟨["1"], some "in.txt", true, false⟩ := by
  decide +kernel

example : read ["0 - 1", "--", "-t"] = .run ⟨["0 - 1", "-t"], none, false, false⟩ := by
  decide +kernel

end Options

namespace Completion

/-- A run that only prints. -/
def printing (output : String) : Completion :=
  ⟨0, output, [], [], none⟩

/-- What the version option prints. -/
def versionText : String :=
  "calculator 0.1.0\n"

/-- What the help option prints. -/
def helpText : String :=
  String.join
    ["Evaluates arithmetic over + - x ÷ and parentheses\n",
      "\n",
      "Usage: calculator [OPTIONS] [EXPRESSIONS]...\n",
      "\n",
      "Arguments:\n",
      "  [EXPRESSIONS]...  Expressions to evaluate. Read from stdin, one per line, when none ",
      "are given\n",
      "\n",
      "Options:\n",
      "  -f, --file <FILE>  Evaluate every non-blank line of a file\n",
      "  -t, --tree         Also print the fully parenthesized form\n",
      "  -v, --verbose      \n",
      "  -h, --help         Print help\n",
      "  -V, --version      Print version\n"]

/-- A run with given arguments. -/
def ofArguments (arguments : List String) (surroundings : Surroundings) : Completion :=
  match Options.read arguments with
  | .run options => ofOptions options surroundings
  | .version => printing versionText
  | .help => printing helpText
  | .misuse => failing 2 none

end Completion

end Reckoner
