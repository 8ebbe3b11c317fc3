import Reckoner.CommandLine.Arguments

/-! # The command line

Reads what a run needs from the outside, lets `Reckoner.Completion` decide what the run does, and
prints the result. A file is opened only if it is named, and the standard input is read only if
nothing else gives expressions.
-/

namespace Reckoner.Main

/-- Every byte of a stream up to its end. -/
partial def readAll (stream : IO.FS.Stream) (found : ByteArray) : IO ByteArray := do
  let bytes ← stream.read 65536
  if bytes.isEmpty then
    return found
  readAll stream (found ++ bytes)

/-- The content of a file, unless it cannot be read. -/
def readFile? (path : String) : IO (Option ByteArray) := do
  try
    return some (← IO.FS.readBinFile path)
  catch _ =>
    return none

/-- The part of the surroundings that a source looks at. -/
def surroundingsOf : Source → IO Surroundings
  | .file path => do
    let content ← readFile? path
    return ⟨fun _ => content, .empty⟩
  | .arguments _ => return ⟨fun _ => none, .empty⟩
  | .standardInput => return ⟨fun _ => none, ← readAll (← IO.getStdin) .empty⟩

/-- How a line of the log names where a record was made. -/
def originName : Origin → String
  | .scan => "scan"
  | .reading => "reading"
  | .commandLine => "calculator"

/-- How a line of the log names the level of a record. -/
def levelName : Level → String
  | .info => "INFO"
  | .debug => "DEBUG"
  | .trace => "TRACE"

/-- Prints what a run left behind and returns its exit status. -/
def conclude (completion : Completion) : IO UInt32 := do
  for record in completion.records do
    IO.eprintln ("[" ++ levelName record.level ++ " " ++ originName record.origin ++ "] " ++
      record.message)
  IO.print completion.output
  for report in completion.reports do
    IO.eprintln report.message
  if let some summary := completion.summary then
    IO.eprintln ("Error: " ++ summary)
  else if completion.status ≠ 0 then
    IO.eprint Completion.helpText
  return completion.status.toUInt32

end Reckoner.Main

open Reckoner in
def main (arguments : List String) : IO UInt32 := do
  let surroundings ← match Options.read arguments with
    | .run options => Main.surroundingsOf options.source
    | _ => pure ⟨fun _ => none, .empty⟩
  Main.conclude (Completion.ofArguments arguments surroundings)
