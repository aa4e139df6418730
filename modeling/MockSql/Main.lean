/-
# The program

The outermost layer: it reads the environment, files and lines, hands them to the library, and
prints what comes back. Serving is announced only, since listening on a network is not part of the
program.
-/

import MockSql.CommandLine

open MockSql

/-- The variables of the environment that hold settings, with their usual spelling. -/
def readEnvironment : IO (Entries String) :=
  Settings.fields.filterMapM fun field => do
    let variableName := (Settings.namespaceMark ++ field).map Char.toUpper
    let value ← IO.getEnv variableName
    return value.map (variableName, ·)

/-- Prints a text at once. -/
def printNow (text : String) : IO Unit := do
  let output ← IO.getStdout
  output.putStr text
  output.flush

/-- Talks to a shell until it ends or the input does. -/
partial def converse (shell : Shell) : IO UInt32 := do
  printNow shell.prompt
  let line ← (← IO.getStdin).getLine
  if line.isEmpty then
    printNow "\n"
    return 0
  let typed := if line.endsWith "\n" then String.ofList line.toList.dropLast else line
  match shell.enter typed with
  | .error fault =>
    IO.eprintln fault.message
    return 1
  | .ok step =>
    printNow step.output
    match step.next with
    | some next => converse next
    | none => return 0

/-- Does what a command asks for, and gives the exit code. -/
def perform (settings : Settings) : CommandLine.Command → IO UInt32
  | .help => do
    printNow CommandLine.usage
    return 0
  | .serve host port _ => do
    let (host, port) := CommandLine.address settings host port
    IO.eprintln ("demodb API server on http://" ++ host ++ ":" ++ toString port)
    return 0
  | .shell database => do
    printNow Shell.banner
    converse (Shell.start database)
  | .run file database stopOnError => do
    let script ← IO.FS.readFile file
    match CommandLine.runScript script database stopOnError with
    | .ok (output, code) =>
      printNow output
      return code.toUInt32
    | .error fault =>
      IO.eprintln fault.message
      return 1

/-- Reads the settings and the command line, and does what they ask for. -/
def main (words : List String) : IO UInt32 := do
  match Settings.ofEnvironment (← readEnvironment) with
  | .error fields =>
    IO.eprintln ("Rejected settings: " ++ ", ".intercalate fields)
    return 1
  | .ok settings =>
    match CommandLine.read settings words with
    | .ok command => perform settings command
    | .error .unreadable =>
      IO.eprintln CommandLine.Misuse.unreadable.message
      return 2
    | .error misuse =>
      IO.eprintln misuse.message
      return 1
