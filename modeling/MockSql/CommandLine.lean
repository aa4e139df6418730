/-
# What the commands do

Running a script file shows the reports of its statements, and the exit code says whether all of
them succeeded. Serving needs an address. Without a command the usage is shown.
-/

import MockSql.CommandLine.Command
import MockSql.Shell

namespace MockSql.CommandLine

/-- The text of a file with every kind of line break made the same. -/
def unifyBreaks : List Char → List Char
  | '\r' :: '\n' :: rest => '\n' :: unifyBreaks rest
  | '\r' :: rest => '\n' :: unifyBreaks rest
  | c :: rest => c :: unifyBreaks rest
  | [] => []

/-- What running a script shows, and the exit code: 1 if a statement failed. Everything is shown
when all statements have run. -/
def runScript (script : String) (database : Option String) (stopOnError : Bool) :
    Except Fault (String × Nat) := do
  let session : Session :=
    { store := Seed.store, current := (database.map Current.named).getD .unset, stopOnError }
  let (reports, _) := session.executeScript (String.ofList (unifyBreaks script.toList))
  .ok (← renderReports reports, if reports.all (·.succeeded) then 0 else 1)

/-- Where a server listens: an empty host and port zero give way to the settings. -/
def address (settings : Settings) (host : String) (port : Int) : String × Int :=
  (if host.isEmpty then settings.host else host, if port = 0 then settings.port else port)

/-- What the program shows when it is not told what to do. -/
def usage : String :=
  "usage: demodb [-h] [--log-level LOG_LEVEL] \x7bserve,shell,run\x7d ...\n\n" ++
  "demodb mock SQL server\n\n" ++
  "positional arguments:\n" ++
  "  \x7bserve,shell,run\x7d\n" ++
  "    serve               run the HTTP API server\n" ++
  "    shell               interactive demo shell\n" ++
  "    run                 execute a script file\n\n" ++
  "options:\n" ++
  "  -h, --help            show this help message and exit\n" ++
  "  --log-level LOG_LEVEL\n"

end MockSql.CommandLine
