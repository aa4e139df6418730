/-
# The shell

The shell reads lines. A line that begins with a dot, when no statement has been begun, is a
meta-command; any other line is added to the statement in progress, and the first line with a
semicolon runs what has been gathered as a script. All output is text, and the prompt says which
database is current or that more is expected.

Showing a result fails if it holds an integer that cannot be written; such a failure ends the shell.
-/

import MockSql.Grid
import MockSql.Seed
import MockSql.Session

namespace MockSql

open MockSql.Text

/-- What is shown for a report: its rows and their number, its message, or its error. -/
def Report.render (report : Report) : Except Fault String :=
  match report.outcome with
  | .error fault => .ok s!"Error: {fault.report}\n"
  | .ok (.done message _) => .ok s!"{message} ({report.elapsed} ms)\n"
  | .ok (.rows columns rows total) => do
    let grid ← Grid.render rows columns
    let ofTotal := (total.map fun n => s!" of {n}").getD ""
    .ok s!"{grid}\n({rows.length}{ofTotal} rows, {report.elapsed} ms)\n"

/-- What is shown for several reports, one after the other. -/
def renderReports (reports : List Report) : Except Fault String := do
  .ok (String.join (← reports.mapM (·.render)))

/-- The state of a shell: its session, and the lines of the statement in progress. -/
structure Shell where
  session : Session
  pending : List String := []

namespace Shell

/-- What is shown when the shell starts. -/
def banner : String :=
  "demodb demo shell\nType SQL statements terminated by ';'.\n" ++
    "Meta-commands: .help  .databases  .reset  .quit\n"

/-- What `.help` shows. -/
def helpText : String :=
  "Supported statements:\n" ++
  "  SHOW DATABASES, CREATE/DROP DATABASE, USE, SHOW TABLES,\n" ++
  "  CREATE/DROP/TRUNCATE/RENAME/ALTER TABLE,\n" ++
  "  SELECT ... [ORDER BY] [LIMIT [OFFSET]], INSERT, UPDATE, DELETE ... IN (...)\n" ++
  "Meta commands:\n" ++
  "  .help      - show this message\n" ++
  "  .databases - list databases and tables\n" ++
  "  .reset     - restore the seed data\n" ++
  "  .quit      - exit\n"

/-- The line of one database in the list of databases. -/
def databaseLine (name : String) (tables : Database) : String :=
  let listed := if tables.isEmpty then "(no tables)" else ", ".intercalate tables.keys
  s!"{name}: {listed}\n"

/-- What `.databases` shows. -/
def databaseList (server : Server) : String :=
  String.join (server.map fun (name, tables) => databaseLine name tables)

/-- A shell on the built-in seed. An empty name chooses no database. -/
def start (database : Option String) : Shell :=
  { session := { store := Seed.store
                 current := (database.map Current.named).getD .unset } }

/-- What is asked for next: the current database, or the rest of a statement. -/
def prompt (shell : Shell) : String :=
  if shell.pending.isEmpty then
    match shell.session.current with
    | .named name => (if name.isEmpty then "(none)" else name) ++ "> "
    | _ => "(none)> "
  else "   ...> "

/-- What a line leads to: some output, and the shell that goes on, unless it ends. -/
structure Step where
  output : String
  next : Option Shell

/-- What a meta-command does. -/
def command (shell : Shell) (line : String) : Step :=
  if line = ".quit" ∨ line = ".exit" then ⟨"", none⟩
  else if line = ".help" then ⟨helpText, some shell⟩
  else if line = ".databases" then ⟨databaseList shell.session.store.server, some shell⟩
  else if line = ".reset" then
    ⟨"Server state reset.\n", some { shell with session := shell.session.reset }⟩
  else ⟨s!"Unknown meta-command: {line}\n", some shell⟩

/-- What a line of a statement does. -/
def gather (shell : Shell) (line : String) : Except Fault Step :=
  let lines := shell.pending ++ [line]
  if line.toList.contains ';' then do
    let (reports, session) := shell.session.executeScript ("\n".intercalate lines)
    .ok ⟨← renderReports reports, some ⟨session, []⟩⟩
  else .ok ⟨"", some { shell with pending := lines }⟩

/-- What a line that was typed does. -/
def enter (shell : Shell) (typed : String) : Except Fault Step :=
  let line := String.ofList (trimEnd typed.toList)
  if shell.pending.isEmpty && line.toList.head? == some '.' then .ok (shell.command line)
  else shell.gather line

/-- All the output of a shell on some lines, up to the end of the lines or of the shell. Every line
is asked for, and the end of the lines begins a new line. -/
def run (shell : Shell) : List String → Except Fault String
  | [] => .ok (shell.prompt ++ "\n")
  | typed :: rest => do
    let step ← shell.enter typed
    match step.next with
    | none => .ok (shell.prompt ++ step.output)
    | some next => .ok (shell.prompt ++ step.output ++ (← next.run rest))

/-- The lines of an input: a line break ends a line, and what follows the last one is a line if it
is not empty. -/
def linesOf (input : String) : List String :=
  let pieces := input.toList.splitOn '\n'
  (if pieces.getLast? == some [] then pieces.dropLast else pieces).map String.ofList

/-- All that a shell shows for an input, from its banner on. -/
def transcript (database : Option String) (input : String) : Except Fault String := do
  .ok (banner ++ (← (start database).run (linesOf input)))

end Shell

end MockSql
