/-
# Sessions

A session runs statements one after the other against a store and keeps track of the current
database: a statement that chooses one changes it, whether or not that database exists. A script is
a text of statements with semicolons between them; a session may stop at the first failure.
-/

import MockSql.Execution
import MockSql.Report

namespace MockSql

open MockSql.Text

/-- The statements of a script: what stands between semicolons, trimmed, blanks left out. -/
def statementsOf (script : String) : List String :=
  (((script.toList.splitOn ';').map trim).filter (!·.isEmpty)).map String.ofList

/-- One client's view of a store. The durations are those of the statements to come; a statement
for which none is left takes no time. -/
structure Session where
  store : Store
  current : Current := .unset
  stopOnError : Bool := false
  durations : List Nat := []

namespace Session

/-- Runs a statement in a given database, whatever the session's own is. -/
def executeIn (session : Session) (current : Current) (query : String) : Report × Session :=
  let (outcome, server) := session.store.server.execute current query
  (⟨outcome, session.durations.headD 0⟩,
    { session with
      store := { session.store with server }
      durations := session.durations.tail })

/-- The current database after a statement, be it successful or not. -/
def currentAfter (current : Current) (query : String) : Current :=
  match Statement.chosenDatabase? query with
  | some name => .named name
  | none => current

/-- Runs a statement in the session's database. -/
def execute (session : Session) (query : String) : Report × Session :=
  let current := currentAfter session.current query
  { session with current }.executeIn current query

/-- Runs statements in order, up to the first failure if the session stops there. -/
def executeAll (session : Session) : List String → List Report × Session
  | [] => ([], session)
  | query :: rest =>
    let (report, after) := session.execute query
    if !report.succeeded && session.stopOnError then ([report], after)
    else
      let (reports, last) := after.executeAll rest
      (report :: reports, last)

/-- Runs the statements of a script. -/
def executeScript (session : Session) (script : String) : List Report × Session :=
  session.executeAll (statementsOf script)

/-- Discards every change to the store. -/
def reset (session : Session) : Session :=
  { session with store := session.store.reset }

end Session

end MockSql
