/-
# The API

The server answers requests about one store: it runs statements and scripts, and lets a client look
at its databases. Every answer is JSON. A handler that meets something it cannot deal with, such as
a number where a text belongs, gives an internal error.
-/

import MockSql.Http.Message
import MockSql.Http.Path
import MockSql.Seed
import MockSql.Session

namespace MockSql.Http

open MockSql.Text

/-- What a path stands for. -/
inductive Endpoint where
  | health
  | connect
  | query
  | script
  | state
  | reset
  | databases
  | tables (database : String)
  | schema (database table : String)
deriving DecidableEq, Repr

/-- The endpoint of a path. -/
def Endpoint.ofSegments? : List String → Option Endpoint
  | ["health"] => some .health
  | ["connect"] => some .connect
  | ["query"] => some .query
  | ["script"] => some .script
  | ["state"] => some .state
  | ["reset"] => some .reset
  | ["databases"] => some .databases
  | ["databases", database, "tables"] =>
    if database.isEmpty then none else some (.tables database)
  | ["databases", database, "tables", table, "schema"] =>
    if database.isEmpty || table.isEmpty then none else some (.schema database table)
  | _ => none

/-- Whether an endpoint is looked at and not acted on. -/
def Endpoint.isReading : Endpoint → Bool
  | .connect | .query | .script | .reset => false
  | _ => true

/-- The methods that an endpoint takes. -/
def Endpoint.methods (endpoint : Endpoint) : List String :=
  if endpoint.isReading then ["GET", "HEAD", "OPTIONS"] else ["POST", "OPTIONS"]

/-- An answer, unless it cannot be written. -/
def respond (status : Nat) (members : Entries Json) : Option Response :=
  let content : Json := .object members
  if content.isWritable then some ⟨status, some content⟩ else none

/-- The answer to a request that fails. -/
def failure (status : Nat) (message : String) : Response :=
  ⟨status, some (.object [("success", .bool false), ("error", .text message)])⟩

/-- The answer of a handler that cannot go on. -/
def internalError : Response :=
  ⟨500, some (.object [("success", .bool false), ("error", .text "Internal server error"),
    ("traceback", .null)])⟩

/-- The program's version. -/
def version : String := "1.0.0"

/-- The text of a member: empty if the member counts as false, none if it is no text. -/
def textMember? (members : Entries Json) (name : String) : Option String :=
  match members.get? name with
  | none => some ""
  | some (.scalar (.text s)) => some s
  | some other => if other.isTruthy then none else some ""

/-- The current database that a request gives: that of its connection. None if the connection is
something, but no object. -/
def currentOf? (members : Entries Json) : Option Current :=
  match members.get? "connection" with
  | none => some .unset
  | some (.object connection) =>
    some (match Entries.get? connection "database" with
      | none | some (.scalar .null) => .unset
      | some (.scalar (.text name)) => .named name
      | some other => .misnamed (other.misnomer?.getD .nothing))
  | some other => if other.isTruthy then none else some .unset

/-- Runs one statement. -/
def handleQuery (members : Entries Json) (store : Store) : Option Response × Store :=
  match textMember? members "query" with
  | none => (none, store)
  | some text =>
    let query := String.ofList (trim text.toList)
    if query.isEmpty then (some (failure 400 "Query required"), store)
    else
      match currentOf? members with
      | none => (none, store)
      | some current =>
        let session : Session := { store, current }
        let (report, after) := session.execute query
        (respond 200 (Reply.ofReport report).members, after.store)

/-- Runs the statements of a script. -/
def handleScript (members : Entries Json) (store : Store) : Option Response × Store :=
  match textMember? members "script" with
  | none => (none, store)
  | some script =>
    if (trim script.toList).isEmpty then (some (failure 400 "Script required"), store)
    else
      match currentOf? members with
      | none => (none, store)
      | some current =>
        let stopOnError := (members.get? "stop_on_error").any Json.isTruthy
        let session : Session := { store, current, stopOnError }
        let (reports, after) := session.executeScript script
        (respond 200 [("success", .bool (reports.all (·.succeeded))),
          ("results", .array (reports.map fun report => (Reply.ofReport report).toJson)),
          ("count", .int reports.length)], after.store)

/-- Hands the members of a body to a handler. A body that counts as false is missing. -/
def withMembers (body : Body) (store : Store)
    (handle : Entries Json → Store → Option Response × Store) : Option Response × Store :=
  match body.value? with
  | none => (some (failure 400 "Request body required"), store)
  | some value =>
    if !value.isTruthy then (some (failure 400 "Request body required"), store)
    else
      match value with
      | .object members => handle members store
      | _ => (none, store)

/-- The tables of a database. -/
def listTables (server : Server) (name : String) : Option Response :=
  match server.find? name with
  | none => some (failure 404 s!"Database '{name}' not found")
  | some (_, tables) =>
    respond 200 [("success", .bool true), ("tables", .texts tables.keys),
      ("count", .int tables.length)]

/-- The schema of a table and some facts about it. -/
def describeTable (server : Server) (databaseName name : String) : Option Response :=
  match server.find? databaseName with
  | none => some (failure 404 s!"Database '{databaseName}' not found")
  | some (_, tables) =>
    match tables.find? name with
    | none => some (failure 404 s!"Table '{name}' not found in database '{databaseName}'")
    | some (key, table) =>
      respond 200 [("success", .bool true), ("table", .text key),
        ("schema", .array (table.schema.map (·.toJson))),
        ("stats", .object [("row_count", .int table.rowCount),
          ("columns", .int table.schema.length), ("engine", .text table.engine),
          ("collation", .text table.collation)])]

/-- What an endpoint does; without a response it has met something it cannot deal with. -/
def handle (endpoint : Endpoint) (body : Body) (store : Store) : Option Response × Store :=
  match endpoint with
  | .health =>
    (respond 200 [("status", .text "healthy"), ("version", .text version),
      ("database_count", .int store.server.length)], store)
  | .connect =>
    let fresh := store.reset
    (respond 200 [("connected", .bool true), ("message", .text "Connection successful"),
      ("databases", .texts fresh.server.keys)], fresh)
  | .query => withMembers body store handleQuery
  | .script => withMembers body store handleScript
  | .state =>
    (respond 200 [("success", .bool true), ("state", store.server.toJson)], store)
  | .reset =>
    (respond 200 [("success", .bool true), ("message", .text "Server state reset.")], store.reset)
  | .databases =>
    (respond 200 [("success", .bool true), ("databases", .texts store.server.keys),
      ("count", .int store.server.length)], store)
  | .tables database => (listTables store.server database, store)
  | .schema database table => (describeTable store.server database table, store)

/-- A response without its content, for a method that only asks about it. -/
def withoutContent (method : String) (response : Response) : Response :=
  if method = "HEAD" then { response with content := none } else response

/-- The response to a method on an endpoint. -/
def dispatch (endpoint : Endpoint) (method : String) (body : Body) (store : Store) :
    Response × Store :=
  if !endpoint.methods.contains method then
    (withoutContent method (failure 405 "Method not allowed"), store)
  else if method = "OPTIONS" then (⟨200, none⟩, store)
  else
    let (response, after) := handle endpoint body store
    (withoutContent method (response.getD internalError), after)

/-- The response to a request. A path that stands for an endpoint only after its double slashes are
made single is redirected there. -/
def serve (store : Store) (request : Request) : Response × Store :=
  let method := request.method.map Char.toUpper
  let parts := segments request.path
  match Endpoint.ofSegments? parts with
  | some endpoint => dispatch endpoint method request.body store
  | none =>
    match Endpoint.ofSegments? (mergeSegments parts) with
    | some endpoint =>
      if endpoint.methods.contains method then (⟨308, none⟩, store)
      else (withoutContent method (failure 405 "Method not allowed"), store)
    | none => (withoutContent method (failure 404 "Endpoint not found"), store)

end MockSql.Http
