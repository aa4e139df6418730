/-
# The client

The client talks to a backend over HTTP and falls back to a demo store of its own. It asks once
whether the backend is healthy; if it is not, or if the backend cannot be connected to later, the
client is in demo mode from then on and sends nothing any more. Both ways give the same kind of
reply.

What the backend does is left open: a network takes a call and its own state, and delivers a
response or a failure.
-/

import MockSql.Http.Api
import MockSql.Settings

namespace MockSql

/-- A request that the client sends. -/
structure Call where
  method : String
  url : String
  content : Option Json
  timeout : Double
deriving Repr

/-- The body of a response: JSON, or a text that may be JSON. -/
inductive ResponseBody where
  | json (value : Json)
  | text (s : String)
deriving Repr

/-- The ways in which a call fails without a response. -/
inductive NetworkFailure where
  | noConnection
  | connectTimeout
  | readTimeout
  | tooManyRedirects
deriving DecidableEq, Repr

/-- What comes of a call. -/
inductive Delivery where
  | response (status : Nat) (body : ResponseBody)
  | failure (kind : NetworkFailure)
deriving Repr

/-- The JSON value of a body. -/
def ResponseBody.read : ResponseBody → Except Json.Refusal Json
  | .json value => .ok value
  | .text s => Json.read s

/-- Whether there was no connection at all. -/
def NetworkFailure.isUnreachable : NetworkFailure → Bool
  | .noConnection | .connectTimeout => true
  | .readTimeout | .tooManyRedirects => false

/-- Whether a status is an error. -/
def isErrorStatus (status : Nat) : Bool :=
  400 ≤ status && status < 600

/-- A network delivers something for every call, and may keep a state. -/
structure Network (σ : Type) where
  send : Call → σ → Delivery × σ

/-- The parameters of a connection. -/
structure Connection where
  host : String := "localhost"
  port : Int := 3306
  username : String := "root"
  password : String := ""
  database : Option String := none
deriving DecidableEq, Repr

/-- A connection as JSON. -/
def Connection.toJson (connection : Connection) : Json :=
  .object [("host", .text connection.host), ("port", .int connection.port),
    ("username", .text connection.username), ("password", .text connection.password),
    ("database", (connection.database.map Json.text).getD .null)]

/-- The database of a connection as the current one. -/
def Connection.current (connection : Connection) : Current :=
  (connection.database.map Current.named).getD .unset

/-- What comes of connecting. -/
structure Status where
  connected : Bool
  message : Json := .null
  error : Json := .null
  databases : Json := .array []
deriving Repr

/-- A reply of the backend that the client cannot deal with. -/
inductive Mishap where
  /-- The body is JSON, but no object. -/
  | notAnObject
  /-- The body holds an integer that cannot be read. -/
  | unreadable (fault : Fault)
deriving DecidableEq, Repr

/-- A client. It does not know whether the backend is available until it has asked. -/
structure Client where
  baseUrl : String
  timeout : Double
  healthTimeout : Double
  store : Store
  available : Option Bool := none

/-- A client, the state of its network, and the calls that it has sent. -/
structure World (σ : Type) where
  client : Client
  peer : σ
  calls : List Call := []

namespace Client

/-- The address of the backend without slashes at its end; an empty one gives way to the
settings. -/
def baseUrlOf (settings : Settings) (given : String) : String :=
  let url := if given.isEmpty then settings.apiBaseUrl else given
  String.ofList (Text.dropWhileEnd (· == '/') url.toList)

/-- Whether the client has fallen back to its demo store. -/
def isDemo (client : Client) : Bool :=
  client.available == some false

/-- The state of the demo store, in demo mode only. -/
def demoState? (client : Client) : Option Server :=
  if client.isDemo then some client.store.server else none

/-- The call that asks whether the backend is healthy. -/
def healthCall (client : Client) : Call :=
  ⟨"GET", client.baseUrl ++ "/health", none, client.healthTimeout⟩

/-- The call that connects. -/
def connectCall (client : Client) (connection : Connection) : Call :=
  ⟨"POST", client.baseUrl ++ "/connect", some connection.toJson, client.timeout⟩

/-- The call that runs a statement. -/
def queryCall (client : Client) (query : String) (connection : Connection) : Call :=
  ⟨"POST", client.baseUrl ++ "/query",
    some (.object [("query", .text (String.ofList (Text.trim query.toList))),
      ("connection", connection.toJson)]), client.timeout⟩

/-- Connects in demo mode, which starts from the seed. -/
def connectDemo (client : Client) : Status × Client :=
  let fresh := { client with store := client.store.reset }
  ({ connected := true, message := .text "Connected in Demo Mode."
     databases := .texts fresh.store.server.keys }, fresh)

/-- Runs a statement in demo mode. -/
def queryDemo (client : Client) (query : String) (connection : Connection) : Reply × Client :=
  let session : Session := { store := client.store, current := connection.current }
  let (report, after) := session.execute query
  (.ofReport report, { client with store := after.store })

/-- The error that a response to a failed call names, or else a general one. -/
def errorOf (body : ResponseBody) (general : String) : Json :=
  match body.read with
  | .ok (.object members) =>
    match Entries.get? members "error" with
    | some error => if error.isTruthy then error else .text general
    | none => .text general
  | _ => .text general

/-- A member that counts as true, or else something in its place. -/
def truthyMember (members : Entries Json) (name : String) (fallback : Json) : Json :=
  match members.get? name with
  | some value => if value.isTruthy then value else fallback
  | none => fallback

/-- What a response to connecting means. -/
def statusOf (status : Nat) (body : ResponseBody) : Except Mishap Status :=
  let general := "Connection failed"
  if isErrorStatus status then .ok { connected := false, error := errorOf body general }
  else
    match body.read with
    | .ok (.object members) =>
      .ok { connected := true
            message := truthyMember members "message" (.text "Connection successful")
            databases := truthyMember members "databases" (.array []) }
    | .ok _ => .error .notAnObject
    | .error .malformed => .ok { connected := false, error := .text general }
    | .error (.tooLong fault) => .error (.unreadable fault)

/-- What a response to a statement means. It is a success unless it says otherwise. -/
def replyOf (status : Nat) (body : ResponseBody) : Except Mishap Reply :=
  let general := "Query failed"
  if isErrorStatus status then .ok (.failure (errorOf body general))
  else
    match body.read with
    | .ok (.object members) =>
      .ok (.ofMembers (Entries.setAll [("success", .bool true)] members))
    | .ok _ => .error .notAnObject
    | .error .malformed => .ok (.failure (.text general))
    | .error (.tooLong fault) => .error (.unreadable fault)

end Client

namespace World

variable {σ : Type} (network : Network σ)

/-- Sends a call. -/
def send (world : World σ) (call : Call) : Delivery × World σ :=
  let (delivery, peer) := network.send call world.peer
  (delivery, { world with peer, calls := world.calls ++ [call] })

/-- Remembers whether the backend is available. -/
def setAvailable (world : World σ) (available : Bool) : World σ :=
  { world with client := { world.client with available := some available } }

/-- Asks whether the backend is healthy, unless that is known already. -/
def check (world : World σ) : Bool × World σ :=
  match world.client.available with
  | some available => (available, world)
  | none =>
    let (delivery, after) := world.send network world.client.healthCall
    let healthy := match delivery with
      | .response status _ => !isErrorStatus status
      | .failure _ => false
    (healthy, after.setAvailable healthy)

/-- Connects in demo mode. -/
def connectDemo (world : World σ) : Except Mishap Status × World σ :=
  let (status, client) := world.client.connectDemo
  (.ok status, { world with client })

/-- Runs a statement in demo mode. -/
def queryDemo (world : World σ) (query : String) (connection : Connection) :
    Except Mishap Reply × World σ :=
  let (reply, client) := world.client.queryDemo query connection
  (.ok reply, { world with client })

/-- Connects. -/
def connect (world : World σ) (connection : Connection) : Except Mishap Status × World σ :=
  let (available, checked) := world.check network
  if !available then checked.connectDemo
  else
    let (delivery, after) := checked.send network (checked.client.connectCall connection)
    match delivery with
    | .response status body => (Client.statusOf status body, after)
    | .failure kind =>
      if kind.isUnreachable then (after.setAvailable false).connectDemo
      else (.ok { connected := false, error := .text "Connection failed" }, after)

/-- Runs a statement. -/
def query (world : World σ) (query : String) (connection : Connection) :
    Except Mishap Reply × World σ :=
  let (available, checked) := world.check network
  if !available then checked.queryDemo query connection
  else
    let (delivery, after) := checked.send network (checked.client.queryCall query connection)
    match delivery with
    | .response status body => (Client.replyOf status body, after)
    | .failure kind =>
      if kind.isUnreachable then (after.setAvailable false).queryDemo query connection
      else (.ok (.failure (.text "Query failed")), after)

/-- Runs statements in order, each in the database that those before it have chosen. -/
def queryAll (world : World σ) (connection : Connection) (stopOnError : Bool) :
    List String → Except Mishap (List Reply) × World σ
  | [] => (.ok [], world)
  | query :: rest =>
    let connection := match Statement.chosenDatabase? query with
      | some name => { connection with database := some name }
      | none => connection
    match world.query network query connection with
    | (.error mishap, after) => (.error mishap, after)
    | (.ok reply, after) =>
      if !reply.success && stopOnError then (.ok [reply], after)
      else
        let (replies, last) := after.queryAll connection stopOnError rest
        (replies.map (reply :: ·), last)

/-- Runs the statements of a script. -/
def script (world : World σ) (script : String) (connection : Connection) (stopOnError : Bool) :
    Except Mishap (List Reply) × World σ :=
  world.queryAll network connection stopOnError (statementsOf script)

end World

/-- A network that delivers what is written down, one after the other, and then has no
connection. -/
def Network.scripted : Network (List Delivery) where
  send _ deliveries :=
    match deliveries with
    | [] => (.failure .noConnection, [])
    | delivery :: rest => (delivery, rest)

/-- A network with the API behind it. -/
def Network.served : Network Store where
  send call store :=
    let body := match call.content with
      | some value => .json value
      | none => .empty
    let path := String.ofList (Http.pathOf call.url.toList)
    let (response, after) := Http.serve store ⟨call.method, path, body⟩
    let content := match response.content with
      | some value => .json value
      | none => .text ""
    (.response response.status content, after)

end MockSql
