/-
# What travels between the client and the API

A request reaches the endpoint that its address names when the address is the root of a host with a
path behind it. A reply arrives with the fields it was sent with, since a field that is nothing is
not sent and no sent field is nothing. And a printable server can write all its replies, so none of
them gives way to an internal error.
-/

import MockSql.Client
import MockSql.Proofs.Printable
import MockSql.Proofs.Trim

namespace MockSql

open MockSql.Text

namespace Http

/-- The root of a host: a scheme, a colon, two slashes and the host, and nothing behind it. -/
def IsOrigin (url : String) : Prop :=
  ∃ scheme host : List Char, url.toList = scheme ++ ':' :: '/' :: '/' :: host ∧
    scheme.head?.any Char.isAlpha = true ∧ scheme.all isSchemeChar = true ∧
    host.all (!endsHost ·) = true

theorem afterScheme_origin {scheme : List Char} (rest : List Char)
    (hfirst : scheme.head?.any Char.isAlpha = true) (hscheme : scheme.all isSchemeChar = true) :
    afterScheme (scheme ++ ':' :: rest) = rest := by
  have hhead : (scheme ++ ':' :: rest).head?.any Char.isAlpha = true := by
    cases scheme with
    | nil => cases hfirst
    | cons c scheme => exact hfirst
  have hcolon : isSchemeChar ':' = false := by decide
  have hdrop := dropWhile_run (List.all_eq_true.mp hscheme) hcolon rest
  simp only [afterScheme, hhead, hdrop]

theorem afterHost_origin {host : List Char} (path : List Char)
    (hhost : host.all (!endsHost ·) = true) :
    afterHost ('/' :: '/' :: (host ++ '/' :: path)) = '/' :: path := by
  have hslash : (!endsHost '/') = false := by decide
  exact dropWhile_run (List.all_eq_true.mp hhost) hslash path

/-- The path of an address is what stands behind the root of its host. -/
theorem pathOf_origin {url : String} {path : List Char} (horigin : IsOrigin url)
    (hpath : path.all (fun c => c != '?' && c != '#') = true) :
    pathOf (url.toList ++ '/' :: path) = '/' :: path := by
  obtain ⟨scheme, host, hurl, hfirst, hscheme, hhost⟩ := horigin
  have haddress : url.toList ++ '/' :: path =
      scheme ++ ':' :: '/' :: '/' :: (host ++ '/' :: path) := by simp [hurl]
  rw [pathOf, haddress, afterScheme_origin _ hfirst hscheme, afterHost_origin _ hhost]
  have hall : ∀ c ∈ '/' :: path, (c != '?' && c != '#') = true := by
    intro c hc
    rcases List.mem_cons.mp hc with rfl | hc
    · decide
    · exact List.all_eq_true.mp hpath c hc
  rw [← List.append_nil ('/' :: path), List.takeWhile_append_of_pos hall, List.takeWhile_nil]

end Http

/-- A reply without the time that its statement took. -/
def Reply.withoutTime (reply : Reply) : Reply :=
  { reply with executionTime := none }

/-- The reply to a statement of a given outcome, its time aside. -/
def Reply.ofOutcome (outcome : Except Fault Answer) : Reply :=
  (Reply.ofReport ⟨outcome, 0⟩).withoutTime

theorem Reply.withoutTime_ofReport (report : Report) :
    (Reply.ofReport report).withoutTime = Reply.ofOutcome report.outcome := by
  obtain ⟨outcome, elapsed⟩ := report
  cases outcome with
  | error fault => rfl
  | ok answer => cases answer <;> rfl

theorem Reply.success_ofReport (report : Report) :
    (Reply.ofReport report).success = report.succeeded := by
  obtain ⟨outcome, elapsed⟩ := report
  cases outcome with
  | error fault => rfl
  | ok answer => cases answer <;> rfl

/-- The members that a reply is sent with make the same reply again. -/
theorem Reply.ofMembers_members (report : Report) :
    Reply.ofMembers (Entries.setAll [("success", .bool true)] (Reply.ofReport report).members) =
      Reply.ofReport report := by
  obtain ⟨outcome, elapsed⟩ := report
  cases outcome with
  | error fault => rfl
  | ok answer =>
      cases answer with
      | rows columns rows total => cases total <;> rfl
      | done message affected => cases affected <;> rfl

namespace Json

theorem areWritable_iff {items : List Json} :
    areWritable items = true ↔ ∀ item ∈ items, item.isWritable = true := by
  induction items with
  | nil => simp [areWritable]
  | cons item rest ih => simp [areWritable, ih]

theorem membersWritable_iff {members : List (String × Json)} :
    membersWritable members = true ↔ ∀ member ∈ members, member.2.isWritable = true := by
  induction members with
  | nil => simp [membersWritable]
  | cons member rest ih => simp [membersWritable, ih]

theorem texts_isWritable (names : List String) : (Json.texts names).isWritable = true := by
  rw [texts, isWritable, areWritable_iff]
  intro item hitem
  obtain ⟨name, hname, rfl⟩ := List.mem_map.mp hitem
  rfl

end Json

/-- Rows without long integers can be written. -/
theorem Row.rows_isWritable {rows : List Row} (printable : ∀ row ∈ rows, row.IsPrintable) :
    (Json.array (rows.map Table.rowToJson)).isWritable = true := by
  rw [Json.isWritable, Json.areWritable_iff]
  intro item hitem
  obtain ⟨row, hrow, rfl⟩ := List.mem_map.mp hitem
  rw [Table.rowToJson, Json.isWritable, Json.membersWritable_iff]
  intro member hmember
  obtain ⟨cell, hcell, rfl⟩ := List.mem_map.mp hmember
  exact printable row hrow cell hcell

/-- A reply can be written if each of its fields can. -/
theorem Reply.toJson_isWritable {reply : Reply}
    (writable : ∀ field ∈ [reply.data, reply.columns, reply.message, reply.error,
      reply.rowsAffected, reply.executionTime, reply.totalRows], ∀ value ∈ field,
        value.isWritable = true) : reply.toJson.isWritable = true := by
  rw [toJson, Json.isWritable, Json.membersWritable_iff]
  intro member hmember
  rcases List.mem_cons.mp hmember with rfl | hmember
  · rfl
  · obtain ⟨⟨name, field⟩, hfield, hmap⟩ := List.mem_filterMap.mp hmember
    obtain ⟨value, hvalue, rfl⟩ := Option.map_eq_some_iff.mp hmap
    exact writable field (List.mem_map_of_mem (f := Prod.snd) hfield) value hvalue

/-- A reply can be written if its answer can be; a fault always can. -/
theorem Reply.isWritable_ofReport {outcome : Except Fault Answer}
    (printable : ∀ answer, outcome = .ok answer → answer.IsPrintable) :
    (Reply.ofReport ⟨outcome, 0⟩).toJson.isWritable = true := by
  have htime : (Json.int 0).isWritable = true := by decide
  apply Reply.toJson_isWritable
  cases outcome with
  | error fault => simp [ofReport, htime, Json.isWritable, Json.text]
  | ok answer =>
      have hanswer := printable answer rfl
      cases answer with
      | done message affected =>
          cases affected with
          | none => simp [ofReport, htime, Json.isWritable, Json.text]
          | some count =>
              have hcount : (Json.int count).isWritable = true := hanswer count rfl
              simp [ofReport, htime, hcount, Json.isWritable, Json.text]
      | rows columns rows total =>
          have hrows := Row.rows_isWritable hanswer.1
          cases total with
          | none => simp [ofReport, htime, hrows, Json.texts_isWritable]
          | some count =>
              have hcount : (Json.int count).isWritable = true := hanswer.2 count rfl
              simp [ofReport, htime, hrows, hcount, Json.texts_isWritable]

namespace Http

variable {store : Store}

/-- A request for an endpoint by its own path goes to the handler of the endpoint. -/
theorem serve_endpoint {path method : String} {endpoint : Endpoint} {body : Body}
    (hpath : Endpoint.ofSegments? (segments path) = some endpoint)
    (hmethod : method.map Char.toUpper = method) (htakes : endpoint.methods.contains method = true)
    (hcontent : method ≠ "HEAD" ∧ method ≠ "OPTIONS") :
    serve store ⟨method, path, body⟩ =
      ((handle endpoint body store).1.getD internalError, (handle endpoint body store).2) := by
  simp only [serve, hpath, hmethod, dispatch, htakes, Bool.not_true, Bool.false_eq_true, if_false,
    hcontent.1, hcontent.2, withoutContent]

theorem respond_eq (status : Nat) {members : Entries Json}
    (writable : (Json.object members).isWritable = true) :
    respond status members = some ⟨status, some (.object members)⟩ := by
  simp only [respond, writable, if_true]

/-- The API over a printable server says that it is healthy. -/
theorem serve_health (printable : store.server.IsPrintable) :
    (serve store ⟨"GET", "/health", .empty⟩).1.status = 200 ∧
      (serve store ⟨"GET", "/health", .empty⟩).2 = store := by
  have hpath : Endpoint.ofSegments? (segments "/health") = some .health := by decide +kernel
  rw [serve_endpoint hpath (by decide +kernel) (by decide) (by decide)]
  have hcount : (Json.int store.server.length).isWritable = true := printable.count
  have hwritable : (Json.object [("status", .text "healthy"), ("version", .text version),
      ("database_count", .int store.server.length)]).isWritable = true := by
    simp [Json.isWritable, Json.membersWritable, Json.text, hcount]
  rw [handle, respond_eq _ hwritable]
  exact ⟨rfl, rfl⟩

/-- The database of a connection is found again in what is sent. -/
theorem currentOf?_toJson (connection : Connection) {members : Entries Json}
    (hmembers : members.get? "connection" = some connection.toJson) :
    currentOf? members = some connection.current := by
  obtain ⟨host, port, username, password, database⟩ := connection
  simp only [currentOf?, hmembers]
  cases database <;> rfl

/-- The API answers a trimmed query with the reply of the server. -/
theorem serve_query {query : String} (connection : Connection)
    (hquery : query ≠ "") (htrimmed : trim query.toList = query.toList)
    (printable : store.server.IsPrintable) :
    serve store ⟨"POST", "/query",
        .json (.object [("query", .text query), ("connection", connection.toJson)])⟩ =
      (let (outcome, server) :=
        store.server.execute (Session.currentAfter connection.current query) query
      (⟨200, some (Reply.ofReport ⟨outcome, 0⟩).toJson⟩, { store with server })) := by
  have hpath : Endpoint.ofSegments? (segments "/query") = some .query := by decide +kernel
  have htext : textMember? [("query", .text query), ("connection", connection.toJson)] "query" =
    some query := rfl
  have hcurrent : currentOf? [("query", .text query), ("connection", connection.toJson)] =
      some connection.current := currentOf?_toJson connection rfl
  have hempty : query.isEmpty = false := by simp [hquery]
  have hwritable := Reply.isWritable_ofReport fun answer
      (h : (store.server.execute (Session.currentAfter connection.current query) query).1 =
        .ok answer) => Server.execute_isPrintable printable h
  have hrespond := respond_eq 200 hwritable
  rw [serve_endpoint hpath (by decide +kernel) (by decide) (by decide)]
  simp only [handle, withMembers, Body.value?, Json.isTruthy, List.isEmpty_cons, Bool.not_false,
    Bool.not_true, Bool.false_eq_true, if_false, handleQuery, htext, htrimmed,
    String.ofList_toList, hempty, hcurrent, Session.execute, Session.executeIn, List.headD_nil,
    hrespond, Option.getD_some]
  rfl

end Http

/-- A served call goes to the API with its path alone. -/
theorem Network.served_send {call : Call} {url path : String} (horigin : Http.IsOrigin url)
    (hurl : call.url = url ++ path) (hpath : path.toList.head? = some '/')
    (hplain : path.toList.all (fun c => c != '?' && c != '#') = true) (store : Store) :
    Network.served.send call store =
      (let (response, after) := Http.serve store
        ⟨call.method, path, (call.content.map Http.Body.json).getD .empty⟩
      (.response response.status ((response.content.map ResponseBody.json).getD (.text "")),
        after)) := by
  obtain ⟨rest, hrest⟩ := List.head?_eq_some_iff.mp hpath
  have hpathOf : String.ofList (Http.pathOf call.url.toList) = path := by
    rw [hrest, List.all_cons, Bool.and_eq_true] at hplain
    rw [hurl, String.toList_append, hrest, Http.pathOf_origin horigin hplain.2, ← hrest,
      String.ofList_toList]
  simp only [Network.served, hpathOf]
  cases call.content <;> simp only [Option.map_none, Option.map_some, Option.getD_none,
    Option.getD_some]
  all_goals
    cases (Http.serve store _).1.content <;> rfl

/-- The client reads a reply as it was sent. -/
theorem Client.replyOf_toJson (report : Report) :
    Client.replyOf 200 (.json (Reply.ofReport report).toJson) = .ok (Reply.ofReport report) := by
  have hstatus : isErrorStatus 200 = false := by decide
  simp only [replyOf, hstatus, Bool.false_eq_true, if_false, ResponseBody.read, Reply.toJson,
    Reply.ofMembers_members]

namespace World

variable {world : World Store}

/-- A client that knows the root of a host and has not fallen back to its demo store. -/
structure IsLinked (world : World Store) : Prop where
  origin : Http.IsOrigin world.client.baseUrl
  online : world.client.available ≠ some false

/-- What a served call brings back and leaves. -/
theorem send_served (call : Call) (path : String) (linked : world.IsLinked)
    (hurl : call.url = world.client.baseUrl ++ path) (hpath : path.toList.head? = some '/')
    (hplain : path.toList.all (fun c => c != '?' && c != '#') = true) :
    world.send Network.served call =
      (let (response, peer) := Http.serve world.peer
        ⟨call.method, path, (call.content.map Http.Body.json).getD .empty⟩
      (.response response.status ((response.content.map ResponseBody.json).getD (.text "")),
        { world with peer, calls := world.calls ++ [call] })) := by
  unfold send
  rw [Network.served_send linked.origin hurl hpath hplain]

/-- A linked client finds the API over a printable server healthy, which changes nothing there. -/
theorem check_served (linked : world.IsLinked) (printable : world.peer.server.IsPrintable) :
    ∃ checked, world.check Network.served = (true, checked) ∧ checked.IsLinked ∧
      checked.peer = world.peer := by
  unfold check
  split
  next known hknown =>
    cases known with
    | true => exact ⟨world, rfl, linked, rfl⟩
    | false => exact absurd hknown linked.online
  next =>
    obtain ⟨hstatus, hafter⟩ := Http.serve_health printable
    have hsend := send_served world.client.healthCall "/health" linked rfl
      (by decide) (by decide)
    have hhealthy : isErrorStatus 200 = false := by decide
    rw [hsend]
    simp only [Client.healthCall, Option.map_none, Option.getD_none, hstatus, hafter, hhealthy,
      Bool.not_false]
    exact ⟨_, rfl, ⟨linked.origin, by simp [setAvailable]⟩, rfl⟩

/-- A query over the API gets the reply of its server, and changes that server alone. -/
theorem query_served {query : String} (connection : Connection) (linked : world.IsLinked)
    (hquery : query ≠ "") (htrimmed : trim query.toList = query.toList)
    (printable : world.peer.server.IsPrintable) :
    let (outcome, server) :=
      world.peer.server.execute (Session.currentAfter connection.current query) query
    ∃ after, world.query Network.served query connection =
        (.ok (Reply.ofReport ⟨outcome, 0⟩), after) ∧
      after.IsLinked ∧ after.peer = { world.peer with server } := by
  obtain ⟨checked, hcheck, hlinked, hpeer⟩ := check_served linked printable
  rw [← hpeer] at printable ⊢
  have hcontent : (checked.client.queryCall query connection).content =
      some (.object [("query", .text query), ("connection", connection.toJson)]) := by
    simp only [Client.queryCall, htrimmed, String.ofList_toList]
  have hsend := send_served (checked.client.queryCall query connection) "/query" hlinked rfl
    (by decide) (by decide)
  have hserve := Http.serve_query connection hquery htrimmed printable
  rw [hcontent] at hsend
  simp only [Client.queryCall, Option.map_some, Option.getD_some, hserve] at hsend
  unfold World.query
  simp only [hcheck, Bool.not_true, Bool.false_eq_true, if_false, Client.queryCall, hsend,
    Client.replyOf_toJson]
  exact ⟨_, rfl, ⟨hlinked.origin, hlinked.online⟩, rfl⟩

end World

end MockSql
