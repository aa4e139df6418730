/-
# Four ways to run a script

A session, a client in demo mode, a client of an API and the API itself each have a loop of their
own over the statements of a script: each keeps track of the current database and of when to stop
in its own way, and two of them start anew with every statement. Each is compared with one plain
recursion over the statements, so all four give the same replies and leave the same store.
-/

import MockSql.Proofs.Wire

namespace MockSql

open MockSql.Text

-- What a statement does is of no concern here, and looking into it is slow.
attribute [local irreducible] Server.execute

/-- The outcomes of statements run one after the other, and the server that they leave. -/
def Server.executeAll (server : Server) (stopOnError : Bool) (current : Current) :
    List String → List (Except Fault Answer) × Server
  | [] => ([], server)
  | query :: rest =>
    let chosen := Session.currentAfter current query
    let (outcome, after) := server.execute chosen query
    if !outcome.isOk && stopOnError then ([outcome], after)
    else
      let (outcomes, last) := Server.executeAll after stopOnError chosen rest
      (outcome :: outcomes, last)

/-- Whether a run stops at a statement: it fails, and the run stops at failures. -/
def Server.stopsAt (server : Server) (stopOnError : Bool) (current : Current) (query : String) :
    Bool :=
  !(server.execute (Session.currentAfter current query) query).1.isOk && stopOnError

/-- Every server that a run of statements comes to is printable. -/
def Server.StaysPrintable (server : Server) (stopOnError : Bool) (current : Current)
    (queries : List String) : Prop :=
  ∀ done, done <+: queries → (server.executeAll stopOnError current done).2.IsPrintable

namespace Server

variable {server : Server} {stopOnError : Bool} {current : Current} {query : String}
  {rest queries : List String}

/-- A run that stops at its first statement has only that one's outcome. -/
theorem executeAll_stop (hstop : server.stopsAt stopOnError current query = true) :
    server.executeAll stopOnError current (query :: rest) =
      ([(server.execute (Session.currentAfter current query) query).1],
        (server.execute (Session.currentAfter current query) query).2) := by
  unfold stopsAt at hstop
  simp only [executeAll, hstop, if_true]

/-- A run that does not stop at its first statement goes on with what that one leaves. -/
theorem executeAll_go (hgo : server.stopsAt stopOnError current query = false) :
    server.executeAll stopOnError current (query :: rest) =
      (let (outcome, after) := server.execute (Session.currentAfter current query) query
      let (outcomes, last) :=
        after.executeAll stopOnError (Session.currentAfter current query) rest
      (outcome :: outcomes, last)) := by
  unfold stopsAt at hgo
  simp only [executeAll, hgo, Bool.false_eq_true, if_false]

theorem StaysPrintable.first (stays : server.StaysPrintable stopOnError current queries) :
    server.IsPrintable :=
  stays [] List.nil_prefix

theorem StaysPrintable.later (stays : server.StaysPrintable stopOnError current (query :: rest))
    (hgo : server.stopsAt stopOnError current query = false) :
    (server.execute (Session.currentAfter current query) query).2.StaysPrintable stopOnError
      (Session.currentAfter current query) rest := by
  intro done hdone
  have hstays := stays (query :: done) ((List.prefix_cons_inj query).mpr hdone)
  rw [executeAll_go hgo] at hstays
  exact hstays

/-- Whatever is answered in a run of printable servers can be written. -/
theorem StaysPrintable.answers (stays : server.StaysPrintable stopOnError current queries) :
    ∀ outcome ∈ (server.executeAll stopOnError current queries).1, ∀ answer,
      outcome = .ok answer → answer.IsPrintable := by
  induction queries generalizing server current with
  | nil =>
      intro outcome houtcome
      cases houtcome
  | cons query rest ih =>
      have hfirst : ∀ answer, (server.execute (Session.currentAfter current query) query).1 =
          .ok answer → answer.IsPrintable := fun answer => execute_isPrintable stays.first
      cases hgo : server.stopsAt stopOnError current query with
      | true =>
          intro outcome houtcome
          rw [executeAll_stop hgo] at houtcome
          cases List.mem_singleton.mp houtcome
          exact hfirst
      | false =>
          intro outcome houtcome
          rw [executeAll_go hgo] at houtcome
          rcases List.mem_cons.mp houtcome with rfl | hlater
          · exact hfirst
          · exact ih (stays.later hgo) outcome hlater

/-- No more statements are run than there are. -/
theorem length_executeAll_le (server : Server) (stopOnError : Bool) (current : Current)
    (queries : List String) :
    (server.executeAll stopOnError current queries).1.length ≤ queries.length := by
  induction queries generalizing server current with
  | nil => exact Nat.le_refl 0
  | cons query rest ih =>
      cases hgo : server.stopsAt stopOnError current query with
      | true =>
          rw [executeAll_stop hgo]
          exact Nat.succ_le_succ (Nat.zero_le _)
      | false =>
          rw [executeAll_go hgo]
          exact Nat.succ_le_succ (ih _ _)

end Server

/-- A session runs statements as the plain recursion does; without durations they take no time. -/
theorem Session.executeAll_eq (session : Session) (queries : List String) :
    let ran := session.store.server.executeAll session.stopOnError session.current queries
    (session.executeAll queries).1.map (·.outcome) = ran.1 ∧
      (session.executeAll queries).2.store = { session.store with server := ran.2 } ∧
      (session.durations = [] → ∀ report ∈ (session.executeAll queries).1, report.elapsed = 0) := by
  induction queries generalizing session with
  | nil => exact ⟨rfl, rfl, fun _ report hreport => nomatch hreport⟩
  | cons query rest ih =>
      have htime : session.durations = [] → (session.execute query).1.elapsed = 0 := by
        intro hdurations
        simp only [execute, executeIn, hdurations, List.headD_nil]
      obtain ⟨houtcomes, hstore, hlater⟩ := ih (session.execute query).2
      cases hgo : session.store.server.stopsAt session.stopOnError session.current query with
      | true =>
          have hrun : session.executeAll (query :: rest) =
              ([(session.execute query).1], (session.execute query).2) := if_pos hgo
          rw [Server.executeAll_stop hgo, hrun]
          refine ⟨rfl, rfl, ?_⟩
          intro hdurations report hreport
          cases List.mem_singleton.mp hreport
          exact htime hdurations
      | false =>
          have hrun : session.executeAll (query :: rest) =
              ((session.execute query).1 :: ((session.execute query).2.executeAll rest).1,
                ((session.execute query).2.executeAll rest).2) := if_neg (Bool.eq_false_iff.mp hgo)
          rw [Server.executeAll_go hgo, hrun]
          refine ⟨congrArg _ houtcomes, hstore, ?_⟩
          intro hdurations report hreport
          have htail : (session.execute query).2.durations = [] := by
            simp only [execute, executeIn, hdurations, List.tail_nil]
          rcases List.mem_cons.mp hreport with rfl | hreport
          · exact htime hdurations
          · exact hlater htail report hreport

/-- The reports of a session without durations are those of the plain recursion. -/
theorem Session.executeAll_timeless {session : Session} (htimeless : session.durations = [])
    (queries : List String) :
    (session.executeAll queries).1 =
      (session.store.server.executeAll session.stopOnError session.current queries).1.map
        fun outcome => ⟨outcome, 0⟩ := by
  obtain ⟨houtcomes, hstore, htimes⟩ := session.executeAll_eq queries
  rw [← houtcomes, List.map_map]
  have hsame : ∀ report ∈ (session.executeAll queries).1,
      ((fun outcome => ⟨outcome, 0⟩) ∘ Report.outcome) report = id report := by
    intro report hreport
    rw [Function.comp_apply, ← htimes htimeless report hreport, id]
  rw [List.map_congr_left hsame, List.map_id]

/-! ## Clients -/

/-- A connection to the database that a query chooses, if it chooses one. -/
def Connection.choose (connection : Connection) (query : String) : Connection :=
  match Statement.chosenDatabase? query with
  | some name => { connection with database := some name }
  | none => connection

/-- A connection chooses what a session chooses. -/
theorem Connection.current_choose (connection : Connection) (query : String) :
    (connection.choose query).current = Session.currentAfter connection.current query := by
  unfold choose Session.currentAfter
  cases Statement.chosenDatabase? query <;> rfl

/-- A database that has been chosen by a query stays chosen when the query is run. -/
theorem Session.currentAfter_currentAfter (current : Current) (query : String) :
    currentAfter (currentAfter current query) query = currentAfter current query := by
  unfold currentAfter
  cases Statement.chosenDatabase? query <;> rfl

/-- A text as it comes out of a script: not empty, and with no white space around it. -/
def IsStatement (query : String) : Prop :=
  query ≠ "" ∧ trim query.toList = query.toList

theorem isStatement_of_mem_statementsOf {script query : String}
    (hquery : query ∈ statementsOf script) : IsStatement query := by
  obtain ⟨trimmed, htrimmed, rfl⟩ := List.mem_map.mp hquery
  obtain ⟨hpart, hnonempty⟩ := List.mem_filter.mp htrimmed
  obtain ⟨part, hmem, rfl⟩ := List.mem_map.mp hpart
  refine ⟨?_, ?_⟩
  · intro hempty
    have hnil := String.ofList_eq_empty_iff.mp hempty
    simp [hnil] at hnonempty
  · rw [String.toList_ofList]
    exact stripWhile_stripWhile isBlank part

namespace World

/-- In a certain mode, a client runs single queries as a server would on a store in its view. -/
structure RunsOn {σ : Type} (network : Network σ) (mode : World σ → Prop)
    (view : World σ → Store) : Prop where
  query : ∀ {world : World σ} {query : String} (connection : Connection), mode world →
    IsStatement query → (view world).server.IsPrintable →
    let ran := (view world).server.execute (Session.currentAfter connection.current query) query
    ∃ reply after, world.query network query connection = (.ok reply, after) ∧ mode after ∧
      reply.withoutTime = Reply.ofOutcome ran.1 ∧ view after = { view world with server := ran.2 }

/-- The reply to a query decides whether a client runs the others as well. -/
theorem queryAll_cons {σ : Type} {network : Network σ} {world after : World σ}
    {connection : Connection} {query : String} {reply : Reply} (stopOnError : Bool)
    (rest : List String)
    (hquery : world.query network query (connection.choose query) = (.ok reply, after)) :
    world.queryAll network connection stopOnError (query :: rest) =
      if !reply.success && stopOnError then (.ok [reply], after)
      else
        ((after.queryAll network (connection.choose query) stopOnError rest).1.map (reply :: ·),
          (after.queryAll network (connection.choose query) stopOnError rest).2) := by
  unfold Connection.choose at hquery ⊢
  cases hchosen : Statement.chosenDatabase? query with
  | none =>
      simp only [hchosen] at hquery ⊢
      simp only [World.queryAll, hchosen, hquery]
  | some name =>
      simp only [hchosen] at hquery ⊢
      simp only [World.queryAll, hchosen, hquery]

/-- A client that runs single queries as a server would runs a list of them as the plain recursion
does. Its loop chooses the database as the query itself does, and a second choice is in vain. -/
theorem RunsOn.queryAll {σ : Type} {network : Network σ} {mode : World σ → Prop}
    {view : World σ → Store} (runs : RunsOn network mode view) {world : World σ}
    {connection : Connection} {stopOnError : Bool} {queries : List String} (hmode : mode world)
    (statements : ∀ query ∈ queries, IsStatement query)
    (stays : (view world).server.StaysPrintable stopOnError connection.current queries) :
    let ran := (view world).server.executeAll stopOnError connection.current queries
    ∃ replies after, world.queryAll network connection stopOnError queries = (.ok replies, after) ∧
      replies.map Reply.withoutTime = ran.1.map Reply.ofOutcome ∧
      view after = { view world with server := ran.2 } := by
  induction queries generalizing world connection with
  | nil => exact ⟨[], world, rfl, rfl, rfl⟩
  | cons query rest ih =>
      have hchosen := connection.current_choose query
      obtain ⟨reply, after, hquery, hafter, hreply, hview⟩ := runs.query (connection.choose query)
        hmode (statements query List.mem_cons_self) stays.first
      rw [hchosen, Session.currentAfter_currentAfter] at hreply hview
      have hsuccess : reply.success = ((view world).server.execute
          (Session.currentAfter connection.current query) query).1.isOk := by
        have hsame : reply.success = reply.withoutTime.success := rfl
        rw [hsame, hreply]
        exact Reply.success_ofReport _
      have hstops : (!reply.success && stopOnError) =
          (view world).server.stopsAt stopOnError connection.current query := by
        rw [hsuccess, Server.stopsAt]
      have hloop := queryAll_cons stopOnError rest hquery
      rw [hstops] at hloop
      cases hgo : (view world).server.stopsAt stopOnError connection.current query with
      | true =>
          have hrun : world.queryAll network connection stopOnError (query :: rest) =
              (.ok [reply], after) := by rw [hloop, if_pos hgo]
          rw [Server.executeAll_stop hgo]
          exact ⟨[reply], after, hrun, by simp [hreply], hview⟩
      | false =>
          have hstays := stays.later hgo
          have hserver : (view after).server = ((view world).server.execute
              (Session.currentAfter connection.current query) query).2 := by rw [hview]
          rw [← hserver] at hstays
          have hothers : ∀ later ∈ rest, IsStatement later := by
            intro later hlater
            exact statements later (List.mem_cons_of_mem _ hlater)
          obtain ⟨replies, last, hrest, hreplies, hlast⟩ := @ih after (connection.choose query)
            hafter hothers (hchosen ▸ hstays)
          rw [hchosen, hserver] at hreplies hlast
          have hrun : world.queryAll network connection stopOnError (query :: rest) =
              (.ok (reply :: replies), last) := by
            rw [hloop, if_neg (Bool.eq_false_iff.mp hgo), hrest]
            rfl
          rw [Server.executeAll_go hgo]
          refine ⟨reply :: replies, last, hrun, ?_, ?_⟩
          · simp only [List.map_cons, hreply, hreplies]
          · rw [hlast, hview]

/-- A client in demo mode runs queries on its own store and sends nothing. -/
theorem runsOn_demo {σ : Type} (network : Network σ) :
    RunsOn network (·.client.isDemo = true) (·.client.store) where
  query := by
    intro world query connection hdemo _ _
    have hcheck : world.check network = (false, world) := by
      have havailable : world.client.available = some false := beq_iff_eq.mp hdemo
      simp only [check, havailable]
    have hquery : world.query network query connection = world.queryDemo query connection := by
      simp only [World.query, hcheck, Bool.not_false, if_true]
    rw [hquery]
    exact ⟨_, _, rfl, hdemo, Reply.withoutTime_ofReport _, rfl⟩

/-- A linked client runs queries on the store of the API. -/
theorem runsOn_served : RunsOn Network.served IsLinked (·.peer) where
  query := by
    intro world query connection linked statement printable
    obtain ⟨after, hquery, hlinked, hpeer⟩ :=
      query_served connection linked statement.1 statement.2 printable
    exact ⟨_, after, hquery, hlinked, Reply.withoutTime_ofReport _, hpeer⟩

end World

namespace Http

/-- The members of a request to run a script. -/
def scriptMembers (script : String) (connection : Connection) (stopOnError : Bool) :
    Entries Json :=
  [("script", .text script), ("connection", connection.toJson),
    ("stop_on_error", .bool stopOnError)]

/-- The members of the answer to a script. -/
def scriptAnswer (replies : List Reply) : Entries Json :=
  [("success", .bool (replies.all (·.success))), ("results", .array (replies.map Reply.toJson)),
    ("count", .int replies.length)]

variable {store : Store} {script : String} {connection : Connection} {stopOnError : Bool}

/-- A script that is not blank runs in a session of its own. -/
theorem handleScript_eq (hscript : trim script.toList ≠ []) :
    let session : Session := { store, current := connection.current, stopOnError }
    handleScript (scriptMembers script connection stopOnError) store =
      (respond 200 (scriptAnswer ((session.executeScript script).1.map Reply.ofReport)),
        (session.executeScript script).2.store) := by
  intro session
  have htext : textMember? (scriptMembers script connection stopOnError) "script" = some script :=
    rfl
  have hcurrent : currentOf? (scriptMembers script connection stopOnError) =
      some connection.current := currentOf?_toJson connection rfl
  have hstop : ((scriptMembers script connection stopOnError).get? "stop_on_error").any
      Json.isTruthy = stopOnError := rfl
  have hnonblank : (trim script.toList).isEmpty = false := by simp [hscript]
  have hsuccess : (fun reply : Reply => reply.success) ∘ Reply.ofReport = Report.succeeded :=
    funext Reply.success_ofReport
  simp only [handleScript, htext, hnonblank, hcurrent, hstop, Bool.false_eq_true, if_false,
    scriptAnswer, List.all_map, List.map_map, List.length_map, hsuccess]
  rfl

/-- The answer to a script can be written if the replies in it can. -/
theorem scriptAnswer_isWritable {replies : List Reply}
    (hreplies : ∀ reply ∈ replies, reply.toJson.isWritable = true)
    (hlength : Number.isPrintable replies.length = true) :
    (Json.object (scriptAnswer replies)).isWritable = true := by
  have hresults : Json.areWritable (replies.map Reply.toJson) = true := by
    rw [Json.areWritable_iff]
    intro item hitem
    obtain ⟨reply, hreply, rfl⟩ := List.mem_map.mp hitem
    exact hreplies reply hreply
  simp [scriptAnswer, Json.isWritable, Json.membersWritable, Json.bool, Json.int, hresults, hlength]

/-- The API answers a script with the replies to its statements. -/
theorem serve_script (hscript : trim script.toList ≠ [])
    (hcount : Number.isPrintable (statementsOf script).length = true)
    (stays : store.server.StaysPrintable stopOnError connection.current (statementsOf script)) :
    let ran := store.server.executeAll stopOnError connection.current (statementsOf script)
    serve store ⟨"POST", "/script", .json (.object (scriptMembers script connection stopOnError))⟩ =
      (⟨200, some (.object (scriptAnswer (ran.1.map fun outcome => Reply.ofReport ⟨outcome, 0⟩)))⟩,
        { store with server := ran.2 }) := by
  intro ran
  let session : Session := { store, current := connection.current, stopOnError }
  have hreports : (session.executeScript script).1.map Reply.ofReport =
      ran.1.map fun outcome => Reply.ofReport ⟨outcome, 0⟩ := by
    rw [Session.executeScript, Session.executeAll_timeless rfl, List.map_map]
    rfl
  have hstore : (session.executeScript script).2.store = { store with server := ran.2 } :=
    (session.executeAll_eq (statementsOf script)).2.1
  have hlength : Number.isPrintable
      (ran.1.map fun outcome => Reply.ofReport ⟨outcome, 0⟩).length = true := by
    rw [List.length_map]
    exact Number.isPrintable_of_le (Server.length_executeAll_le _ _ _ _) hcount
  have hreplies : ∀ reply ∈ ran.1.map fun outcome => Reply.ofReport ⟨outcome, 0⟩,
      reply.toJson.isWritable = true := by
    intro reply hreply
    obtain ⟨outcome, houtcome, rfl⟩ := List.mem_map.mp hreply
    exact Reply.isWritable_ofReport (stays.answers outcome houtcome)
  have hwritable := scriptAnswer_isWritable hreplies hlength
  have hpath : Endpoint.ofSegments? (segments "/script") = some .script := by decide +kernel
  have hhandle : handle .script (.json (.object (scriptMembers script connection stopOnError)))
      store = handleScript (scriptMembers script connection stopOnError) store := rfl
  rw [serve_endpoint hpath (by decide +kernel) (by decide) (by decide), hhandle,
    handleScript_eq hscript, hreports, hstore, respond_eq _ hwritable]
  rfl

end Http

/-! ## The four ways agree -/

/-- A session, a client in demo mode, a linked client and the API run a script in the same way:
with the same replies, times aside, and the same store at the end, wherever they start and whether
or not they stop at a failure. No integer with too many digits may be stored on the way; as many
rows, databases or statements as that would be too many to count. -/
theorem Session.script_agrees {σ : Type} (network : Network σ) (demo : World σ)
    (linked : World Store) (session : Session) (script : String) (connection : Connection)
    (hscript : trim script.toList ≠ [])
    (hcurrent : session.current = connection.current)
    (hdemo : demo.client.isDemo = true) (hdemoStore : demo.client.store = session.store)
    (hlinked : linked.IsLinked) (hpeer : linked.peer = session.store)
    (hcount : Number.isPrintable (statementsOf script).length = true)
    (hstored : ∀ done, done <+: statementsOf script →
      (session.executeAll done).2.store.server.IsPrintable) :
    let stop := session.stopOnError
    let replies := (session.executeScript script).1.map fun report =>
      (Reply.ofReport report).withoutTime
    let store := (session.executeScript script).2.store
    (∃ sent after, demo.script network script connection stop = (.ok sent, after) ∧
      sent.map Reply.withoutTime = replies ∧ after.client.store = store) ∧
    (∃ sent after, linked.script Network.served script connection stop = (.ok sent, after) ∧
      sent.map Reply.withoutTime = replies ∧ after.peer = store) ∧
    ∃ sent, Http.serve session.store
        ⟨"POST", "/script", .json (.object (Http.scriptMembers script connection stop))⟩ =
          (⟨200, some (.object (Http.scriptAnswer sent))⟩, store) ∧
      sent.map Reply.withoutTime = replies := by
  intro stop replies store
  have hstays : session.store.server.StaysPrintable stop connection.current
      (statementsOf script) := by
    intro done hdone
    have hprintable := hstored done hdone
    rw [(session.executeAll_eq done).2.1, hcurrent] at hprintable
    exact hprintable
  have hstatements : ∀ query ∈ statementsOf script, IsStatement query := by
    intro query hquery
    exact isStatement_of_mem_statementsOf hquery
  obtain ⟨houtcomes, hstore, htimes⟩ := session.executeAll_eq (statementsOf script)
  rw [hcurrent] at houtcomes hstore
  have hreplies : (session.store.server.executeAll stop connection.current
      (statementsOf script)).1.map Reply.ofOutcome = replies := by
    rw [← houtcomes, List.map_map]
    apply List.map_congr_left
    intro report hreport
    exact (Reply.withoutTime_ofReport report).symm
  refine ⟨?_, ?_, ?_⟩
  · obtain ⟨sent, after, hrun, hsent, hafter⟩ :=
      (World.runsOn_demo network).queryAll hdemo hstatements (hdemoStore ▸ hstays)
    rw [hdemoStore] at hsent hafter
    exact ⟨sent, after, hrun, hsent.trans hreplies, hafter.trans hstore.symm⟩
  · obtain ⟨sent, after, hrun, hsent, hafter⟩ :=
      World.runsOn_served.queryAll hlinked hstatements (hpeer ▸ hstays)
    rw [hpeer] at hsent hafter
    exact ⟨sent, after, hrun, hsent.trans hreplies, hafter.trans hstore.symm⟩
  · have hserve := Http.serve_script hscript hcount hstays
    refine ⟨_, hserve.trans (congrArg (Prod.mk _) hstore.symm), ?_⟩
    rw [← hreplies, List.map_map]
    apply List.map_congr_left
    intro outcome houtcome
    exact Reply.withoutTime_ofReport ⟨outcome, 0⟩

/-- A script over the built-in databases that chooses a database, fails in it, then deletes. -/
theorem Session.script_agrees_of_builtin :
    let store := Store.ofSeed Seed.server
    let client : Client :=
      { baseUrl := "http://localhost:3001", timeout := .ofDecimal false 5 0
        healthTimeout := .ofDecimal false 15 (-1), store }
    let session : Session := { store, current := .named "demo_db" }
    let script :=
      "use Company_DB; SELECT * FROM users;; DELETE FROM employees WHERE emp_id IN (101)"
    (session.executeScript script).1.map (·.succeeded) = [true, false, true] ∧
      ∃ sent after, (⟨client, store, []⟩ : World Store).script Network.served script
          { database := some "demo_db" } false = (.ok sent, after) ∧
        sent.map Reply.withoutTime = (session.executeScript script).1.map fun report =>
          (Reply.ofReport report).withoutTime := by
  intro store client session script
  have hlength : (statementsOf script).length = 3 := by decide +kernel
  have htaken : ∀ n < 4,
      (session.executeAll ((statementsOf script).take n)).2.store.server.IsPrintable := by
    decide +kernel
  have hstored : ∀ done, done <+: statementsOf script →
      (session.executeAll done).2.store.server.IsPrintable := by
    intro done hdone
    have hle := hdone.length_le
    rw [List.prefix_iff_eq_take.mp hdone]
    apply htaken
    omega
  have horigin : Http.IsOrigin client.baseUrl :=
    ⟨"http".toList, "localhost:3001".toList, by decide +kernel, by decide +kernel,
      by decide +kernel, by decide +kernel⟩
  obtain ⟨hdemo, ⟨sent, after, hrun, hsent, hafter⟩, happ⟩ :=
    Session.script_agrees Network.scripted ⟨{ client with available := some false }, [], []⟩
      ⟨client, store, []⟩ session script { database := some "demo_db" } (by decide +kernel)
      rfl rfl rfl ⟨horigin, by decide⟩ rfl (by rw [hlength]; decide) hstored
  exact ⟨by decide +kernel, sent, after, hrun, hsent⟩

end MockSql
