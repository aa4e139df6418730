/-
# The mode of a client

A client asks a backend once whether it is healthy, and works on its demo store from the moment it
cannot reach it. Whatever it is asked to do, it does in small moves: the question, a call that gets
through, a call that does not, work on the demo store. What each of these moves keeps is what every
run keeps, for every network: the mode can be read off the calls that were sent and what the network
delivered for them.
-/

import Mathlib.Logic.Relation
import MockSql.Client
import MockSql.Seed

namespace MockSql

/-- Whether a delivery says that the backend is healthy. -/
def Delivery.isHealthy : Delivery → Bool
  | .response status _ => !isErrorStatus status
  | .failure _ => false

/-- Whether there was a connection, whatever came over it. -/
def Delivery.isConnected : Delivery → Bool
  | .response _ _ => true
  | .failure kind => !kind.isUnreachable

/-- A call together with what was delivered for it. -/
abbrev Exchange := Call × Delivery

/-- Whether an exchange hands something to the backend. -/
def Exchange.isPost (exchange : Exchange) : Bool :=
  exchange.1.method == "POST"

/-- What a network delivers for calls that are sent one after the other, and its state after that. -/
def Network.exchanges {σ : Type} (network : Network σ) (peer : σ) :
    List Call → List Exchange × σ
  | [] => ([], peer)
  | call :: rest =>
    let (delivery, next) := network.send call peer
    let (others, last) := network.exchanges next rest
    ((call, delivery) :: others, last)

section Exchanges

variable {σ : Type} (network : Network σ) (peer : σ)

/-- More calls are sent in the state that those before them leave. -/
theorem Network.exchanges_append (calls more : List Call) :
    network.exchanges peer (calls ++ more) =
      (let (before, next) := network.exchanges peer calls
      let (others, last) := network.exchanges next more
      (before ++ others, last)) := by
  induction calls generalizing peer with
  | nil => rfl
  | cons first rest ih => simp only [List.cons_append, exchanges, ih]

theorem Network.exchanges_calls (calls : List Call) :
    (network.exchanges peer calls).1.map Prod.fst = calls := by
  induction calls generalizing peer with
  | nil => rfl
  | cons first rest ih => simp only [exchanges, List.map_cons, ih]

theorem Network.exchanges_extend {calls longer : List Call} (hextends : calls <+: longer) :
    (network.exchanges peer calls).1 <+: (network.exchanges peer longer).1 := by
  obtain ⟨more, rfl⟩ := hextends
  rw [exchanges_append]
  exact List.prefix_append _ _

end Exchanges

/-- Calls that may have been sent by a client in a mode. It knows nothing before the first call,
which asks for the backend's health. While that is available, every later call has got through. After
an unhealthy answer, or after the first call that has not got through, there is no other. -/
inductive Client.History (health : Call) : Option Bool → List Exchange → Prop
  | unasked : History health none []
  | online {delivery : Delivery} {posts : List Exchange} (healthy : delivery.isHealthy = true)
      (connected : ∀ post ∈ posts, post.isPost = true ∧ post.2.isConnected = true) :
      History health (some true) ((health, delivery) :: posts)
  | unhealthy {delivery : Delivery} (ill : delivery.isHealthy = false) :
      History health (some false) [(health, delivery)]
  | lost {delivery : Delivery} {posts : List Exchange} {last : Exchange}
      (healthy : delivery.isHealthy = true)
      (connected : ∀ post ∈ posts, post.isPost = true ∧ post.2.isConnected = true)
      (posted : last.isPost = true) (broken : last.2.isConnected = false) :
      History health (some false) ((health, delivery) :: (posts ++ [last]))

namespace Client.History

variable {health : Call} {exchanges : List Exchange} {exchange : Exchange}

/-- The first exchange is about the backend's health. -/
theorem ask (history : History health none exchanges) (delivery : Delivery) :
    History health (some delivery.isHealthy) (exchanges ++ [(health, delivery)]) := by
  cases history
  cases hhealthy : delivery.isHealthy with
  | true => exact .online hhealthy (by simp)
  | false => exact .unhealthy hhealthy

/-- While the backend can be reached, the mode stays. -/
theorem post (history : History health (some true) exchanges) (posted : exchange.isPost = true)
    (connected : exchange.2.isConnected = true) :
    History health (some true) (exchanges ++ [exchange]) := by
  cases history with
  | online healthy earlier =>
      refine .online healthy ?_
      intro other hother
      rcases List.mem_append.mp hother with hother | hother
      · exact earlier other hother
      · cases List.mem_singleton.mp hother
        exact ⟨posted, connected⟩

/-- The first time that it cannot, it is given up. -/
theorem lose (history : History health (some true) exchanges) (posted : exchange.isPost = true)
    (broken : exchange.2.isConnected = false) :
    History health (some false) (exchanges ++ [exchange]) := by
  cases history with
  | online healthy earlier => exact .lost healthy earlier posted broken

/-- A backend that was available is given up because a call to it finds no connection. -/
theorem lost_of_extends {later : List Exchange} (online : History health (some true) exchanges)
    (offline : History health (some false) later) (hextends : exchanges <+: later) :
    ∃ between last, later = exchanges ++ between ++ [last] ∧ last.isPost = true ∧
      last.2.isConnected = false := by
  cases online with
  | @online delivery posts healthy connected =>
      cases offline with
      | unhealthy ill =>
          obtain ⟨heq, _⟩ := List.cons_prefix_cons.mp hextends
          cases heq
          cases ill.symm.trans healthy
      | @lost _ others last _ _ posted broken =>
          obtain ⟨heq, htail⟩ := List.cons_prefix_cons.mp hextends
          cases heq
          rcases List.prefix_concat_iff.mp htail with hall | hbefore
          · have hlast := (connected last (hall ▸ List.mem_concat_self)).2
            cases hlast.symm.trans broken
          · obtain ⟨between, rfl⟩ := hbefore
            exact ⟨between, last, by simp, posted, broken⟩

/-- There is at most one question about the backend's health, and it comes first. -/
theorem calls_eq {mode : Option Bool} (history : History health mode exchanges) :
    exchanges.map Prod.fst = [] ∨ ∃ posts, exchanges.map Prod.fst = health :: posts ∧
      ∀ post ∈ posts, post.method = "POST" := by
  have hmethods : ∀ list : List Exchange, (∀ post ∈ list, post.isPost = true) →
      ∀ post ∈ list.map Prod.fst, post.method = "POST" := by
    intro list hposts post hpost
    obtain ⟨exchange, hmem, rfl⟩ := List.mem_map.mp hpost
    exact beq_iff_eq.mp (hposts exchange hmem)
  cases history with
  | unasked => exact .inl rfl
  | unhealthy ill => exact .inr ⟨[], rfl, by simp⟩
  | @online delivery posts healthy connected =>
      exact .inr ⟨_, rfl, hmethods posts fun post hpost => (connected post hpost).1⟩
  | @lost delivery posts last healthy connected posted broken =>
      refine .inr ⟨_, rfl, hmethods (posts ++ [last]) ?_⟩
      intro post hpost
      rcases List.mem_append.mp hpost with hpost | hpost
      · exact (connected post hpost).1
      · exact List.mem_singleton.mp hpost ▸ posted

end Client.History

/-! ## Moves -/

namespace World

variable {σ : Type} {network : Network σ} {world after : World σ}

/-- The world with another demo store. -/
def withStore (world : World σ) (store : Store) : World σ :=
  { world with client := { world.client with store } }

/-- The smallest things that a client does. -/
inductive Move (network : Network σ) : World σ → World σ → Prop
  /-- It asks whether the backend is healthy. -/
  | ask {world after : World σ} {delivery : Delivery} (unasked : world.client.available = none)
      (sent : world.send network world.client.healthCall = (delivery, after)) :
      Move network world (after.setAvailable delivery.isHealthy)
  /-- It sends a call to the backend, over a connection. -/
  | post {world after : World σ} {call : Call} {delivery : Delivery}
      (online : world.client.available = some true) (posted : call.method = "POST")
      (sent : world.send network call = (delivery, after))
      (connected : delivery.isConnected = true) : Move network world after
  /-- It sends a call, finds no connection, and gives the backend up. -/
  | lose {world after : World σ} {call : Call} {delivery : Delivery}
      (online : world.client.available = some true) (posted : call.method = "POST")
      (sent : world.send network call = (delivery, after))
      (broken : delivery.isConnected = false) : Move network world (after.setAvailable false)
  /-- It works on its demo store. -/
  | demo {world : World σ} (store : Store) (offline : world.client.available = some false) :
      Move network world (world.withStore store)

/-- Several moves, one after the other. -/
def Moves (network : Network σ) : World σ → World σ → Prop :=
  Relation.ReflTransGen (Move network)

/-- The calls of a world that hand something to the backend. -/
def postCount (world : World σ) : Nat :=
  world.calls.countP (·.method == "POST")

/-- Asking for the backend's health is one move or none, and then the mode is known. -/
theorem check_moves (network : Network σ) (world : World σ) :
    world.Moves network (world.check network).2 ∧
      (world.check network).2.client.available = some (world.check network).1 ∧
      (world.check network).2.postCount = world.postCount := by
  unfold check
  split
  next known hknown => exact ⟨.refl, hknown, rfl⟩
  next hunknown =>
    refine ⟨.single ?_, rfl, ?_⟩
    · exact .ask hunknown rfl
    · simp [postCount, send, setAvailable, Client.healthCall]

theorem calls_of_send {call : Call} {delivery : Delivery}
    (sent : world.send network call = (delivery, after)) : after.calls = world.calls ++ [call] := by
  cases sent
  rfl

theorem client_of_send {call : Call} {delivery : Delivery}
    (sent : world.send network call = (delivery, after)) : after.client = world.client := by
  cases sent
  rfl

/-- The world after a call to the backend, or without a connection, after the same in demo mode. -/
def attempt (network : Network σ) (world : World σ) (call : Call) (demo : World σ → World σ) :
    World σ :=
  let (delivery, sender) := world.send network call
  if delivery.isConnected then sender else demo (sender.setAvailable false)

/-- The world after a call to the backend if it is available, and otherwise after the same in demo
mode. -/
def attemptIf (network : Network σ) (available : Bool) (world : World σ) (call : Call)
    (demo : World σ → World σ) : World σ :=
  if available then world.attempt network call demo else demo world

theorem connect_eq (network : Network σ) (world : World σ) (connection : Connection) :
    (world.connect network connection).2 =
      (let (available, checked) := world.check network
      attemptIf network available checked (checked.client.connectCall connection)
        (·.connectDemo.2)) := by
  unfold connect
  obtain ⟨available, checked⟩ := world.check network
  cases available with
  | false => rfl
  | true =>
      simp only [attemptIf, attempt, Bool.not_true, Bool.false_eq_true, if_false, if_true]
      obtain ⟨delivery, sender⟩ := checked.send network (checked.client.connectCall connection)
      cases delivery with
      | response status body => rfl
      | failure kind => cases kind <;> rfl

theorem query_eq (network : Network σ) (world : World σ) (query : String)
    (connection : Connection) :
    (world.query network query connection).2 =
      (let (available, checked) := world.check network
      attemptIf network available checked (checked.client.queryCall query connection)
        (fun sender => (sender.queryDemo query connection).2)) := by
  unfold World.query
  obtain ⟨available, checked⟩ := world.check network
  cases available with
  | false => rfl
  | true =>
      simp only [attemptIf, attempt, Bool.not_true, Bool.false_eq_true, if_false, if_true]
      obtain ⟨delivery, sender⟩ := checked.send network (checked.client.queryCall query connection)
      cases delivery with
      | response status body => rfl
      | failure kind => cases kind <;> rfl

/-- An attempt to post a call is at most two moves, and posts at most one call. -/
theorem attemptIf_moves (network : Network σ) {available : Bool} {call : Call}
    {demo : World σ → World σ} (known : world.client.available = some available)
    (posted : call.method = "POST")
    (stores : ∀ sender : World σ, ∃ store, demo sender = sender.withStore store) :
    world.Moves network (attemptIf network available world call demo) ∧
      (attemptIf network available world call demo).postCount ≤ world.postCount + 1 := by
  cases available with
  | false =>
      obtain ⟨store, hstore⟩ := stores world
      simp only [attemptIf, Bool.false_eq_true, if_false, hstore]
      exact ⟨.single (.demo store known), Nat.le_succ _⟩
  | true =>
      cases hsent : world.send network call with
      | mk delivery sender =>
          have hcount : sender.postCount ≤ world.postCount + 1 := by
            rw [postCount, postCount, calls_of_send hsent, List.countP_append,
              List.countP_singleton]
            split <;> omega
          simp only [attemptIf, attempt, hsent, if_true]
          cases hconnected : delivery.isConnected with
          | true => exact ⟨.single (.post known posted hsent hconnected), hcount⟩
          | false =>
              obtain ⟨store, hstore⟩ := stores (sender.setAvailable false)
              simp only [Bool.false_eq_true, if_false, hstore]
              exact ⟨.tail (.single (.lose known posted hsent hconnected)) (.demo store rfl), hcount⟩

theorem connect_moves (network : Network σ) (world : World σ) (connection : Connection) :
    world.Moves network (world.connect network connection).2 ∧
      (world.connect network connection).2.postCount ≤ world.postCount + 1 := by
  obtain ⟨hcheck, hknown, hcount⟩ := check_moves network world
  have hstores : ∀ sender : World σ, ∃ store, sender.connectDemo.2 = sender.withStore store :=
    fun sender => ⟨sender.client.store.reset, rfl⟩
  have hposted : ((world.check network).2.client.connectCall connection).method = "POST" := rfl
  obtain ⟨hmoves, hposts⟩ := attemptIf_moves network hknown hposted hstores
  rw [connect_eq]
  exact ⟨hcheck.trans hmoves, hcount ▸ hposts⟩

theorem query_moves (network : Network σ) (world : World σ) (query : String)
    (connection : Connection) :
    world.Moves network (world.query network query connection).2 ∧
      (world.query network query connection).2.postCount ≤ world.postCount + 1 := by
  obtain ⟨hcheck, hknown, hcount⟩ := check_moves network world
  have hstores : ∀ sender : World σ, ∃ store,
      (sender.queryDemo query connection).2 = sender.withStore store :=
    fun sender => ⟨(sender.client.queryDemo query connection).2.store, rfl⟩
  have hposted : ((world.check network).2.client.queryCall query connection).method = "POST" := rfl
  obtain ⟨hmoves, hposts⟩ := attemptIf_moves network hknown hposted hstores
  rw [query_eq]
  exact ⟨hcheck.trans hmoves, hcount ▸ hposts⟩

/-- A list of queries is a list of moves, wherever it stops. -/
theorem queryAll_moves (network : Network σ) (world : World σ) (connection : Connection)
    (stopOnError : Bool) (queries : List String) :
    world.Moves network (world.queryAll network connection stopOnError queries).2 := by
  induction queries generalizing world connection with
  | nil => exact .refl
  | cons query rest ih =>
      unfold queryAll
      extract_lets chosen
      obtain ⟨hfirst, -⟩ := query_moves network world query chosen
      split
      next mishap next hquery =>
        rw [hquery] at hfirst
        exact hfirst
      next reply next hquery =>
        rw [hquery] at hfirst
        split
        next => exact hfirst
        next => exact hfirst.trans (ih next chosen)

/-- Without a backend there is nothing but work on the demo store. -/
theorem Move.stays_offline (move : world.Move network after)
    (offline : world.client.available = some false) :
    after.client.available = some false ∧ after.calls = world.calls := by
  cases move with
  | ask unasked => cases unasked.symm.trans offline
  | post online => cases online.symm.trans offline
  | lose online => cases online.symm.trans offline
  | demo store => exact ⟨offline, rfl⟩

theorem Moves.stays_offline (moves : world.Moves network after)
    (offline : world.client.available = some false) :
    after.client.available = some false ∧ after.calls = world.calls := by
  induction moves with
  | refl => exact ⟨offline, rfl⟩
  | tail earlier last ih =>
      obtain ⟨hoffline, hcalls⟩ := last.stays_offline ih.1
      exact ⟨hoffline, hcalls.trans ih.2⟩

/-- Only work on the demo store changes it, and after that there is no backend any more. -/
theorem Moves.store_eq_or_offline (moves : world.Moves network after) :
    after.client.store = world.client.store ∨ after.client.available = some false := by
  induction moves with
  | refl => exact .inl rfl
  | tail earlier last ih =>
      rcases ih with hstore | hoffline
      · cases last with
        | ask unasked sent => exact .inl ((congrArg Client.store (client_of_send sent)).trans hstore)
        | post online posted sent connected =>
            exact .inl ((congrArg Client.store (client_of_send sent)).trans hstore)
        | lose online posted sent broken => exact .inr rfl
        | demo store offline => exact .inr offline
      · exact .inr (last.stays_offline hoffline).1

/-- What has been sent stays sent. -/
theorem Moves.calls_extend (moves : world.Moves network after) : world.calls <+: after.calls := by
  induction moves with
  | refl => exact List.prefix_refl _
  | tail earlier last ih =>
      refine ih.trans ?_
      cases last with
      | ask unasked sent => exact ⟨_, (calls_of_send sent).symm⟩
      | post online posted sent connected => exact ⟨_, (calls_of_send sent).symm⟩
      | lose online posted sent broken => exact ⟨_, (calls_of_send sent).symm⟩
      | demo store offline => exact List.prefix_refl _

/-- The mode of a world agrees with the calls that have been sent since its network was in the
state `peer`, and with what came of them. -/
structure Explained (network : Network σ) (health : Call) (peer : σ) (world : World σ) : Prop where
  history : Client.History health world.client.available (network.exchanges peer world.calls).1
  peer_eq : (network.exchanges peer world.calls).2 = world.peer
  health_eq : world.client.healthCall = health

/-- A call that is sent adds an exchange, and its delivery decides the mode. -/
theorem Explained.send {health call : Call} {delivery : Delivery} {peer : σ} {mode : Option Bool}
    (explained : world.Explained network health peer)
    (sent : world.send network call = (delivery, after))
    (history : Client.History health mode
      ((network.exchanges peer world.calls).1 ++ [(call, delivery)])) :
    Explained network health peer
      { after with client := { after.client with available := mode } } := by
  have hsend : network.send call world.peer = (delivery, after.peer) := by
    cases sent
    rfl
  have hexchanges : network.exchanges peer after.calls =
      ((network.exchanges peer world.calls).1 ++ [(call, delivery)], after.peer) := by
    rw [calls_of_send sent, Network.exchanges_append]
    simp only [Network.exchanges, explained.peer_eq, hsend]
  refine ⟨?_, ?_, ?_⟩
  · simp only [hexchanges]
    exact history
  · simp only [hexchanges]
  · rw [← explained.health_eq, ← client_of_send sent]
    rfl

theorem Move.explained {health : Call} {peer : σ} (explained : world.Explained network health peer)
    (move : world.Move network after) : after.Explained network health peer := by
  have history := explained.history
  cases move with
  | @ask sender delivery unasked sent =>
      rw [unasked] at history
      rw [explained.health_eq] at sent
      exact explained.send sent (history.ask delivery)
  | @post _ call delivery online posted sent connected =>
      rw [online] at history
      have hmode : after.client.available = some true := by rw [client_of_send sent, online]
      have hpost := explained.send sent (history.post (beq_iff_eq.mpr posted) connected)
      rw [← hmode] at hpost
      exact hpost
  | lose online posted sent broken =>
      rw [online] at history
      exact explained.send sent (history.lose (beq_iff_eq.mpr posted) broken)
  | demo store offline => exact ⟨history, explained.peer_eq, explained.health_eq⟩

theorem Moves.explained {health : Call} {peer : σ} (explained : world.Explained network health peer)
    (moves : world.Moves network after) : after.Explained network health peer := by
  induction moves with
  | refl => exact explained
  | tail earlier last ih => exact last.explained ih

end World

/-! ## Runs -/

/-- What a client can be asked to do. -/
inductive Client.Action where
  | check
  | connect (connection : Connection)
  | query (query : String) (connection : Connection)
  | script (script : String) (connection : Connection) (stopOnError : Bool)
  | readMode
  | readDemoState

/-- Whether an action has one thing at most to hand to the backend. -/
def Client.Action.isSingle : Client.Action → Bool
  | .script _ _ _ => false
  | _ => true

namespace World

variable {σ : Type} (network : Network σ)

/-- The world after an action of its client. -/
def perform (world : World σ) : Client.Action → World σ
  | .check => (world.check network).2
  | .connect connection => (world.connect network connection).2
  | .query query connection => (world.query network query connection).2
  | .script script connection stopOnError =>
    (world.script network script connection stopOnError).2
  | .readMode | .readDemoState => world

/-- The world after several actions of its client. -/
def performAll (world : World σ) (actions : List Client.Action) : World σ :=
  actions.foldl (perform network) world

theorem perform_moves (world : World σ) (action : Client.Action) :
    world.Moves network (world.perform network action) := by
  cases action with
  | check => exact (check_moves network world).1
  | connect connection => exact (connect_moves network world connection).1
  | query query connection => exact (query_moves network world query connection).1
  | script script connection stopOnError =>
      exact queryAll_moves network world connection stopOnError (statementsOf script)
  | readMode => exact .refl
  | readDemoState => exact .refl

theorem performAll_moves (world : World σ) (actions : List Client.Action) :
    world.Moves network (world.performAll network actions) := by
  induction actions generalizing world with
  | nil => exact .refl
  | cons action rest ih => exact (perform_moves network world action).trans (ih _)

theorem perform_postCount_le (world : World σ) {action : Client.Action}
    (single : action.isSingle = true) :
    (world.perform network action).postCount ≤ world.postCount + 1 := by
  cases action with
  | check => exact (check_moves network world).2.2 ▸ Nat.le_succ _
  | connect connection => exact (connect_moves network world connection).2
  | query query connection => exact (query_moves network world query connection).2
  | script => cases single
  | readMode => exact Nat.le_succ _
  | readDemoState => exact Nat.le_succ _

/-- Along every run of a new client, whatever the network delivers: the calls explain the mode; the
only question about the backend's health comes first; once the backend is given up nothing more is
sent; it is given up only because a call to it finds no connection; connecting and running a query
send it one call at most; the demo store changes only in actions that end without the backend; and
that store can be read exactly in demo mode. -/
theorem mode_along_run (client : Client) (peer : σ) (fresh : client.available = none)
    (actions : List Client.Action) :
    let world := performAll network ⟨client, peer, []⟩ actions
    let exchanges := (network.exchanges peer world.calls).1
    Client.History client.healthCall world.client.available exchanges ∧
      (world.calls = [] ∨ ∃ posts, world.calls = client.healthCall :: posts ∧
        ∀ post ∈ posts, post.method = "POST") ∧
      (world.client.available = some false → ∀ more,
        (world.performAll network more).client.available = some false ∧
          (world.performAll network more).calls = world.calls) ∧
      (∀ action, let after := world.perform network action
        (world.client.available = some true → after.client.available = some false →
          ∃ between last, (network.exchanges peer after.calls).1 =
            exchanges ++ between ++ [last] ∧ last.isPost = true ∧ last.2.isConnected = false) ∧
        (action.isSingle = true → ∃ sent, after.calls = world.calls ++ sent ∧
          sent.countP (·.method == "POST") ≤ 1) ∧
        (after.client.store ≠ world.client.store → after.client.available = some false)) ∧
      (world.client.demoState?.isSome = true ↔ world.client.isDemo = true) := by
  intro world exchanges
  have hstart : Explained network client.healthCall peer ⟨client, peer, []⟩ := by
    refine ⟨?_, rfl, rfl⟩
    rw [fresh]
    exact .unasked
  have hexplained : world.Explained network client.healthCall peer :=
    (performAll_moves network ⟨client, peer, []⟩ actions).explained hstart
  have hcalls := hexplained.history.calls_eq
  rw [Network.exchanges_calls] at hcalls
  refine ⟨hexplained.history, hcalls, ?_, ?_, ?_⟩
  · intro offline more
    exact (performAll_moves network world more).stays_offline offline
  · intro action after
    have hmoves : world.Moves network after := perform_moves network world action
    have hafter := (hmoves.explained hexplained).history
    refine ⟨?_, ?_, ?_⟩
    · intro online offline
      have hbefore := hexplained.history
      rw [online] at hbefore
      rw [offline] at hafter
      exact hbefore.lost_of_extends hafter (network.exchanges_extend peer hmoves.calls_extend)
    · intro single
      obtain ⟨sent, hsent⟩ := hmoves.calls_extend
      refine ⟨sent, hsent.symm, ?_⟩
      have hcount := perform_postCount_le network world single
      rw [postCount, postCount, ← hsent, List.countP_append] at hcount
      omega
    · intro hchanged
      exact hmoves.store_eq_or_offline.resolve_left hchanged
  · unfold Client.demoState?
    split
    next hdemo => exact ⟨fun _ => hdemo, fun _ => rfl⟩
    next hdemo => exact ⟨fun hsome => (nomatch hsome), fun hyes => absurd hyes hdemo⟩

-- The run below is computed by the kernel and compared by its name elsewhere.
attribute [local irreducible] performAll perform

/-- A backend that answers twice, is too slow once and then cannot be reached: the script that meets
with this goes on in demo mode. -/
theorem mode_along_run_of_lost_connection :
    let client : Client := {
      baseUrl := "http://localhost:3001", timeout := .ofDecimal false 5 0
      healthTimeout := .ofDecimal false 15 (-1), store := .ofSeed Seed.server }
    let deliveries : List Delivery := [.response 200 (.json (.object [])),
      .response 200 (.json (.object [])), .failure .readTimeout, .failure .connectTimeout]
    let online := performAll Network.scripted ⟨client, deliveries, []⟩ [.connect {}]
    let script : Client.Action :=
      .script "USE demo_db; DELETE FROM users WHERE id IN (1); SELECT 1" {} false
    let offline := online.perform Network.scripted script
    client.available = none ∧ online.client.available = some true ∧
      offline.client.available = some false ∧
      offline.calls.map (·.method) = ["GET", "POST", "POST", "POST"] ∧
      ∃ between last, (Network.scripted.exchanges deliveries offline.calls).1 =
        (Network.scripted.exchanges deliveries online.calls).1 ++ between ++ [last] ∧
        last.isPost = true ∧ last.2.isConnected = false := by
  intro client deliveries online script offline
  have honline : online.client.available = some true := by decide +kernel
  have hoffline : offline.client.available = some false := by decide +kernel
  obtain ⟨-, -, -, hactions, -⟩ :=
    mode_along_run Network.scripted client deliveries rfl [.connect {}]
  exact ⟨rfl, honline, hoffline, by decide +kernel, (hactions script).1 honline hoffline⟩

end World

end MockSql
