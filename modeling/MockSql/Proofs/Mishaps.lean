/-
# Deliveries that confound a client

A client turns what a backend delivers for a call into a status or a reply. It does so with every
failure of the network, every error status, every body that is no JSON and every object. Two kinds
of bodies confound it if their status is no error: JSON that is no object, and JSON with an integer
that has too many digits. On these the call comes to nothing, and on these only.
-/

import MockSql.Proofs.Modes

namespace MockSql

namespace Delivery

/-- The deliveries that a client cannot deal with, and how they confound it. -/
inductive Confounds : Delivery → Mishap → Prop
  | notAnObject {status : Nat} {body : ResponseBody} {value : Json}
      (fine : isErrorStatus status = false) (read_eq : body.read = .ok value)
      (noObject : ∀ members, value ≠ .object members) :
      Confounds (.response status body) .notAnObject
  | unreadable {status : Nat} {body : ResponseBody} {fault : Fault}
      (fine : isErrorStatus status = false) (read_eq : body.read = .error (.tooLong fault)) :
      Confounds (.response status body) (.unreadable fault)

/-- The deliveries that tell of a failure over a connection: nothing arrives, or an error status
does, or a body that is no JSON. -/
inductive TellsFailure : Delivery → Prop
  | nothing {kind : NetworkFailure} (connected : kind.isUnreachable = false) :
      TellsFailure (.failure kind)
  | errorStatus {status : Nat} (body : ResponseBody) (bad : isErrorStatus status = true) :
      TellsFailure (.response status body)
  | malformed (status : Nat) {body : ResponseBody} (read_eq : body.read = .error .malformed) :
      TellsFailure (.response status body)

end Delivery

namespace Client

section Meaning

variable {α : Type} (failed : Json → α) (general : String) (ofMembers : Entries Json → α)

/-- What a response means to a client: a failure with the error that it names or a general one, or
else what the members of its object make. -/
def meaningOf (status : Nat) (body : ResponseBody) : Except Mishap α :=
  if isErrorStatus status then .ok (failed (errorOf body general))
  else
    match body.read with
    | .ok (.object members) => .ok (ofMembers members)
    | .ok _ => .error .notAnObject
    | .error .malformed => .ok (failed (.text general))
    | .error (.tooLong fault) => .error (.unreadable fault)

variable {failed general ofMembers} {status : Nat} {body : ResponseBody} {mishap : Mishap}

/-- A response means nothing to a client exactly if it confounds it. -/
theorem meaningOf_eq_error_iff : meaningOf failed general ofMembers status body = .error mishap ↔
    (Delivery.response status body).Confounds mishap := by
  constructor
  · intro h
    unfold meaningOf at h
    split at h
    next => cases h
    next hfine =>
      have fine : isErrorStatus status = false := by simpa using hfine
      split at h
      next => cases h
      next value noObject hread =>
        cases h
        exact .notAnObject fine hread noObject
      next => cases h
      next fault hread =>
        cases h
        exact .unreadable fine hread
  · intro confounds
    cases confounds with
    | @notAnObject _ _ value fine hread noObject =>
        cases value with
        | object members => exact absurd rfl (noObject members)
        | scalar | array => simp [meaningOf, fine, hread]
    | unreadable fine hread => simp [meaningOf, fine, hread]

/-- A response that tells of a failure means one. -/
theorem meaningOf_of_tellsFailure (fails : (Delivery.response status body).TellsFailure) :
    ∃ error, meaningOf failed general ofMembers status body = .ok (failed error) := by
  by_cases hbad : isErrorStatus status = true
  · exact ⟨errorOf body general, by rw [meaningOf, if_pos hbad]⟩
  · cases fails with
    | errorStatus _ bad => exact absurd bad hbad
    | malformed _ hread => exact ⟨.text general, by simp [meaningOf, hbad, hread]⟩

end Meaning

/-- The status of a failed connection. -/
def failedStatus (error : Json) : Status :=
  { connected := false, error }

/-- The status that the members of an object make. -/
def statusOfMembers (members : Entries Json) : Status where
  connected := true
  message := truthyMember members "message" (.text "Connection successful")
  databases := truthyMember members "databases" (.array [])

/-- The reply that the members of an object make, a success unless they say otherwise. -/
def replyOfMembers (members : Entries Json) : Reply :=
  .ofMembers (Entries.setAll [("success", .bool true)] members)

theorem statusOf_eq : statusOf = meaningOf failedStatus "Connection failed" statusOfMembers :=
  rfl

theorem replyOf_eq : replyOf = meaningOf Reply.failure "Query failed" replyOfMembers :=
  rfl

end Client

/-- What may come of a call for which something is delivered if the backend is available: a value,
unless the delivery confounds the client, and then that mishap; a failure, if the delivery tells of
one. -/
structure Delivery.Decides {α : Type} (sent : Delivery) (available : Bool) (failed : Json → α)
    (result : Except Mishap α) : Prop where
  returns_iff : (∃ value, result = .ok value) ↔
    ¬(available = true ∧ ∃ mishap, sent.Confounds mishap)
  mishap_iff : ∀ mishap, result = .error mishap ↔ available = true ∧ sent.Confounds mishap
  fails : available = true → sent.TellsFailure → ∃ error, result = .ok (failed error)

namespace World

section Outcome

variable {α : Type} (failed : Json → α) (general : String) (ofMembers : Entries Json → α)
  (offline lost : α)

/-- What a call comes to: the same in demo mode if there is no backend or none any more, and
otherwise what the delivery means. -/
def outcome (available : Bool) (sent : Delivery) : Except Mishap α :=
  if !available then .ok offline
  else
    match sent with
    | .response status body => Client.meaningOf failed general ofMembers status body
    | .failure kind => if kind.isUnreachable then .ok lost else .ok (failed (.text general))

variable {available : Bool} {sent : Delivery}

/-- A call comes to nothing exactly if it is sent and its delivery confounds the client. -/
theorem outcome_eq_error_iff {mishap : Mishap} :
    outcome failed general ofMembers offline lost available sent = .error mishap ↔
      available = true ∧ sent.Confounds mishap := by
  cases available with
  | false => simp [outcome]
  | true =>
      cases sent with
      | response status body => simpa [outcome] using Client.meaningOf_eq_error_iff
      | failure kind =>
          have hnot : ¬(Delivery.failure kind).Confounds mishap := fun confounds => nomatch confounds
          cases kind <;> simp [outcome, NetworkFailure.isUnreachable, hnot]

/-- A call that is sent fails if its delivery tells of a failure. -/
theorem outcome_of_tellsFailure (fails : sent.TellsFailure) :
    ∃ error, outcome failed general ofMembers offline lost true sent = .ok (failed error) := by
  cases fails with
  | nothing connected => exact ⟨.text general, by simp [outcome, connected]⟩
  | errorStatus body bad => exact Client.meaningOf_of_tellsFailure (.errorStatus body bad)
  | malformed status hread => exact Client.meaningOf_of_tellsFailure (.malformed status hread)

theorem decides_outcome (available : Bool) (sent : Delivery) :
    sent.Decides available failed
      (outcome failed general ofMembers offline lost available sent) where
  returns_iff := by
    cases houtcome : outcome failed general ofMembers offline lost available sent with
    | ok value =>
        refine iff_of_true ⟨value, rfl⟩ ?_
        rintro ⟨online, mishap, confounds⟩
        have herror := (outcome_eq_error_iff failed general ofMembers offline lost).mpr
          ⟨online, confounds⟩
        cases houtcome.symm.trans herror
    | error mishap =>
        obtain ⟨online, confounds⟩ :=
          (outcome_eq_error_iff failed general ofMembers offline lost).mp houtcome
        exact iff_of_false (fun ⟨_, h⟩ => nomatch h) fun hnot => hnot ⟨online, mishap, confounds⟩
  mishap_iff mishap := outcome_eq_error_iff failed general ofMembers offline lost
  fails := by
    rintro rfl
    exact outcome_of_tellsFailure failed general ofMembers offline lost

end Outcome

variable {σ : Type} (network : Network σ) (world : World σ) (connection : Connection)

/-- What is delivered for a call. -/
def deliveryOf (call : Call) : Delivery :=
  (world.send network call).1

/-- Connecting comes to what is delivered for its call. -/
theorem connect_fst_eq : ∃ offline lost, (world.connect network connection).1 =
    outcome Client.failedStatus "Connection failed" Client.statusOfMembers offline lost
      (world.check network).1 ((world.check network).2.deliveryOf network
        ((world.check network).2.client.connectCall connection)) := by
  unfold connect deliveryOf
  obtain ⟨available, checked⟩ := world.check network
  refine ⟨checked.client.connectDemo.1, ((checked.send network
    (checked.client.connectCall connection)).2.setAvailable false).client.connectDemo.1, ?_⟩
  cases available with
  | false => rfl
  | true =>
      simp only [Bool.not_true, Bool.false_eq_true, if_false, outcome, ← Client.statusOf_eq]
      obtain ⟨sent, sender⟩ := checked.send network (checked.client.connectCall connection)
      cases sent with
      | response status body => rfl
      | failure kind => cases kind <;> rfl

/-- And so does running a statement. -/
theorem query_fst_eq (query : String) : ∃ offline lost, (world.query network query connection).1 =
    outcome Reply.failure "Query failed" Client.replyOfMembers offline lost
      (world.check network).1 ((world.check network).2.deliveryOf network
        ((world.check network).2.client.queryCall query connection)) := by
  unfold World.query deliveryOf
  obtain ⟨available, checked⟩ := world.check network
  refine ⟨(checked.client.queryDemo query connection).1, ((checked.send network
    (checked.client.queryCall query connection)).2.setAvailable false).client.queryDemo query
      connection |>.1, ?_⟩
  cases available with
  | false => rfl
  | true =>
      simp only [Bool.not_true, Bool.false_eq_true, if_false, outcome, ← Client.replyOf_eq]
      obtain ⟨sent, sender⟩ := checked.send network (checked.client.queryCall query connection)
      cases sent with
      | response status body => rfl
      | failure kind => cases kind <;> rfl

/-- Whatever the network delivers, connecting comes to a status and running a statement to a reply,
unless the backend is available and what it delivers confounds the client; then that mishap is all
that comes of the call. A delivery that tells of a failure never does: it makes a failed status and
a failed reply. -/
theorem returns_unless_confounded {σ : Type} (network : Network σ) (world : World σ)
    (connection : Connection) :
    let available := (world.check network).1
    let checked := (world.check network).2
    (checked.deliveryOf network (checked.client.connectCall connection)).Decides available
        Client.failedStatus (world.connect network connection).1 ∧
      ∀ query, (checked.deliveryOf network (checked.client.queryCall query connection)).Decides
        available Reply.failure (world.query network query connection).1 := by
  intro available checked
  constructor
  · obtain ⟨offline, lost, hresult⟩ := connect_fst_eq network world connection
    rw [hresult]
    exact decides_outcome _ _ _ _ _ _ _
  · intro query
    obtain ⟨offline, lost, hresult⟩ := query_fst_eq network world connection query
    rw [hresult]
    exact decides_outcome _ _ _ _ _ _ _

/-- A healthy backend that answers a call with an empty list: neither connecting nor running a
statement comes to anything. -/
theorem empty_list_confounds :
    let client : Client := {
      baseUrl := "http://localhost:3001", timeout := .ofDecimal false 5 0
      healthTimeout := .ofDecimal false 15 (-1), store := .ofSeed [] }
    let deliveries : List Delivery := [.response 200 (.json (.object [])),
      .response 200 (.json (.array []))]
    (connect Network.scripted ⟨client, deliveries, []⟩ {}).1 = .error .notAnObject ∧
      (World.query Network.scripted ⟨client, deliveries, []⟩ "SELECT 1" {}).1 =
        .error .notAnObject := by
  intro client deliveries
  exact ⟨rfl, rfl⟩

end World

end MockSql
