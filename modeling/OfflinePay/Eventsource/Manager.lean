import OfflinePay.Domain.Unmarshal
import OfflinePay.Store.Repository

/-!
# The event store

Reference: `internal/eventsource/eventsource.go`; `internal/repository/repository.go`,
`GetPaymentEvents`, `CreatePaymentSnapshot` and `GetPaymentSnapshot`.

`SaveEventAndSnapshot` appends an event and, every `snapshotInterval` versions, keeps the aggregate
as the only snapshot of its payment. `Replay` takes the snapshot and applies the events after it.

With a `nil` transaction the two statements of `SaveEventAndSnapshot` commit one by one, so a
snapshot that is refused leaves its event behind; where both succeed it makes no difference.
-/

namespace OfflinePay.Eventsource

open Tx

/-! ## Aggregates -/

/-- `domain.PaymentIntent` as an aggregate, which starts out as the zero value. The status `none` is
the empty text. -/
structure Aggregate where
  txnID : String := ""
  senderID : String := ""
  receiverID : String := ""
  amount : Int64 := 0
  currency : String := ""
  nonce : String := ""
  expiry : Time := Time.zero
  status : Option PaymentStatus := none
  deviceID : String := ""
  tokenID : String := ""
  failureReason : Option String := none
  settledAt : Option Time := none
  rejectedAt : Option Time := none
  relayHops : ℤ := 0
  signatureHash : String := ""
  createdAt : Time := Time.zero
  updatedAt : Time := Time.zero
deriving DecidableEq

/-- `encoding/json` as the event store uses it: payloads of `IntentCreated`, a JSON number that goes
through `float64` to `int`, and aggregates. -/
structure Codec where
  unmarshalPayload : Json → Except GoError PaymentIntentPayload
  floatToInt : ℚ → ℤ
  marshal : Aggregate → Except GoError Json
  unmarshal : Json → Except GoError Aggregate

/-- `json.Unmarshal` undoes `json.Marshal` on aggregates. -/
def Codec.RoundTrip (codec : Codec) : Prop :=
  ∀ agg data, codec.marshal agg = .ok data → codec.unmarshal data = .ok agg

/-- An entry of a payload that was read into a map. What is no object leaves the map empty. -/
def entry? (payload : Json) (name : String) : Option Json :=
  match payload with
  | .obj fields => (fields.reverse.find? fun member => member.1 = name).map Prod.snd
  | _ => none

/-- `m["reason"].(string)`, or what was there before. -/
def reasonOr (payload : Json) (old : Option String) : Option String :=
  match entry? payload "reason" with
  | some (.str reason) => some reason
  | _ => old

/-- `int(m["hop_count"].(float64))`, or what was there before. -/
def hopsOr (codec : Codec) (payload : Json) (old : ℤ) : ℤ :=
  match entry? payload "hop_count" with
  | some (.num hops) => codec.floatToInt hops
  | _ => old

/-- `applyEvent`. Events of any other type only move `UpdatedAt`. -/
def applyEvent (codec : Codec) (intent : Aggregate)
    (ev : PaymentEvent) : Except GoError Aggregate :=
  let intent := { intent with updatedAt := ev.createdAt }
  match ev.eventType with
  | "IntentCreated" => do
    let p ← codec.unmarshalPayload ev.payload
    .ok { intent with
      txnID := p.txnID
      senderID := p.senderID
      receiverID := p.receiverID
      amount := p.amount
      currency := p.currency
      nonce := p.nonce
      expiry := p.expiry
      deviceID := p.deviceID
      tokenID := p.tokenID
      status := some .created
      createdAt := ev.createdAt }
  | "IntentSigned" => .ok { intent with status := some .signed }
  | "IntentEncrypted" => .ok { intent with status := some .encrypted }
  | "IntentRelayed" =>
    .ok { intent with
      relayHops := hopsOr codec ev.payload intent.relayHops
      status := some .relayed }
  | "IntentValidated" => .ok { intent with status := some .validated }
  | "IntentReserved" => .ok { intent with status := some .reserved }
  | "IntentSettled" => .ok { intent with settledAt := some ev.createdAt, status := some .settled }
  | "IntentRejected" =>
    .ok { intent with
      failureReason := reasonOr ev.payload intent.failureReason
      rejectedAt := some ev.createdAt
      status := some .rejected }
  | "IntentFailed" =>
    .ok { intent with
      failureReason := reasonOr ev.payload intent.failureReason
      rejectedAt := some ev.createdAt
      status := some .failed }
  | _ => .ok intent

/-- The aggregate after some events, in order. -/
def applyAll (codec : Codec) (intent : Aggregate) (events : List PaymentEvent) :
    Except GoError Aggregate :=
  events.foldlM (applyEvent codec) intent

theorem applyAll_append (codec : Codec) (intent : Aggregate) (before after : List PaymentEvent) :
    applyAll codec intent (before ++ after)
      = applyAll codec intent before >>= fun intent' => applyAll codec intent' after :=
  List.foldlM_append

/-! ## The store -/

/-- Row of `payment_snapshots`. -/
structure PaymentSnapshot where
  aggregateID : String
  aggregateVersion : ℕ
  snapshotData : Json
  createdAt : Time

/-- The database with `payment_snapshots`. -/
structure EventStore where
  db : DB
  snapshots : Table PaymentSnapshot.aggregateID

/-- A body of a transaction on the event store. -/
abbrev EventTx (α : Type) : Type := Tx EventStore GoError α

/-- A statement on the other tables. -/
def onDB {α : Type} (body : DBTx α) : EventTx α :=
  fun store => (body store.db).map fun (a, db) => (a, { store with db := db })

theorem onDB_ok {α : Type} {body : DBTx α} {store store' : EventStore} {a : α} :
    onDB body store = .ok (a, store') ↔
      ∃ db, body store.db = .ok (a, db) ∧ store' = { store with db := db } := by
  unfold onDB
  rcases body store.db with e | ⟨b, db⟩
  · simp [Except.map]
  · simp [Except.map, eq_comm]

/-- `GetPaymentEvents`: events get their ids in the order of the list. -/
def getPaymentEvents (db : DB) (txnID : String) : List PaymentEvent :=
  db.paymentEvents.filter fun ev => ev.txnID = txnID

/-- The columns that `ON CONFLICT (aggregate_id) DO UPDATE` sets. -/
def PaymentSnapshot.update (excluded old : PaymentSnapshot) : PaymentSnapshot :=
  { excluded with aggregateID := old.aggregateID }

/-- `CreatePaymentSnapshot`: of an aggregate only the last snapshot stays. -/
def createPaymentSnapshot (snap : PaymentSnapshot) : EventTx Unit := do
  check (Pg.varchar 100 snap.aggregateID = true) (Pg.valueTooLong 100)
  write fun store =>
    { store with snapshots := store.snapshots.upsert snap snap.update fun _ => rfl }

/-! ## The manager -/

/-- `EventSourceManager`. -/
structure EventSourceManager where
  codec : Codec
  snapshotInterval : ℕ
  interval_pos : 0 < snapshotInterval

/-- `NewEventSourceManager`. -/
def newEventSourceManager (codec : Codec) (snapshotInterval : ℤ) : EventSourceManager :=
  if h : snapshotInterval ≤ 0 then ⟨codec, 5, by decide⟩
  else ⟨codec, snapshotInterval.toNat, by omega⟩

namespace EventSourceManager

variable (esm : EventSourceManager)

/-- The second half of `SaveEventAndSnapshot`. -/
def saveSnapshot (txnID : String) (eventVersion : ℕ) (currentAggregate : Option Aggregate)
    (now : Time) :
    EventTx Unit :=
  match currentAggregate with
  | some aggregate =>
    if eventVersion % esm.snapshotInterval = 0 then do
      let snapshotData ← attempt ((esm.codec.marshal aggregate).mapError
        (·.wrap "failed to marshal snapshot: "))
      mapError (·.wrap "failed to save aggregate snapshot: ")
        (createPaymentSnapshot ⟨txnID, eventVersion, snapshotData, now⟩)
    else pure ()
  | none => pure ()

/-- `SaveEventAndSnapshot`. The type and the version come from the caller here, so their columns are
checked as well. -/
def saveEventAndSnapshot (txnID eventType : String) (eventVersion : ℕ) (payload : Json)
    (currentAggregate : Option Aggregate) (now : Time) : EventTx Unit := do
  mapError (·.wrap "failed to save versioned event: ") do
    check (Pg.varchar 100 eventType = true) (Pg.valueTooLong 100)
    check (Pg.int4 eventVersion = true) (Pg.outOfRange eventVersion)
    onDB (Repository.createPaymentEvent txnID eventType eventVersion payload now)
  esm.saveSnapshot txnID eventVersion currentAggregate now

/-- What the reads of `Replay` may run into. -/
structure ReadFaults where
  snapshot : Option GoError := none
  events : Option GoError := none

/-- The aggregate and the version that `Replay` starts from. -/
def load (snap : Option PaymentSnapshot) : Except GoError (Aggregate × ℕ) :=
  match snap with
  | none => .ok ({}, 0)
  | some snap =>
    match esm.codec.unmarshal snap.snapshotData with
    | .ok intent => .ok (intent, snap.aggregateVersion)
    | .error e => .error (e.wrap "failed to unmarshal snapshot data: ")

/-- The loop of `Replay`. -/
def applyAfter (startVersion : ℕ) (intent : Aggregate) (events : List PaymentEvent) :
    Except GoError Aggregate :=
  events.foldlM (fun intent ev =>
    if ev.eventVersion ≤ startVersion then .ok intent
    else (applyEvent esm.codec intent ev).mapError
      (·.wrap ("failed to apply event version " ++ toString ev.eventVersion ++ ": "))) intent

/-- `Replay`. -/
def replay (txnID : String) (faults : ReadFaults) (store : EventStore) : Except GoError Aggregate :=
  match faults.snapshot with
  | some e => .error (e.wrap "failed to load snapshot: ")
  | none => do
    let (intent, startVersion) ← esm.load (store.snapshots.find? txnID)
    match faults.events with
    | some e => .error (e.wrap "failed to retrieve events: ")
    | none =>
      let events := getPaymentEvents store.db txnID
      let intent ← esm.applyAfter startVersion intent events
      if intent.txnID = "" ∧ events.length = 0 then .error .errNoRows else .ok intent

end EventSourceManager

end OfflinePay.Eventsource
