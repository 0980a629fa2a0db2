import OfflinePay.Projection.Worker

/-!
# The rebuild tool

Reference: `cmd/rebuild/main.go`; `internal/repository/repository.go`, `GetAllPaymentEvents` and
`GetProjectionCheckpoint`.

The tool remembers the projections, empties the tables, replays all payment events, each in a
transaction of its own, and compares the result with what it remembers. An event that fails ends the
tool, and what was replayed until then stays.
-/

namespace OfflinePay.Projection

open Tx

/-- An event of `payment_events` with its id. -/
structure EventRow where
  eventID : ℤ
  event : PaymentEvent

/-- What the replay reads from the payload of `IntentFailed`: the status and the relay hops. -/
def failedData (payload : Json) : Option (String × ℤ) := do
  let fields ← payload.members
  let status ← Json.stringField fields "status"
  let _reason ← Json.stringField fields "reason"
  let relayHops ← Json.intField fields "relay_hops"
  pure (status, relayHops)

/-- The row for an event, from the one that was loaded. A payload that cannot be read changes
nothing; an event of another type is skipped. `IntentSettled` is read into the same struct as
`payment.settled`. -/
def EventRow.rebuilt (row : EventRow)
    (proj : PaymentReadProjection) : Option PaymentReadProjection :=
  match row.event.eventType with
  | "IntentSettled" =>
    match settledJob "" row.event.payload with
    | some data => some { proj with
        senderID := data.fresh.senderID
        receiverID := data.fresh.receiverID
        amount := data.fresh.amount
        status := PaymentStatus.settled.text
        relayHops := data.relayHops
        settledAt := data.settledAt }
    | none => some proj
  | "IntentFailed" =>
    match failedData row.event.payload with
    | some (status, relayHops) => some { proj with status, relayHops }
    | none => some proj
  | _ => none

/-- The transaction for one event. -/
def EventRow.replay (row : EventRow) (now : Time) : ReadTx Unit := do
  let loaded ← view fun store => store.projections.find? row.event.txnID
  match row.rebuilt (loaded.getD ⟨row.event.txnID, "UNKNOWN", "UNKNOWN", 0, "", 0, none, Time.zero⟩) with
  | none => pure ()
  | some proj => do
    createOrUpdateReadProjection { proj with updatedAt := now }
    updateProjectionCheckpoint row.eventID

/-- The replay loop: the store it leaves, and the error that ended it. `clock` is the time at which
each event is replayed. -/
def replayAll (clock : ℤ → Time) : List EventRow → ReadStore → ReadStore × Option GoError
  | [], store => (store, none)
  | row :: rows, store =>
    match withTx none (row.replay (clock row.eventID)) store with
    | (.ok (), store') => replayAll clock rows store'
    | (.error e, store') => (store', some e)

/-- The largest id among the events. -/
def maxEventID (rows : List EventRow) : ℤ :=
  rows.foldl (fun m row => if m < row.eventID then row.eventID else m) 0

/-- Compare a row with the one that was rebuilt. -/
def verifyRow (cached recon : PaymentReadProjection) : Except String Unit :=
  if cached.status ≠ recon.status then .error "verification failed: status mismatch"
  else if cached.amount ≠ recon.amount then .error "verification failed: amount mismatch"
  else if cached.senderID ≠ recon.senderID then .error "verification failed: sender mismatch"
  else if cached.receiverID ≠ recon.receiverID then .error "verification failed: receiver mismatch"
  else if cached.relayHops ≠ recon.relayHops then .error "verification failed: relay hops mismatch"
  else .ok ()

/-- Compare all rows. The order in which a map is run through is not specified; it decides only
which of several mismatches is reported. -/
def verifyRows (recon : Table PaymentReadProjection.txnID) :
    List PaymentReadProjection → Except String Unit
  | [] => .ok ()
  | cached :: rest =>
    match recon.find? cached.txnID with
    | none => .error "verification failed: transaction missing in reconstructed database"
    | some proj => do
      verifyRow cached proj
      verifyRows recon rest

/-- The checks after the replay. -/
def verify (cached : Table PaymentReadProjection.txnID) (store : ReadStore) (rows : List EventRow) :
    Except String Unit := do
  if cached.rows.length ≠ 0 ∧ cached.rows.length ≠ store.projections.rows.length then
    .error "verification failed: projection count mismatch"
  verifyRows store.projections cached.rows
  if store.checkpoint.getD 0 ≠ maxEventID rows then
    .error "verification failed: checkpoint ID mismatch"

/-- `main`: `SUCCESS`, or the message with which it exits, and the tables it leaves. -/
def rebuild (clock : ℤ → Time) (rows : List EventRow) (store : ReadStore) :
    Except String Unit × ReadStore :=
  match replayAll clock rows { store with projections := .empty, checkpoint := none } with
  | (store', some _) => (.error "failed to process event during replay", store')
  | (store', none) => (verify store.projections store' rows, store')

end OfflinePay.Projection
