import OfflinePay.Store.Frame

/-!
# Recovery manager

Reference: `internal/recovery/manager.go`, `internal/db/migrations/000004_recovery.up.sql`,
`internal/db/migrations/000005_recovery_transaction_uniqueness.up.sql`.

`RecordFailure` writes a diagnosis and a recovery plan for a failed payment, in one transaction. It
touches no balance: `recordFailure_quiet`.
-/

namespace OfflinePay.Recovery

open Tx Repository

/-- The `CHECK` on `failure_events.confidence`; PostgreSQL sorts NaN above every number. -/
def Float64.isProbability : Float64 → Bool
  | .fin q => 0 ≤ q && q ≤ 1
  | _ => false

/-- The JSON of a confidence; the column check leaves only finite ones. -/
def Float64.json : Float64 → Json
  | .fin q => .num q
  | _ => .null

/-- The insert into `failure_events`, `ON CONFLICT (failure_id) DO NOTHING`. -/
def insertFailure (event : FailureEvent) (c : Classification) (occurredAt : Time) : DBTx Unit := do
  check (Pg.varchar 100 event.txnID && Pg.varchar 100 event.code) (Pg.valueTooLong 100)
  check (Pg.varchar 32 c.category.text && Pg.varchar 32 c.source) (Pg.valueTooLong 32)
  check c.confidence.isProbability
    (Pg.checkViolation "failure_events" "failure_events_confidence_check")
  let known ← view fun db => db.failureEvents.find? event.id
  let intent ← view fun db => db.paymentIntents.find? event.txnID
  check (known ≠ none ∨ intent ≠ none)
    (Pg.missingReference "failure_events" "failure_events_txn_id_fkey")
  write fun db =>
    { db with
      failureEvents := db.failureEvents.insert
        ⟨event.id, event.txnID, c.category, event.code, event.message, c.confidence, c.source,
          occurredAt⟩ }

/-- `appendDecision`: audit, payment and outbox event of a new recovery operation. -/
def appendDecision (txnID recoveryID : String) (d : Decision) (c : Classification) (now : Time) :
    DBTx Unit := do
  let payload := Json.obj
    [("recovery_id", .str recoveryID), ("action", .str d.action.text), ("reason", .str d.reason),
      ("classification", .obj [("Category", .str c.category.text),
        ("Confidence", c.confidence.json), ("Source", .str c.source)])]
  createAuditEvent txnID "RecoveryDiagnosed" payload
  createPaymentEvent txnID "RecoveryDiagnosed" 1 payload now
  createOutboxEvent "payment.recovery" "RecoveryDiagnosed" payload

/-- The insert into `recovery_operations`, `ON CONFLICT (idempotency_key) DO NOTHING`; true if the
row is new. The other unique keys and the foreign key are not covered by the conflict clause. -/
def insertOperation (op : RecoveryOperation) : DBTx Bool := do
  let known ← view fun db =>
    db.recoveryOperations.rows.any (·.idempotencyKey == op.idempotencyKey)
  let planned ← view fun db => db.recoveryOperations.rows.any (·.txnID == op.txnID)
  let taken ← view fun db => db.recoveryOperations.find? op.recoveryID
  check (known = true ∨ taken = none) (Pg.uniqueViolation "recovery_operations_pkey")
  check (known = true ∨ planned = false) (Pg.uniqueViolation "uq_recovery_operations_txn_id")
  let intent ← view fun db => db.paymentIntents.find? op.txnID
  check (known = true ∨ intent ≠ none)
    (Pg.missingReference "recovery_operations" "recovery_operations_txn_id_fkey")
  write fun db =>
    if known then db else { db with recoveryOperations := db.recoveryOperations.insert op }
  pure !known

/-- `RecordFailure`; `failureID` and `recoveryID` are fresh UUIDs. -/
def recordFailure (classifier : Classifier) (policy : Policy) (event : FailureEvent)
    (failureID recoveryID : String) (now : Time) : DBTx Unit := do
  check (event.txnID ≠ "" ∧ 0 ≤ event.amount) ⟨"invalid failure event", false⟩
  let occurredAt := event.occurredAt.getD now
  let id := if event.id = "" then failureID else event.id
  let event := { event with id, occurredAt := some occurredAt }
  let c := classifier event
  let d := policy.decide event c 0 now
  insertFailure event c occurredAt
  let fresh ← insertOperation
    ⟨recoveryID, event.txnID, idempotencyKey event.txnID, d.action, stateFor d.action, 0,
      scheduledAt d.action policy now⟩
  if fresh then appendDecision event.txnID recoveryID d c now else pure ()

/-! ## What the inserts write -/

theorem insertFailure_ok {event : FailureEvent} {c : Classification} {occurredAt : Time}
    {db db' : DB} {u : Unit} (h : insertFailure event c occurredAt db = .ok (u, db')) :
    ∃ failures, db' = { db with failureEvents := failures } := by
  simp only [insertFailure, bind_ok, check_ok, view_ok, write_ok] at h
  obtain ⟨_, _, ⟨-, rfl⟩, _, _, ⟨-, rfl⟩, _, _, ⟨-, rfl⟩, _, _, ⟨-, rfl⟩, _, _, ⟨-, rfl⟩, _, _,
    ⟨-, rfl⟩, rfl⟩ := h
  exact ⟨_, rfl⟩

theorem insertOperation_ok {op : RecoveryOperation} {db db' : DB} {fresh : Bool}
    (h : insertOperation op db = .ok (fresh, db')) :
    (fresh = false ∧ db' = db) ∨
      (fresh = true ∧ db.recoveryOperations.find? op.recoveryID = none ∧
        (∀ op' ∈ db.recoveryOperations.rows, op'.txnID ≠ op.txnID) ∧
        db.paymentIntents.find? op.txnID ≠ none ∧
        db' = { db with recoveryOperations := db.recoveryOperations.insert op }) := by
  simp only [insertOperation, bind_ok, check_ok, view_ok, write_ok, pure_ok] at h
  obtain ⟨known, _, ⟨-, rfl⟩, planned, _, ⟨hplanned, rfl⟩, taken, _, ⟨htaken, rfl⟩, _, _, ⟨hid, rfl⟩,
    _, _, ⟨htxn, rfl⟩, intent, _, ⟨hintent, rfl⟩, _, _, ⟨hknown, rfl⟩, _, _, rfl, rfl, rfl⟩ := h
  cases known with
  | true => exact .inl ⟨rfl, rfl⟩
  | false =>
    refine .inr ⟨rfl, htaken.trans (hid.resolve_left (by simp)), fun op' hop' heq => ?_,
      hintent ▸ hknown.resolve_left (by simp), rfl⟩
    rw [htxn.resolve_left (by simp), List.any_eq_false] at hplanned
    exact hplanned op' hop' (by simpa using heq)

section Writes

variable {R : DB → DB → Prop}

theorem keeps_insertFailure (hR : ∀ db failureEvents, R db { db with failureEvents })
    (event : FailureEvent) (c : Classification) (occurredAt : Time) :
    Keeps R (insertFailure event c occurredAt) := by
  intro db u db' h
  obtain ⟨failures, rfl⟩ := insertFailure_ok h
  exact hR db failures

theorem keeps_insertOperation (hR : ∀ db recoveryOperations, R db { db with recoveryOperations })
    (op : RecoveryOperation) : Keeps R (insertOperation op) := by
  intro db fresh db' h
  obtain ⟨-, rfl⟩ | ⟨-, -, -, -, rfl⟩ := insertOperation_ok h
  · exact hR db' db'.recoveryOperations
  · exact hR db _

end Writes

/-! ## No financial side effect -/

theorem insertFailure_quiet (event : FailureEvent) (c : Classification) (occurredAt : Time) :
    Keeps DB.Quiet (insertFailure event c occurredAt) :=
  keeps_insertFailure (fun db _ => { DB.Quiet.refl db with }) event c occurredAt

theorem appendDecision_quiet (txnID recoveryID : String) (d : Decision) (c : Classification)
    (now : Time) : Keeps DB.Quiet (appendDecision txnID recoveryID d c now) := by
  refine keeps_bind (createAuditEvent_quiet (by decide) _ _) fun _ => ?_
  refine keeps_bind (createPaymentEvent_quiet (by decide) _ _ _ _) fun _ => ?_
  exact createOutboxEvent_quiet (by decide) _ _

theorem insertOperation_quiet (op : RecoveryOperation) : Keeps DB.Quiet (insertOperation op) :=
  keeps_insertOperation (fun db _ => { DB.Quiet.refl db with }) op

/-- Recording a failure is quiet. -/
theorem recordFailure_quiet (classifier : Classifier) (policy : Policy) (event : FailureEvent)
    (failureID recoveryID : String) (now : Time) :
    Keeps DB.Quiet (recordFailure classifier policy event failureID recoveryID now) := by
  refine keeps_bind (keeps_check _ _) fun _ => keeps_bind (insertFailure_quiet _ _ _) fun _ =>
    keeps_bind (insertOperation_quiet _) fun fresh => ?_
  cases fresh with
  | true => exact appendDecision_quiet _ _ _ _ _
  | false => exact keeps_pure ()

/-! ## Relations that recording a failure keeps -/

/-- The relation is also kept by the inserts of the recovery manager. -/
structure Statements (R : DB → DB → Prop) : Prop extends Repository.Statements R where
  insertFailure : ∀ event c occurredAt, Keeps R (insertFailure event c occurredAt)
  insertOperation : ∀ op, Keeps R (insertOperation op)

theorem Statements.mono {R R' : DB → DB → Prop} (hsub : ∀ db db', R db db' → R' db db')
    (hR : Statements R) : Statements R' where
  toStatements := hR.toStatements.mono hsub
  insertFailure event c occurredAt := (hR.insertFailure event c occurredAt).mono hsub
  insertOperation op := (hR.insertOperation op).mono hsub

/-- The payload of `appendDecision`. -/
def decisionJson (recoveryID : String) (d : Decision) (c : Classification) : Json :=
  .obj [("recovery_id", .str recoveryID), ("action", .str d.action.text), ("reason", .str d.reason),
    ("classification", .obj [("Category", .str c.category.text),
      ("Confidence", c.confidence.json), ("Source", .str c.source)])]

/-- The same for a relation that only writes of the kinds `K` keep. -/
structure StatementsFor (K : Kinds) (R : DB → DB → Prop) : Prop
    extends Repository.StatementsFor K R where
  insertFailure : ∀ event c occurredAt, Keeps R (insertFailure event c occurredAt)
  insertOperation : ∀ op, Keeps R (insertOperation op)
  diagnosed : ∀ recoveryID d c,
    K.outbox "payment.recovery" "RecoveryDiagnosed" (decisionJson recoveryID d c)
  diagnosedEvent : K.event "RecoveryDiagnosed" 1

theorem StatementsFor.recordFailure {K : Kinds} {R : DB → DB → Prop} [IsPreorder DB R]
    (hR : StatementsFor K R) (classifier : Classifier) (policy : Policy) (event : FailureEvent)
    (failureID recoveryID : String) (now : Time) :
    Keeps R (recordFailure classifier policy event failureID recoveryID now) := by
  refine keeps_bind (keeps_check _ _) fun _ => keeps_bind (hR.insertFailure _ _ _) fun _ =>
    keeps_bind (hR.insertOperation _) fun fresh => ?_
  cases fresh with
  | true =>
    exact keeps_bind (hR.createAuditEvent _ _ _) fun _ =>
      keeps_bind (hR.createPaymentEvent _ _ _ _ _ hR.diagnosedEvent) fun _ =>
      hR.createOutboxEvent _ _ _ (hR.diagnosed _ _ _)
  | false => exact keeps_pure ()

/-- Recording a failure touches no device. -/
theorem sameDevices : Statements DB.SameDevices where
  toStatements := Repository.sameDevices
  insertFailure := keeps_insertFailure fun _ _ => rfl
  insertOperation := keeps_insertOperation fun _ _ => rfl

end OfflinePay.Recovery
