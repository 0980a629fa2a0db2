import OfflinePay.Recovery.Manager

/-!
# Recovery scheduler

Reference: `internal/recovery/manager.go`, `RunOnce`.

`RunOnce` goes through the operations that are due, in one transaction, and asks for a retry or for
a review of each by an outbox event.
-/

namespace OfflinePay.Recovery

open Tx Repository

/-- The operations that `RunOnce` locks: due, not locked by another run, the longest overdue first.
-/
def dueOperations (limit : ℤ) (locked : String → Bool) (now : Time) (db : DB) :
    List RecoveryOperation :=
  let limit := if limit ≤ 0 then 50 else limit.toNat
  ((db.recoveryOperations.rows.filter fun op => op.state = .scheduled
      && op.nextAttemptAt.any (· ≤ now) && !locked op.recoveryID).insertionSort
    fun op op' => op.nextAttemptAt.getD 0 ≤ op'.nextAttemptAt.getD 0).take limit

/-- The payload of the request that `RunOnce` emits. -/
def requestJson (op : RecoveryOperation) (attempts : ℕ) : Json :=
  .obj [("recovery_id", .str op.recoveryID), ("txn_id", .str op.txnID),
    ("action", .str op.action.text), ("attempt", .num attempts),
    ("idempotency_key", .str (idempotencyKey op.txnID))]

/-- The `UPDATE` of `RunOnce`; the column `attempt_count` takes at most 3. -/
def updateOperation (op : RecoveryOperation) : DBTx Unit := do
  check (op.attemptCount ≤ 3)
    (Pg.checkViolation "recovery_operations" "recovery_operations_attempt_count_check")
  write fun db => { db with recoveryOperations := db.recoveryOperations.set op }

/-- What `RunOnce` does with one operation. -/
def runOperation (policy : Policy) (now : Time) (op : RecoveryOperation) : DBTx Unit :=
  if policy.maxAttempts ≤ op.attemptCount then
    updateOperation { op with state := .exhausted, nextAttemptAt := none }
  else do
    let attempts := op.attemptCount + 1
    let review := op.action == .compensate
    createOutboxEvent "payment.recovery"
      (if review then "RecoveryCompensationReviewRequested" else "RecoveryRetryRequested")
      (requestJson op attempts)
    if review then
      updateOperation { op with
        state := .escalated, attemptCount := attempts, nextAttemptAt := none }
    else if policy.maxAttempts = attempts then
      updateOperation { op with
        state := .exhausted, attemptCount := attempts, nextAttemptAt := none }
    else
      updateOperation { op with
        attemptCount := attempts, nextAttemptAt := some (policy.nextAttempt (attempts + 1) now) }

/-- `RunOnce`. -/
def runOnce (policy : Policy) (limit : ℤ) (locked : String → Bool) (now : Time) : DBTx Unit := do
  let ops ← view (dueOperations limit locked now)
  ops.forM (runOperation policy now)

/-- What the requests keep, `RunOnce` keeps, if it does not look at the operations. -/
theorem keeps_runOnce {R : DB → DB → Prop} [IsPreorder DB R]
    (hoperations : ∀ db recoveryOperations, R db { db with recoveryOperations })
    (hreview : ∀ op attempts, Keeps R (createOutboxEvent "payment.recovery"
      "RecoveryCompensationReviewRequested" (requestJson op attempts)))
    (hretry : ∀ op attempts, Keeps R (createOutboxEvent "payment.recovery"
      "RecoveryRetryRequested" (requestJson op attempts)))
    (policy : Policy) (limit : ℤ) (locked : String → Bool) (now : Time) :
    Keeps R (runOnce policy limit locked now) := by
  have hupdate : ∀ op, Keeps R (updateOperation op) := fun op =>
    keeps_bind (keeps_check _ _) fun _ => keeps_write fun db => hoperations db _
  refine keeps_bind (keeps_view _) fun ops => keeps_forM (fun op => ?_) ops
  unfold runOperation
  split
  · exact hupdate _
  · refine keeps_bind ?_ fun _ => ?_
    · split
      · exact hreview op _
      · exact hretry op _
    · split
      · exact hupdate _
      · split <;> exact hupdate _

end OfflinePay.Recovery
