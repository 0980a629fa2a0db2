import OfflinePay.Common.Run
import OfflinePay.Domain.Unmarshal
import OfflinePay.Recovery.Scheduler

/-!
# Recovery with any number of workers

Reference: `internal/recovery/manager.go`.

What `RecordFailure` and one pass of the loop of `RunOnce` do to the tables, and the system of all
callers. A `RunOnce` call is two moves: it locks the operations that are due and not locked by
another call (`claim`), and later its transaction ends, with all its writes or none (`finish`).
Between the two anything else may happen. `RecordFailure` is one move.
-/

namespace OfflinePay.Recovery

open Tx Repository

/-! ## What the transactions write -/

/-- Balances, ledger, tokens and nonces are as before. -/
structure Untouched (db db' : DB) : Prop where
  accountBalances : db'.accountBalances = db.accountBalances
  ledgerEntries : db'.ledgerEntries = db.ledgerEntries
  offlineTokens : db'.offlineTokens = db.offlineTokens
  nonceRegistry : db'.nonceRegistry = db.nonceRegistry

instance : IsPreorder DB Untouched where
  refl _ := ⟨rfl, rfl, rfl, rfl⟩
  trans _ _ _ h h' :=
    ⟨h'.accountBalances.trans h.accountBalances, h'.ledgerEntries.trans h.ledgerEntries,
      h'.offlineTokens.trans h.offlineTokens, h'.nonceRegistry.trans h.nonceRegistry⟩

/-- The failure event as `RecordFailure` completes it. -/
def FailureEvent.completed (event : FailureEvent) (failureID : String)
    (now : Time) : FailureEvent :=
  { event with
    id := if event.id = "" then failureID else event.id
    occurredAt := some (event.occurredAt.getD now) }

/-- What `RecordFailure` decides. -/
def decision (classifier : Classifier) (policy : Policy) (event : FailureEvent) (failureID : String)
    (now : Time) : Decision :=
  let event := event.completed failureID now
  policy.decide event (classifier event) 0 now

/-- The operation that `RecordFailure` plans. -/
def plan (classifier : Classifier) (policy : Policy) (event : FailureEvent)
    (failureID recoveryID : String) (now : Time) : RecoveryOperation :=
  let d := decision classifier policy event failureID now
  ⟨recoveryID, event.txnID, idempotencyKey event.txnID, d.action, stateFor d.action, 0,
    scheduledAt d.action policy now⟩

/-- What a reader of a request finds under one of its names. -/
theorem requestJson_member {op : RecoveryOperation} {attempts : ℕ} {fields : List (String × Json)}
    (h : requestJson op attempts = .obj fields) {name : String} {value : Json}
    (hmem : (name, value) ∈ fields) : Json.member? fields name = some value := by
  have hnames : Json.PlainNames ["recovery_id", "txn_id", "action", "attempt", "idempotency_key"] := by
    decide +kernel
  cases h
  exact Json.member?_of_mem hnames hmem

/-- `RecordFailure` finds an operation of the transaction, or plans the first one and reports it. -/
inductive Recorded (op : RecoveryOperation) (db db' : DB) : Prop where
  | known (hops : db'.recoveryOperations = db.recoveryOperations)
      (hout : db'.outboxEvents = db.outboxEvents)
  | fresh (hops : db'.recoveryOperations = db.recoveryOperations.insert op)
      (hid : db.recoveryOperations.find? op.recoveryID = none)
      (htxn : ∀ op' ∈ db.recoveryOperations.rows, op'.txnID ≠ op.txnID)
      (eventID : ℕ) (payload : Json)
      (hout : db'.outboxEvents = db.outboxEvents
        ++ [⟨eventID, "payment.recovery", "RecoveryDiagnosed", payload, false, .pending, 0⟩])

theorem recordFailure_ok {classifier : Classifier} {policy : Policy} {event : FailureEvent}
    {failureID recoveryID : String} {now : Time} {db db' : DB} {u : Unit}
    (h : recordFailure classifier policy event failureID recoveryID now db = .ok (u, db')) :
    Recorded (plan classifier policy event failureID recoveryID now) db db' ∧ Untouched db db' := by
  simp only [recordFailure, bind_ok, check_ok] at h
  obtain ⟨_, _, ⟨-, rfl⟩, _, _, hfailure, fresh, _, hop, hrest⟩ := h
  obtain ⟨failures, rfl⟩ := insertFailure_ok hfailure
  obtain ⟨rfl, rfl⟩ | ⟨rfl, hid, htxn, -, rfl⟩ := insertOperation_ok hop
  · obtain ⟨-, rfl⟩ := pure_ok.mp hrest
    exact ⟨.known rfl rfl, rfl, rfl, rfl, rfl⟩
  · simp only [if_true, appendDecision, bind_ok] at hrest
    obtain ⟨_, _, haudit, _, _, hpayment, hout⟩ := hrest
    obtain ⟨-, rfl⟩ := createAuditEvent_ok.mp haudit
    obtain ⟨-, -, rfl⟩ := createPaymentEvent_ok.mp hpayment
    obtain rfl := createOutboxEvent_ok.mp hout
    exact ⟨.fresh rfl hid htxn _ _ rfl, rfl, rfl, rfl, rfl⟩

/-- The type of the request that `RunOnce` emits for an operation. -/
def requestType (op : RecoveryOperation) : String :=
  if op.action = .compensate then "RecoveryCompensationReviewRequested" else "RecoveryRetryRequested"

/-- The row of an operation after a request for it. -/
def afterRequest (policy : Policy) (now : Time) (op : RecoveryOperation) :
    RecoveryOperation :=
  if op.action = .compensate then
    { op with state := .escalated, attemptCount := op.attemptCount + 1, nextAttemptAt := none }
  else if policy.maxAttempts = (op.attemptCount + 1 : ℕ) then
    { op with state := .exhausted, attemptCount := op.attemptCount + 1, nextAttemptAt := none }
  else
    { op with
      attemptCount := op.attemptCount + 1
      nextAttemptAt := some (policy.nextAttempt ((op.attemptCount + 1 : ℕ) + 1) now) }

/-- What a pass of the loop of `RunOnce` does with an operation. -/
inductive Ran (policy : Policy) (now : Time) (op : RecoveryOperation) (db db' : DB) : Prop where
  | exhausted (hle : policy.maxAttempts ≤ op.attemptCount)
      (hdb : db' = { db with
        recoveryOperations := db.recoveryOperations.set
          { op with state := .exhausted, nextAttemptAt := none } })
  | requested (hlt : (op.attemptCount : ℤ) < policy.maxAttempts)
      (hdb : db' = { db with
        recoveryOperations := db.recoveryOperations.set (afterRequest policy now op)
        outboxEvents := db.outboxEvents ++ [⟨db.nextOutboxID, "payment.recovery", requestType op,
          requestJson op (op.attemptCount + 1), false, .pending, 0⟩]
        nextOutboxID := db.nextOutboxID + 1 })

theorem updateOperation_ok {op : RecoveryOperation} {db db' : DB} {u : Unit}
    (h : updateOperation op db = .ok (u, db')) :
    db' = { db with recoveryOperations := db.recoveryOperations.set op } := by
  simp only [updateOperation, bind_ok, check_ok, write_ok] at h
  obtain ⟨_, _, ⟨-, rfl⟩, rfl⟩ := h
  rfl

theorem runOperation_ok {policy : Policy} {now : Time} {op : RecoveryOperation} {db db' : DB}
    {u : Unit} (h : runOperation policy now op db = .ok (u, db')) : Ran policy now op db db' := by
  rw [runOperation] at h
  split at h
  · next hle => exact .exhausted hle (updateOperation_ok h)
  · next hlt =>
    obtain ⟨_, _, hout, hrest⟩ := bind_ok.mp h
    obtain rfl := createOutboxEvent_ok.mp hout
    refine .requested (not_le.mp hlt) ?_
    rw [requestType, afterRequest]
    by_cases hreview : op.action = .compensate
    · simp only [hreview, beq_self_eq_true, if_true] at hrest ⊢
      exact updateOperation_ok hrest
    · simp only [hreview, beq_iff_eq, if_false] at hrest ⊢
      split at hrest
      · next hlast =>
        rw [if_pos hlast]
        exact updateOperation_ok hrest
      · next hlast =>
        rw [if_neg hlast]
        exact updateOperation_ok hrest

theorem Ran.untouched {policy : Policy} {now : Time} {op : RecoveryOperation} {db db' : DB}
    (h : Ran policy now op db db') : Untouched db db' := by
  obtain ⟨-, rfl⟩ | ⟨-, rfl⟩ := h <;> exact ⟨rfl, rfl, rfl, rfl⟩

theorem afterRequest_ids (policy : Policy) (now : Time) (op : RecoveryOperation) :
    (afterRequest policy now op).recoveryID = op.recoveryID ∧
      (afterRequest policy now op).txnID = op.txnID ∧
      (afterRequest policy now op).action = op.action := by
  rw [afterRequest]
  split
  · exact ⟨rfl, rfl, rfl⟩
  · split <;> exact ⟨rfl, rfl, rfl⟩

/-- A pass replaces the row of its operation by one that may be scheduled again, exhausted or
escalated. -/
theorem Ran.set {policy : Policy} {now : Time} {op : RecoveryOperation} {db db' : DB}
    (h : Ran policy now op db db') : ∃ op', db'.recoveryOperations = db.recoveryOperations.set op' ∧
      op'.recoveryID = op.recoveryID ∧ op'.txnID = op.txnID ∧ op'.action = op.action ∧
      (op'.state = op.state ∨ op'.state = .exhausted ∨ op'.state = .escalated) := by
  obtain ⟨-, rfl⟩ | ⟨-, rfl⟩ := h
  · exact ⟨_, rfl, rfl, rfl, rfl, .inr (.inl rfl)⟩
  · obtain ⟨hid, htxn, haction⟩ := afterRequest_ids policy now op
    refine ⟨_, rfl, hid, htxn, haction, ?_⟩
    rw [afterRequest]
    split
    · exact .inr (.inr rfl)
    · split
      · exact .inr (.inl rfl)
      · exact .inl rfl

/-- It leaves the other rows alone. -/
theorem Ran.mem_of_ne {policy : Policy} {now : Time} {op x : RecoveryOperation} {db db' : DB}
    (h : Ran policy now op db db') (hx : x ∈ db.recoveryOperations.rows)
    (hne : x.recoveryID ≠ op.recoveryID) : x ∈ db'.recoveryOperations.rows := by
  obtain ⟨op', hops, hid, -⟩ := h.set
  exact hops ▸ Table.mem_set_of_ne hx (hid ▸ hne)

/-- What each pass keeps that finds the row of its operation as it was read, the loop of `RunOnce`
keeps. -/
theorem forM_keeps {R : DB → DB → Prop} [IsPreorder DB R] {policy : Policy} {now : Time}
    {ops : List RecoveryOperation} {db db' : DB} {u : Unit}
    (hpass : ∀ op ∈ ops, ∀ db db', op ∈ db.recoveryOperations.rows → Ran policy now op db db' → R db db')
    (hnodup : (ops.map (·.recoveryID)).Nodup) (hops : ∀ op ∈ ops, op ∈ db.recoveryOperations.rows)
    (hrun : ops.forM (runOperation policy now) db = .ok (u, db')) : R db db' := by
  induction ops generalizing db with
  | nil =>
    obtain ⟨-, rfl⟩ := pure_ok.mp hrun
    exact Std.Refl.refl db
  | cons op ops ih =>
    obtain ⟨_, db₁, hone, hrest⟩ := bind_ok.mp
      (show (runOperation policy now op >>= fun _ => ops.forM (runOperation policy now)) db
        = .ok (u, db') from hrun)
    have hran := runOperation_ok hone
    rw [List.map_cons, List.nodup_cons] at hnodup
    have hrest := ih (fun x hx => hpass x (List.mem_cons_of_mem _ hx)) hnodup.2 (fun x hx => ?_) hrest
    · exact Trans.trans (hpass op List.mem_cons_self db db₁ (hops op List.mem_cons_self) hran) hrest
    · -- the rows of the other operations are as they were
      refine hran.mem_of_ne (hops x (List.mem_cons_of_mem _ hx)) fun heq => hnodup.1 ?_
      exact heq ▸ List.mem_map_of_mem hx

/-- The operations that a `RunOnce` locks are scheduled, different, and not locked by another one.
-/
theorem dueOperations_spec (limit : ℤ) (locked : String → Bool) (now : Time) (db : DB) :
    ((dueOperations limit locked now db).map (·.recoveryID)).Nodup ∧
      ∀ op ∈ dueOperations limit locked now db, op ∈ db.recoveryOperations.rows ∧
        op.state = .scheduled ∧ locked op.recoveryID = false := by
  constructor
  · refine List.Nodup.sublist ((List.take_sublist _ _).map _) ?_
    refine ((List.perm_insertionSort _ _).map _).nodup_iff.mpr ?_
    exact List.Nodup.sublist (List.filter_sublist.map _) db.recoveryOperations.nodup
  · intro op hop
    have hmem := (List.perm_insertionSort _ _).subset (List.mem_of_mem_take hop)
    obtain ⟨hrow, hdue⟩ := List.mem_filter.mp hmem
    simp only [Bool.and_eq_true, decide_eq_true_eq, Bool.not_eq_true'] at hdue
    exact ⟨hrow, hdue.1.1, hdue.2⟩

/-! ## The system -/

/-- The database and the operations that each worker's `RunOnce` has locked, as it read them. -/
structure Workers (ι : Type) where
  db : DB
  claimed : ι → List RecoveryOperation

/-- One move. -/
inductive Workers.Label (ι : Type) where
  | record (classifier : Classifier) (event : FailureEvent) (failureID recoveryID : String)
      (now : Time) (fault : Option GoError)
  | claim (i : ι) (limit : ℤ) (now : Time)
  | finish (i : ι) (now : Time) (fault : Option GoError)

namespace Workers

variable {ι : Type} [Fintype ι] [DecidableEq ι]

/-- Another worker's `RunOnce` has the operation locked. -/
def locked (s : Workers ι) (i : ι) (recoveryID : String) : Bool :=
  decide (∃ j, j ≠ i ∧ ∃ op ∈ s.claimed j, op.recoveryID = recoveryID)

/-- One move; a worker runs one `RunOnce` at a time. -/
def step (policy : Policy) (s : Workers ι) : Label ι → Workers ι
  | .record classifier event failureID recoveryID now fault =>
    { s with
      db := (withTx fault (recordFailure classifier policy event failureID recoveryID now) s.db).2 }
  | .claim i limit now =>
    if s.claimed i = [] then
      { s with claimed := Function.update s.claimed i (dueOperations limit (s.locked i) now s.db) }
    else s
  | .finish i now fault =>
    { db := (withTx fault ((s.claimed i).forM (runOperation policy now)) s.db).2
      claimed := Function.update s.claimed i [] }

/-- A state after a run. -/
def exec (policy : Policy) (s : Workers ι) (ls : List (Label ι)) : Workers ι :=
  Run.exec (step policy) s ls

/-- A `claim` with its `finish` is a `RunOnce`. -/
theorem exec_runOnce (policy : Policy) {s : Workers ι} {i : ι} (hi : s.claimed i = []) (limit : ℤ)
    (now : Time) (fault : Option GoError) :
    (s.exec policy [.claim i limit now, .finish i now fault]).db
      = (withTx fault (runOnce policy limit (s.locked i) now) s.db).2 := by
  simp only [exec, Run.exec_cons, Run.exec_nil, step, hi, if_true, Function.update_self]
  rfl

end Workers

end OfflinePay.Recovery
