import OfflinePay.Common.Pool
import OfflinePay.Projection.Worker
import OfflinePay.System.RowLocks

/-!
# What the calls ask the connection pool for

Reference: `internal/db/db.go`, `internal/repository/repository.go` (`WithTx`),
`internal/token/service.go`, `internal/settlement/service.go`, `internal/saga/saga.go`,
`internal/projection/worker.go`, `internal/outbox/outbox.go`.

A repository method runs in the transaction it is given; without one it takes a connection of its
own. Four of the transactions call methods of the second kind before they end: `IssueToken` looks up
the devices of the owner (and may insert one), `PUBLISH` reads the payment intent, the projection
handlers ask whether the event is processed and load the row, and `ReplayDLQEvent` reads the dead
letter.

`Call.asks` lists what a call asks for, with what it met on its way. Of the locks of a transaction
those taken by `SELECT … FOR UPDATE` are kept; the locks of a new row keep nobody waiting that
matters here.
-/

namespace OfflinePay

open Tx Repository Settlement Pool

/-- `SetMaxOpenConns`. -/
def maxOpenConns : ℕ := 25

/-- The rows a transaction selects for update. -/
def DbTxn.selected (t : DbTxn) : List Row :=
  (t.locks.filter (·.mode = .forUpdate)).map (·.row)

/-! ## `IssueToken` -/

/-- An `IssueToken` call with the database as its statements met it: the limit, the transaction, and
the lookup of the device. -/
structure Token.IssueCall where
  ownerID : String
  value : Int64
  duration : Int64
  tokenID : String
  faults : IssueFaults
  now : Time
  limitDB : DB
  txDB : DB
  lookupDB : DB

namespace Token.IssueCall

variable (E : Externals) (call : IssueCall)

/-- The value is within the credit limit. -/
def allowed : Bool :=
  call.faults.limit.isNone &&
    call.value ≤ computeOfflineCreditLimit E (getDevicesByOwner call.limitDB call.ownerID)

/-- The transaction gets as far as the lookup of the device. -/
def reserves : Bool :=
  call.faults.reserve.isNone &&
    (reserveFunds E call.ownerID call.tokenID call.value (call.now + call.duration.toInt) call.now
      call.txDB).isOk

/-- Without a device of the owner `CreateDevice` follows. -/
def lookups : ℕ :=
  if call.faults.lookup || (getDevicesByOwner call.lookupDB call.ownerID).isEmpty then 2 else 1

def asks : List (Ask Row) :=
  if call.value ≤ 0 then []
  else if call.allowed E then
    [.query, .tx [.account call.ownerID] (if call.reserves E then call.lookups else 0)]
  else [.query]

/-- The call gets as far as the lookup of the device. -/
def nests : Bool := 0 < call.value && (call.allowed E && call.reserves E)

end Token.IssueCall

/-! ## `Settle` -/

namespace Settlement

/-- What `PUBLISH` does before it reads the intent. -/
def announce (o : Order) (input : Input) : DBTx Unit := do
  createAuditEvent o.payload.txnID "PaymentSettled"
    (.obj [("intent", o.payload.json), ("token_value", .int64 o.token.value),
      ("change_amount", .int64 o.changeAmount)])
  createOutboxEvent "payment.settled" "PaymentSettled" (o.settledJson input.now)

/-- What a step of `Settle` met. If its transaction failed, `late` says that this was after
`PUBLISH` read the intent. -/
structure Moment (E : Externals) where
  input : Input
  db : DB
  risk : E.RiskState
  late : Bool

variable {E : Externals}

/-- `PUBLISH` reads the intent. -/
def Moment.looksUp (m : Moment E) (o : Order) : Bool :=
  (m.input.fault.isNone || m.late) && (announce o m.input m.db).isOk

/-- The transaction of a saga step. -/
def actionAsks (o : Order) (m : Moment E) : ℕ → List (Ask Row)
  | 0 => [.query, .tx (DbTxn.reserve o).selected 0]
  | 1 => [.query, .tx (DbTxn.hold o).selected 0]
  | 2 => [.query, .tx (DbTxn.commitLedger o).selected 0]
  | 3 => [.query, .tx [] (if m.looksUp o then 1 else 0)]
  | _ => []

/-- The transaction of a compensation. -/
def compensationAsks (o : Order) : ℕ → List (Ask Row)
  | 0 => [.tx (.intent o.payload.txnID :: (DbTxn.unreserve o).selected) 0]
  | 1 => [.tx (DbTxn.unhold o).selected 0]
  | 2 => [.tx (DbTxn.undoLedger o ∅).selected 0]
  | _ => [.tx [] 0]

/-- The next transaction of `Execute`, with the update of the tracking row before it. -/
def sagaAsks (o : Order) (m : Moment E) : Saga.Pc → List (Ask Row)
  | .create => [.query]
  | .running k => actionAsks o m k
  | .compensating _ 0 _ _ => []
  | .compensating _ (r + 1) _ _ => compensationAsks o r
  | .done _ _ _ => []

/-- The update of the tracking row when `Execute` turns to the compensations or returns. -/
def trackingAsks : Saga.Pc → Saga.Pc → List (Ask Row)
  | .running _, .compensating .. | .running _, .done .. | .compensating .., .done .. => [.query]
  | _, _ => []

namespace SettleCall

/-- What the next step of a call asks for. -/
def stepAsks (call : SettleCall) (m : Moment E) : List (Ask Row) :=
  match call.pc with
  | .idempotency | .attestation _ | .device _ | .token _ _ | .saveIntent _ _ | .saveOutbox _ _
  | .saveEvent _ _ | .lookup _ => [.query]
  | .saga =>
    match call.order with
    | none => []
    | some o => sagaAsks o m call.saga ++
        trackingAsks call.saga (call.step E m.input m.db m.risk).1.saga
  | .record _ _ => [.tx [] 0]
  | .returned _ _ => []

/-- What a call asks for in the moments of its run. -/
def asks : SettleCall → List (Moment E) → List (Ask Row)
  | _, [] => []
  | call, m :: ms => call.stepAsks m ++ asks (call.step E m.input m.db m.risk).1 ms

/-- The next step is a `PUBLISH` that reads the intent. -/
def publishes (call : SettleCall) (m : Moment E) : Bool :=
  call.pc = .saga && call.saga = .running 3 && call.order.any m.looksUp

/-- The call gets as far as reading the intent in `PUBLISH`. -/
def nests : SettleCall → List (Moment E) → Bool
  | _, [] => false
  | call, m :: ms => call.publishes m || nests (call.step E m.input m.db m.risk).1 ms

end SettleCall

end Settlement

/-! ## The calls -/

/-- What `HandlePaymentSettled` or `HandlePaymentFailed` asks for with the job of its payload;
`answered` says that the event is processed or that asking for it failed. -/
def Projection.jobAsks (job : Option Projection.Job) (answered : Bool) : List (Ask Row) :=
  match job with
  | none => []
  | some _ => [.tx [] (if answered then 1 else 2)]

/-- A call, with what it met. -/
inductive Call (E : Externals) where
  | issueToken (call : Token.IssueCall)
  | settle (env : EncryptedEnvelope) (hopCount : ℤ) (moments : List (Settlement.Moment E))
  | handlePaymentSettled (eventID : String) (payload : Json) (answered : Bool)
  | handlePaymentFailed (eventID : String) (payload : Json) (answered : Bool)
  | replayDLQEvent (eventID : ℤ)

namespace Call

variable {E : Externals}

/-- What a call asks the pool for. -/
def asks : Call E → List (Ask Row)
  | issueToken call => call.asks E
  | settle env hopCount moments => SettleCall.asks { env, hopCount } moments
  | handlePaymentSettled eventID payload answered =>
    Projection.jobAsks (Projection.settledJob eventID payload) answered
  | handlePaymentFailed eventID payload answered =>
    Projection.jobAsks (Projection.failedJob eventID payload) answered
  | replayDLQEvent _ => [.tx [] 1]

/-- The call gets as far as a statement outside of its open transaction. -/
def nests : Call E → Bool
  | issueToken call => call.nests E
  | settle env hopCount moments => SettleCall.nests { env, hopCount } moments
  | handlePaymentSettled eventID payload _ => (Projection.settledJob eventID payload).isSome
  | handlePaymentFailed eventID payload _ => (Projection.failedJob eventID payload).isSome
  | replayDLQEvent _ => true

/-- The account that the call has locked when it gets there. -/
def locked? : Call E → Option String
  | issueToken call => some call.ownerID
  | _ => none

/-- The rows that it has locked when it gets there. -/
def rows (call : Call E) : List Row := (call.locked?.map Row.account).toList

end Call

/-! ## Where a call nests -/

/-- `PUBLISH` reads the intent after `announce`. -/
theorem Settlement.publish_eq (o : Order) (input : Input) :
    publish o input = (do
      announce o input
      let intentModel ← view fun db => getPaymentIntent db o.payload.txnID
      if input.readFault = none ∧ intentModel ≠ none then
        mapError (.wrap "failed to save versioned event: ")
          (createPaymentEvent o.payload.txnID "IntentSettled" 1 (o.settledJson input.now) input.now)
      else pure ()) := by
  simp only [publish, announce, bind_assoc]

/-- What a call asks for, up to the first transaction that nests, if there is one. -/
structure Splits (asks : List (Ask Row)) (rows : List Row) (nests : Bool) : Prop where
  rows_eq : ∀ rows' n, .tx rows' (n + 1) ∈ asks → nests = true ∧ rows' = rows
  split : nests = true → ∃ before n rest, asks = before ++ .tx rows (n + 1) :: rest ∧ Flat before ∧
    (rows ≠ [] → before = [.query])

theorem Splits.of_flat {asks : List (Ask Row)} (h : Flat asks) (rows : List Row) :
    Splits asks rows false where
  rows_eq _ n hmem := absurd (h _ hmem _ _ rfl) (Nat.succ_ne_zero n)
  split h := nomatch h

theorem Token.IssueCall.splits (E : Externals) (call : IssueCall) :
    Splits (call.asks E) [.account call.ownerID] (call.nests E) := by
  have hpos : 0 < call.value ↔ ¬call.value ≤ 0 := Int64.not_le.symm
  have hlookups : ∃ n, call.lookups = n + 1 := by
    rw [lookups]
    split
    exacts [⟨1, rfl⟩, ⟨0, rfl⟩]
  obtain ⟨n, hn⟩ := hlookups
  by_cases hnests : call.nests E = true
  · obtain ⟨hvalue, hallowed, hreserves⟩ : 0 < call.value ∧ call.allowed E = true ∧
        call.reserves E = true := by simpa [nests] using hnests
    have hasks : call.asks E = [.query, .tx [.account call.ownerID] (n + 1)] := by
      simp [asks, hpos.mp hvalue, hallowed, hreserves, hn]
    rw [hasks, hnests]
    refine ⟨?_, fun _ => ⟨[.query], n, [], rfl, by simp [Flat], fun _ => rfl⟩⟩
    simp +contextual
  · rw [Bool.eq_false_of_not_eq_true hnests]
    refine Splits.of_flat ?_ _
    simp only [nests, Bool.and_eq_true, decide_eq_true_eq, hpos] at hnests
    rw [asks]
    split
    · simp [Flat]
    · split
      · have hreserves : call.reserves E = false := by simp_all
        simp [Flat, hreserves]
      · simp [Flat]

namespace Settlement.SettleCall

variable {E : Externals}

theorem flat_compensationAsks (o : Order) (r : ℕ) : Flat (compensationAsks o r) := by
  match r with
  | 0 | 1 | 2 | _ + 3 => simp [compensationAsks, Flat]

theorem flat_trackingAsks (pc pc' : Saga.Pc) : Flat (trackingAsks pc pc') := by
  rw [trackingAsks.eq_def]
  split <;> simp [Flat]

theorem flat_append {asks asks' : List (Ask Row)} (h : Flat asks) (h' : Flat asks') :
    Flat (asks ++ asks') :=
  fun p hp => (List.mem_append.mp hp).elim (h p) (h' p)

/-- Only `PUBLISH` nests. -/
theorem sagaAsks_cases (o : Order) (m : Moment E) (pc : Saga.Pc) :
    if pc = .running 3 ∧ m.looksUp o then sagaAsks o m pc = [.query, .tx [] 1]
    else Flat (sagaAsks o m pc) := by
  match pc with
  | .create | .done .. | .compensating _ 0 _ _ => simp [sagaAsks, Flat]
  | .compensating _ (r + 1) _ _ => simpa [sagaAsks] using flat_compensationAsks o r
  | .running 0 | .running 1 | .running 2 | .running (_ + 4) => simp [sagaAsks, actionAsks, Flat]
  | .running 3 =>
    by_cases hlooks : m.looksUp o = true
    · simp [sagaAsks, actionAsks, hlooks]
    · simp [sagaAsks, actionAsks, hlooks, Flat]

theorem stepAsks_cases (call : SettleCall) (m : Moment E) :
    if call.publishes m then
      ∃ rest, call.stepAsks m = [.query, .tx [] 1] ++ rest ∧ Flat rest
    else Flat (call.stepAsks m) := by
  rw [stepAsks, publishes]
  cases call.pc with
  | saga =>
    cases call.order with
    | none => simp [Flat]
    | some o =>
      have htracking := flat_trackingAsks call.saga (call.step E m.input m.db m.risk).1.saga
      have hsaga := sagaAsks_cases o m call.saga
      by_cases hpub : call.saga = .running 3 ∧ m.looksUp o = true
      · rw [if_pos hpub] at hsaga
        rw [if_pos (by simpa using hpub)]
        exact ⟨_, congrArg (· ++ _) hsaga, htracking⟩
      · rw [if_neg hpub] at hsaga
        rw [if_neg (by simpa using hpub)]
        exact flat_append hsaga htracking
  | _ => simp [Flat]

theorem splits (call : SettleCall) (ms : List (Moment E)) :
    Splits (call.asks ms) [] (call.nests ms) := by
  induction ms generalizing call with
  | nil => exact Splits.of_flat (by simp [asks, Flat]) _
  | cons m ms ih =>
    have hstep := call.stepAsks_cases m
    have hrest := ih (call.step E m.input m.db m.risk).1
    rw [asks, nests]
    split at hstep
    case isTrue hpub =>
      obtain ⟨rest, hasks, hflat⟩ := hstep
      rw [hasks, hpub, Bool.true_or]
      refine ⟨fun rows' n hmem => ⟨rfl, ?_⟩, fun _ => ?_⟩
      · simp only [List.append_assoc, List.mem_append] at hmem
        obtain hmem | hmem | hmem := hmem
        · simp at hmem
          exact hmem.1
        · exact absurd (hflat _ hmem _ _ rfl) (Nat.succ_ne_zero n)
        · exact (hrest.rows_eq _ _ hmem).2
      · refine ⟨[.query], 0, rest ++ (call.step E m.input m.db m.risk).1.asks ms, ?_, ?_, by simp⟩
        · simp
        · simp [Flat]
    case isFalse hpub =>
      rw [Bool.eq_false_of_not_eq_true hpub, Bool.false_or]
      refine ⟨fun rows' n hmem => ?_, fun hnests => ?_⟩
      · obtain hmem | hmem := List.mem_append.mp hmem
        · exact absurd (hstep _ hmem _ _ rfl) (Nat.succ_ne_zero n)
        · exact hrest.rows_eq _ _ hmem
      · obtain ⟨before, n, rest, hasks, hflat, -⟩ := hrest.split hnests
        exact ⟨call.stepAsks m ++ before, n, rest, by rw [hasks, List.append_assoc],
          flat_append hstep hflat, by simp⟩

end Settlement.SettleCall

theorem Projection.splits_jobAsks (job : Option Projection.Job) (answered : Bool) :
    Splits (Projection.jobAsks job answered) [] job.isSome := by
  cases job with
  | none => exact Splits.of_flat (by simp [Projection.jobAsks, Flat]) _
  | some job =>
    cases answered with
    | false => exact ⟨by simp [Projection.jobAsks], fun _ => ⟨[], 1, [], rfl, by simp [Flat], by simp⟩⟩
    | true => exact ⟨by simp [Projection.jobAsks], fun _ => ⟨[], 0, [], rfl, by simp [Flat], by simp⟩⟩

/-- A call nests where `nests` says, with the account `locked?` locked and no other. -/
theorem Call.splits {E : Externals} (call : Call E) : Splits call.asks call.rows call.nests := by
  cases call with
  | issueToken call => exact call.splits E
  | settle env hopCount moments => exact SettleCall.splits _ moments
  | handlePaymentSettled eventID payload answered => exact Projection.splits_jobAsks _ answered
  | handlePaymentFailed eventID payload answered => exact Projection.splits_jobAsks _ answered
  | replayDLQEvent eventID =>
    exact ⟨by simp [asks, nests, rows, locked?],
      fun _ => ⟨[], 0, [], rfl, by simp [Flat], by simp [rows, locked?]⟩⟩

end OfflinePay
