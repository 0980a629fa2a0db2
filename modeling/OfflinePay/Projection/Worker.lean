import OfflinePay.Domain.Unmarshal
import OfflinePay.Outbox.Worker

/-!
# The projection worker

Reference: `internal/projection/worker.go`; `internal/repository/repository.go`,
`CreateOrUpdateReadProjection`, `GetReadProjection`, `IsEventProcessed`, `MarkEventProcessed`,
`UpdateProjectionCheckpoint`, `GetProjectionCheckpoint` and `GetLatestOutboxEventID`.

`HandlePaymentSettled` and `HandlePaymentFailed` differ in what they take from the payload and in
nothing else: a `Job` is what they take, and `Job.handle` what both do with it. The two reads of a
handler go through other connections than its transaction, and an error of the second one counts as
"no row". `Projector` has any number of handler calls on one read model, with a move for each of the
reads and one for the transaction. What a transaction writes does not depend on rows that others
write meanwhile, so it can be taken as done when it commits.
-/

namespace OfflinePay.Projection

open Tx
open Outbox (Reply)

/-! ## The read model -/

/-- Row of `payment_read_projections`. -/
structure PaymentReadProjection where
  txnID : String
  senderID : String
  receiverID : String
  amount : Int64
  status : String := ""
  relayHops : ℤ := 0
  settledAt : Option Time := none
  updatedAt : Time := Time.zero
deriving DecidableEq

/-- The columns fit their types. -/
def PaymentReadProjection.columnsFit (proj : PaymentReadProjection) : Bool :=
  Pg.varchar 100 proj.txnID && Pg.varchar 100 proj.senderID && Pg.varchar 100 proj.receiverID
    && Pg.varchar 50 proj.status && Pg.int4 proj.relayHops

/-- The error for a row whose columns do not fit. -/
def PaymentReadProjection.columnError (proj : PaymentReadProjection) : GoError :=
  if !Pg.int4 proj.relayHops then Pg.outOfRange proj.relayHops
  else if !Pg.varchar 50 proj.status then Pg.valueTooLong 50
  else Pg.valueTooLong 100

/-- What the server keeps of a row: its timestamps at microsecond resolution. -/
def PaymentReadProjection.stored (proj : PaymentReadProjection) : PaymentReadProjection :=
  { proj with settledAt := proj.settledAt.map Time.timestamptz, updatedAt := proj.updatedAt.timestamptz }

/-- The tables of the worker. Of `projection_checkpoints` only the row `payment-projection` is used.
-/
structure ReadStore where
  projections : Table PaymentReadProjection.txnID
  processedEvents : List String
  checkpoint : Option ℤ

/-- A body of a transaction on the read model. -/
abbrev ReadTx (α : Type) : Type := Tx ReadStore GoError α

/-- The columns that `ON CONFLICT (txn_id) DO UPDATE` sets. -/
def PaymentReadProjection.update (excluded old : PaymentReadProjection) : PaymentReadProjection :=
  { old with
    status := excluded.status
    relayHops := excluded.relayHops
    settledAt := excluded.settledAt
    updatedAt := excluded.updatedAt }

/-- `CreateOrUpdateReadProjection`. -/
def createOrUpdateReadProjection (proj : PaymentReadProjection) : ReadTx Unit := do
  check (proj.columnsFit = true) proj.columnError
  write fun store =>
    { store with projections := store.projections.upsert proj.stored proj.stored.update fun _ => rfl }

/-- `MarkEventProcessed`. -/
def markEventProcessed (eventID : String) : ReadTx Unit := do
  check (Pg.varchar 100 eventID = true) (Pg.valueTooLong 100)
  write fun store => { store with
    processedEvents := if eventID ∈ store.processedEvents then store.processedEvents
      else store.processedEvents ++ [eventID] }

/-- `UpdateProjectionCheckpoint` for `payment-projection`. -/
def updateProjectionCheckpoint (val : ℤ) : ReadTx Unit :=
  write fun store => { store with checkpoint := some val }

/-- `strconv.ParseInt(s, 10, 64)`. -/
def parseInt (s : String) : Option ℤ :=
  let (sign, digits) := match s.toList with
    | '-' :: digits => (-1, digits)
    | '+' :: digits => (1, digits)
    | digits => (1, digits)
  let n : ℤ := sign * Nat.ofDigitChars 10 digits 0
  if !digits.isEmpty && digits.all Char.isDigit && -9223372036854775808 ≤ n && n ≤ 9223372036854775807
  then some n else none

/-! ## The handlers -/

/-- What a handler takes from its payload: the row for a new `txn_id`, and the columns it sets. -/
structure Job where
  eventID : String
  fresh : PaymentReadProjection
  status : String
  relayHops : ℤ
  /-- `none` leaves the column as it is. -/
  settledAt : Option Time
deriving DecidableEq

namespace Job

/-- The row to be saved, for what `GetReadProjection` returned. -/
def row (job : Job) (loaded : Option PaymentReadProjection) (now : Time) : PaymentReadProjection :=
  let proj := loaded.getD job.fresh
  { proj with
    status := job.status
    relayHops := job.relayHops
    settledAt := job.settledAt.or proj.settledAt
    updatedAt := now }

/-- The checkpoint moves to the event, if its id is a number. -/
def advance (job : Job) : ReadTx Unit :=
  match parseInt job.eventID with
  | some id => updateProjectionCheckpoint id
  | none => pure ()

/-- The writes of a handler. -/
def save (job : Job) (loaded : Option PaymentReadProjection) (now : Time) : ReadTx Unit := do
  createOrUpdateReadProjection (job.row loaded now)
  markEventProcessed job.eventID
  job.advance

/-- The transaction of a handler when nothing fails and nobody else is at work. -/
def handle (job : Job) (now : Time) : ReadTx Unit := do
  let processed ← view fun store => store.processedEvents
  if job.eventID ∈ processed then pure () else do
    let proj ← view fun store => store.projections.find? job.fresh.txnID
    job.save proj now

end Job

/-- The payload of `payment.settled`, as `HandlePaymentSettled` reads it. -/
def settledJob (eventID : String) (payload : Json) : Option Job := do
  let fields ← payload.members
  let txnID ← Json.stringField fields "txn_id"
  let sender ← Json.stringField fields "sender"
  let receiver ← Json.stringField fields "receiver"
  let amount ← Json.intField fields "amount"
  let _tokenID ← Json.stringField fields "token_id"
  let settledAt ← Json.timeField fields "settled_at"
  let relayHops ← Json.intField fields "relay_hops"
  pure {
    eventID
    fresh := { txnID, senderID := sender, receiverID := receiver, amount := .ofInt amount }
    status := PaymentStatus.settled.text
    relayHops
    settledAt := some settledAt }

/-- The payload of `payment.failed`, as `HandlePaymentFailed` reads it. -/
def failedJob (eventID : String) (payload : Json) : Option Job := do
  let fields ← payload.members
  let txnID ← Json.stringField fields "txn_id"
  let status ← Json.stringField fields "status"
  let _reason ← Json.stringField fields "reason"
  let relayHops ← Json.intField fields "relay_hops"
  pure {
    eventID
    fresh := { txnID, senderID := "UNKNOWN", receiverID := "UNKNOWN", amount := 0 }
    status
    relayHops
    settledAt := none }

/-- `HandlePaymentSettled`. -/
def handlePaymentSettled (eventID : String) (payload : Json) (now : Time) : ReadTx Unit :=
  match settledJob eventID payload with
  | some job => job.handle now
  | none => attempt (.error ⟨"json: cannot unmarshal", false⟩)

/-- `HandlePaymentFailed`. -/
def handlePaymentFailed (eventID : String) (payload : Json) (now : Time) : ReadTx Unit :=
  match failedJob eventID payload with
  | some job => job.handle now
  | none => attempt (.error ⟨"json: cannot unmarshal", false⟩)

/-- The job of an outbox event: `Start` subscribes to two streams. -/
def job? (ev : OutboxEvent) : Option Job :=
  if ev.streamName = "payment.settled" then settledJob (toString ev.eventID) ev.payload
  else if ev.streamName = "payment.failed" then failedJob (toString ev.eventID) ev.payload
  else none

/-! ## The lag -/

/-- `GetProjectionCheckpoint` for `payment-projection`. -/
def getProjectionCheckpoint (store : ReadStore) : ℤ := store.checkpoint.getD 0

/-- `GetLatestOutboxEventID`. -/
def getLatestOutboxEventID (outbox : List OutboxEvent) : ℕ := (outbox.map (·.eventID)).foldr max 0

/-- What `exportLag` reports. -/
def exportLag (outbox : List OutboxEvent) (store : ReadStore) : ℤ :=
  let lag := getLatestOutboxEventID outbox - getProjectionCheckpoint store
  if lag < 0 then 0 else lag

/-! ## What a transaction writes -/

/-- The store after the writes of a handler. -/
def Job.saved (job : Job) (loaded : Option PaymentReadProjection) (now : Time) (store : ReadStore) :
    ReadStore where
  projections := store.projections.upsert (job.row loaded now).stored (job.row loaded now).stored.update
    fun _ => rfl
  processedEvents :=
    if job.eventID ∈ store.processedEvents then store.processedEvents
    else store.processedEvents ++ [job.eventID]
  checkpoint := (parseInt job.eventID).or store.checkpoint

/-- The writes fit their columns. -/
def Job.fitsWith (job : Job) (loaded : Option PaymentReadProjection) : Bool :=
  (job.row loaded Time.zero).columnsFit && Pg.varchar 100 job.eventID

theorem Job.advance_ok {job : Job} {store store' : ReadStore} {u : Unit} :
    job.advance store = .ok (u, store') ↔
      store' = { store with checkpoint := (parseInt job.eventID).or store.checkpoint } := by
  unfold Job.advance updateProjectionCheckpoint
  cases parseInt job.eventID with
  | none => exact pure_ok.trans ⟨fun h => h.2.symm, fun h => ⟨rfl, h.symm⟩⟩
  | some id => simp [write_ok]

theorem Job.save_ok {job : Job} {loaded : Option PaymentReadProjection} {now : Time}
    {store store' : ReadStore} {u : Unit} :
    job.save loaded now store = .ok (u, store') ↔
      job.fitsWith loaded = true ∧ store' = job.saved loaded now store := by
  have hfits : job.fitsWith loaded = true ↔
      (job.row loaded now).columnsFit = true ∧ Pg.varchar 100 job.eventID = true := by
    rw [← Bool.and_eq_true]
    rfl
  rw [hfits]
  simp [Job.save, createOrUpdateReadProjection, markEventProcessed, bind_ok, check_ok, write_ok,
    Job.advance_ok, Job.saved, and_assoc]

/-- A handler's transaction that is not cut short commits if its writes fit. -/
theorem Job.withTx_save (job : Job) (loaded : Option PaymentReadProjection) (now : Time)
    (store : ReadStore) : (withTx none (job.save loaded now) store).2
      = if job.fitsWith loaded then job.saved loaded now store else store := by
  split
  · next hfits => rw [withTx_ok.mpr ⟨rfl, (save_ok (u := ())).mpr ⟨hfits, rfl⟩⟩]
  · next hfits =>
    obtain hsame | ⟨-, u, hok⟩ := withTx_state none (job.save loaded now) store
    · exact hsame
    · exact absurd (save_ok.mp hok).1 hfits

/-- What a handler does when nothing fails and nobody else is at work. -/
theorem Job.withTx_handle (job : Job) (now : Time) (store : ReadStore) :
    (withTx none (job.handle now) store).2
      = if job.eventID ∈ store.processedEvents then store
        else (withTx none (job.save (store.projections.find? job.fresh.txnID) now) store).2 := by
  split
  · next hmem =>
    have hok : job.handle now store = .ok ((), store) :=
      bind_ok.mpr ⟨_, _, view_ok.mpr ⟨rfl, rfl⟩, by rw [if_pos hmem]; rfl⟩
    rw [withTx_ok.mpr ⟨rfl, hok⟩]
  · next hmem =>
    have hbody : job.handle now store
        = job.save (store.projections.find? job.fresh.txnID) now store := by
      change (if job.eventID ∈ store.processedEvents then _ else _ : ReadTx Unit) store = _
      rw [if_neg hmem]
      rfl
    unfold withTx
    rw [hbody]

theorem Job.find?_saved (job : Job) (loaded : Option PaymentReadProjection) (now : Time)
    (store : ReadStore) (txnID : String) :
    (job.saved loaded now store).projections.find? txnID
      = if (loaded.getD job.fresh).txnID = txnID then
          some ((store.projections.find? txnID).elim (job.row loaded now).stored
            (job.row loaded now).stored.update)
        else store.projections.find? txnID :=
  Table.find?_upsert _ _ _ _ _

/-! ## Handler calls that interleave -/

/-- Where a consumer stands. -/
inductive Pc where
  | idle
  /-- Before `IsEventProcessed`. -/
  | check (job : Job)
  /-- Before `GetReadProjection`. -/
  | load (job : Job)
  /-- Before the writes and the commit. -/
  | save (job : Job) (loaded : Option PaymentReadProjection)

/-- Consumers of the two streams on one read model. `handled` records the events of deliveries that
were not cut short by an error of the database; it is not part of the program. -/
structure Projector (ι : Type) where
  store : ReadStore
  calls : ι → Pc
  handled : List String

/-- The moves. -/
inductive Label (ι : Type) where
  /-- An event is delivered to a consumer. -/
  | deliver (i : ι) (ev : OutboxEvent)
  | check (i : ι) (fault : Option GoError)
  | load (i : ι) (fault : Option GoError)
  | save (i : ι) (reply : Reply) (now : Time)

namespace Projector

variable {ι : Type} [DecidableEq ι]

/-- The consumer goes on. -/
def goto (s : Projector ι) (i : ι) (pc : Pc) : Projector ι :=
  { s with calls := Function.update s.calls i pc }

@[simp, grind =]
theorem calls_goto (s : Projector ι) (i j : ι) (pc : Pc) :
    (s.goto i pc).calls j = if j = i then pc else s.calls j :=
  Function.update_apply _ _ _ _

/-- One move. A move that the consumer cannot make does nothing. -/
def step (s : Projector ι) : Label ι → Projector ι
  | .deliver i ev =>
    match s.calls i, job? ev with
    | .idle, some job => s.goto i (.check job)
    | _, _ => s
  | .check i fault =>
    match s.calls i with
    | .check job =>
      match fault with
      | some _ => s.goto i .idle
      | none =>
        if job.eventID ∈ s.store.processedEvents then
          { s with handled := s.handled ++ [job.eventID] }.goto i .idle
        else s.goto i (.load job)
    | _ => s
  | .load i fault =>
    match s.calls i with
    | .load job =>
      match fault with
      | some _ => s.goto i (.save job none)
      | none => s.goto i (.save job (s.store.projections.find? job.fresh.txnID))
    | _ => s
  | .save i reply now =>
    match s.calls i with
    | .save job loaded =>
      let store := if reply.executed then (withTx none (job.save loaded now) s.store).2 else s.store
      let handled := match reply with
        | .ok => s.handled ++ [job.eventID]
        | .error _ _ => s.handled
      { s with store, handled }.goto i .idle
    | _ => s

/-- An empty read model. -/
def start : Projector ι := ⟨⟨.empty, [], none⟩, fun _ => .idle, []⟩

/-- The state after a run. -/
abbrev exec (s : Projector ι) (ls : List (Label ι)) : Projector ι := Run.exec step s ls

/-- Only these events are delivered. -/
def Delivers (events : List OutboxEvent) (_ : Projector ι) : Label ι → Prop
  | .deliver _ ev => ev ∈ events
  | _ => True

/-- Everything a move can do when these events are delivered. -/
inductive Moved (events : List OutboxEvent) (s : Projector ι) : Projector ι → Prop where
  | stay : Moved events s s
  | deliver (i : ι) (ev : OutboxEvent) (job : Job) (hev : ev ∈ events) (hi : s.calls i = .idle)
      (hjob : job? ev = some job) : Moved events s (s.goto i (.check job))
  | quit (i : ι) : Moved events s (s.goto i .idle)
  | known (i : ι) (job : Job) (hi : s.calls i = .check job)
      (hmem : job.eventID ∈ s.store.processedEvents) :
      Moved events s ({ s with handled := s.handled ++ [job.eventID] }.goto i .idle)
  | check (i : ι) (job : Job) (hi : s.calls i = .check job) : Moved events s (s.goto i (.load job))
  | load (i : ι) (job : Job) (loaded : Option PaymentReadProjection) (hi : s.calls i = .load job)
      (hloaded : loaded = none ∨ loaded = s.store.projections.find? job.fresh.txnID) :
      Moved events s (s.goto i (.save job loaded))
  | save (i : ι) (job : Job) (loaded : Option PaymentReadProjection) (now : Time)
      (handled : List String)
      (hi : s.calls i = .save job loaded) (hfits : job.fitsWith loaded = true)
      (hhandled : handled = s.handled ∨ handled = s.handled ++ [job.eventID]) :
      Moved events s ({ s with store := job.saved loaded now s.store, handled }.goto i .idle)
  | refuse (i : ι) (job : Job) (loaded : Option PaymentReadProjection)
      (hi : s.calls i = .save job loaded) (hfits : job.fitsWith loaded = false) :
      Moved events s ({ s with handled := s.handled ++ [job.eventID] }.goto i .idle)

theorem step_moved {events : List OutboxEvent} (s : Projector ι) (l : Label ι)
    (hl : Delivers events s l) : Moved events s (s.step l) := by
  cases l with
  | deliver i ev =>
    simp only [step]
    split
    · next job hi hjob => exact .deliver i ev job hl hi hjob
    · exact .stay
  | check i fault =>
    simp only [step]
    split
    · next job hi =>
      cases fault with
      | some _ => exact .quit i
      | none =>
        dsimp only
        split
        · next hmem => exact .known i job hi hmem
        · exact .check i job hi
    · exact .stay
  | load i fault =>
    simp only [step]
    split
    · next job hi =>
      cases fault with
      | some _ => exact .load i job none hi (.inl rfl)
      | none => exact .load i job _ hi (.inr rfl)
    · exact .stay
  | save i reply now =>
    simp only [step]
    split
    · next job loaded hi =>
      rw [job.withTx_save loaded now s.store]
      cases reply with
      | ok =>
        cases hfits : job.fitsWith loaded with
        | true => exact .save i job loaded now _ hi hfits (.inr rfl)
        | false => exact .refuse i job loaded hi hfits
      | error err executed =>
        cases executed with
        | false => exact .quit i
        | true =>
          cases hfits : job.fitsWith loaded with
          | true => exact .save i job loaded now _ hi hfits (.inl rfl)
          | false => exact .quit i
    · exact .stay

/-- A delivery that nothing disturbs. -/
def round (i : ι) (ev : OutboxEvent) : List (Label ι) :=
  [.deliver i ev, .check i none, .load i none, .save i .ok 0]

/-- It does what the handler's transaction says. -/
theorem exec_round (s : Projector ι) {i : ι} (hi : s.calls i = .idle) (ev : OutboxEvent) :
    (s.exec (round i ev)).calls i = .idle ∧
    (s.exec (round i ev)).handled = s.handled ++ ((job? ev).map (·.eventID)).toList ∧
    (s.exec (round i ev)).store
      = (job? ev).elim s.store fun job => (withTx none (job.handle 0) s.store).2 := by
  cases hjob : job? ev with
  | none => simp [round, step, hi, hjob]
  | some job =>
    rw [Option.elim_some, job.withTx_handle]
    by_cases hmem : job.eventID ∈ s.store.processedEvents
    · simp [round, step, goto, hi, hjob, hmem]
    · simp [round, step, goto, hi, hjob, hmem, Outbox.Reply.executed]

end Projector

end OfflinePay.Projection
