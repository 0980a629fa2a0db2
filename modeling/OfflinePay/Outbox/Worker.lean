import OfflinePay.Common.Run
import OfflinePay.Store.Database

/-!
# Outbox workers

Reference: `internal/outbox/outbox.go`, the outbox statements of
`internal/repository/repository.go`.

A worker claims up to five `PENDING` rows in one transaction and then works them off one by one
outside any transaction: publish, then either mark the row `PUBLISHED` or count the failure, which
puts the row back to `PENDING` or, at the last retry, moves it to `dead_letter_events`. `State` has
any number of workers on one database; a label picks the worker that moves and says which of its
calls fails, so a run is an interleaving at the granularity of single database and Redis calls. The
claim is two moves, because between `FOR UPDATE SKIP LOCKED` and the commit other workers go on and
skip the locked rows.

`inserted`, `failures` and `routed` are not part of the program. They record every event that was
ever inserted, every failure transaction that committed and every dead letter with the event it came
from.
-/

namespace OfflinePay.Outbox

open Tx

/-- Row of `outbox_events` with the columns that only the workers use. -/
structure OutboxRow extends OutboxEvent where
  lastError : Option String := none
  lockedBy : Option String := none
  lockedAt : Option Time := none

/-- Row of `dead_letter_events`. -/
structure DeadLetterEvent where
  eventID : ℕ
  payload : Json
  failureReason : String
  retryCount : ℕ
  timestamp : Time

/-- The two tables of the outbox with their `BIGSERIAL` counters. -/
structure Store where
  outboxEvents : Table (fun row : OutboxRow => row.eventID)
  nextOutboxID : ℕ
  deadLetterEvents : Table DeadLetterEvent.eventID
  nextDeadLetterID : ℕ

/-- The body of a transaction on the outbox. -/
abbrev StoreTx (α : Type) : Type := Tx Store GoError α

/-! ## Statements -/

/-- The row that an insert with the defaults of the schema makes. -/
def Store.newRow (store : Store) (streamName eventType : String) (payload : Json) : OutboxRow where
  eventID := store.nextOutboxID
  streamName := streamName
  eventType := eventType
  payload := payload
  published := false
  status := .pending
  retryCount := 0

/-- `CreateOutboxEvent`. -/
def Store.createOutboxEvent (store : Store) (streamName eventType : String) (payload : Json) :
    Store :=
  { store with
    outboxEvents := store.outboxEvents.insert (store.newRow streamName eventType payload)
    nextOutboxID := store.nextOutboxID + 1 }

/-- The `SELECT … FOR UPDATE SKIP LOCKED` of `GetPendingOutboxEventsForUpdate`: the oldest pending
rows that are not locked. -/
def Store.selectPending (store : Store) (limit : ℕ) (locked : ℕ → Bool) : List OutboxEvent :=
  (((store.outboxEvents.rows.map OutboxRow.toOutboxEvent).filter fun ev =>
    ev.status = .pending && !locked ev.eventID).insertionSort (·.eventID ≤ ·.eventID)).take limit

/-- `UPDATE outbox_events SET … WHERE event_id = ANY(ids)`. -/
def Store.updateRows (store : Store) (ids : List ℕ) (f : OutboxRow → OutboxRow)
    (hf : ∀ row, (f row).eventID = row.eventID) : Store :=
  { store with outboxEvents := store.outboxEvents.modify (ids.contains ·) f hf }

/-- What the `UPDATE` of `GetPendingOutboxEventsForUpdate` makes of a row. -/
def OutboxRow.claimed (row : OutboxRow) (lockedBy : String) (now : Time) : OutboxRow :=
  { row with status := .processing, lockedBy := some lockedBy, lockedAt := some now }

/-- The `UPDATE` of `GetPendingOutboxEventsForUpdate`. -/
def markProcessing (ids : List ℕ) (lockedBy : String) (now : Time) : StoreTx Unit :=
  write fun store => store.updateRows ids (·.claimed lockedBy now) fun _ => rfl

/-- What `MarkOutboxEventPublished` makes of a row. -/
def OutboxRow.delivered (row : OutboxRow) : OutboxRow :=
  { row with status := .published, published := true, lockedBy := none, lockedAt := none }

/-- `MarkOutboxEventPublished`. -/
def markOutboxEventPublished (id : ℕ) : StoreTx Unit :=
  write fun store => store.updateRows [id] (·.delivered) fun _ => rfl

/-- What `MarkOutboxEventFailed` makes of a row. -/
def OutboxRow.failedOnce (row : OutboxRow) (errStr : String) (maxRetries : ℕ) : OutboxRow :=
  { row with
    retryCount := row.retryCount + 1
    lastError := some errStr
    status := if maxRetries ≤ row.retryCount + 1 then .failed else .pending
    lockedBy := none
    lockedAt := none }

/-- `MarkOutboxEventFailed`. The limit and the count are `INT`s. -/
def markOutboxEventFailed (id : ℕ) (errStr : String) (maxRetries : ℕ) : StoreTx Unit := do
  check (Pg.int4 maxRetries) (Pg.outOfRange maxRetries)
  let row ← view fun store => store.outboxEvents.find? id
  check (row.all fun row => Pg.int4 (row.retryCount + 1)) ⟨"pq: integer out of range", false⟩
  write fun store => store.updateRows [id] (·.failedOnce errStr maxRetries) fun _ => rfl

/-- `CreateDeadLetterEvent`, with the row it made. -/
def createDeadLetterEvent (payload : Json) (failureReason : String) (retryCount : ℕ)
    (timestamp : Time) : StoreTx DeadLetterEvent := do
  let id ← view Store.nextDeadLetterID
  let letter : DeadLetterEvent := ⟨id, payload, failureReason, retryCount, timestamp⟩
  write fun store =>
    { store with
      deadLetterEvents := store.deadLetterEvents.insert letter
      nextDeadLetterID := id + 1 }
  pure letter

/-- `DELETE FROM outbox_events WHERE event_id = $1`. -/
def deleteOutboxEvent (id : ℕ) : StoreTx Unit :=
  write fun store => { store with outboxEvents := store.outboxEvents.erase id }

/-- The transaction of `processSingleEvent` after a failed publish: count the failure, and at the
limit move the event to the dead letters. Returns the dead letter, if there is one. A row that is
not there is a scan error, which the source ignores. -/
def recordFailure (maxRetries : ℕ) (ev : OutboxEvent) (err : GoError) (now : Time) :
    StoreTx (Option DeadLetterEvent) := do
  markOutboxEventFailed ev.eventID err.text maxRetries
  let row ← view fun store => store.outboxEvents.find? ev.eventID
  match row with
  | none => pure none
  | some row =>
    if row.status = .failed then
      let letter ← createDeadLetterEvent ev.payload
        ("failed after " ++ toString row.retryCount ++ " retries: " ++ err.text) row.retryCount now
      deleteOutboxEvent ev.eventID
      pure (some letter)
    else pure none

/-! ## Workers -/

/-- Where a worker stands. -/
inductive Phase where
  /-- The claim transaction is open and has locked these rows. -/
  | claiming (events : List OutboxEvent)
  /-- The events of the batch that are to be published; none between two batches. -/
  | working (events : List OutboxEvent)
  /-- The first event is published and not marked. -/
  | sent (ev : OutboxEvent) (rest : List OutboxEvent)
  /-- The first event could not be published, and the failure is not recorded. -/
  | refused (ev : OutboxEvent) (err : GoError) (rest : List OutboxEvent)
  /-- The worker is gone, with this much of its batch unfinished. -/
  | stopped (left : List OutboxEvent)

namespace Phase

/-- The unfinished part of the batch. A claim that is not committed is not a batch yet. -/
def batch : Phase → List OutboxEvent
  | claiming _ => []
  | working events => events
  | sent ev rest => ev :: rest
  | refused ev _ rest => ev :: rest
  | stopped left => left

/-- The rows that the open claim transaction has locked. -/
def locked : Phase → List OutboxEvent
  | claiming events => events
  | _ => []

/-- What a worker that is still running has in hand. -/
def held : Phase → List OutboxEvent
  | stopped _ => []
  | phase => phase.batch

end Phase

/-- An entry of a Redis stream. -/
structure StreamEntry where
  stream : String
  eventID : String
  eventType : String
  payload : Json

/-- What `Publish` adds for an event. -/
def entry (ev : OutboxEvent) : StreamEntry :=
  ⟨ev.streamName, toString ev.eventID, ev.eventType, ev.payload⟩

/-- How a call of Redis ended. A call that returned an error may have been executed all the same. -/
inductive Reply where
  | ok
  | error (err : GoError) (executed : Bool)

/-- Redis has executed the call. -/
def Reply.executed : Reply → Bool
  | ok => true
  | error _ executed => executed

/-- The outbox, the streams, and everyone who works on them. -/
structure State (ι : Type) where
  store : Store
  streams : List StreamEntry
  workers : ι → Phase
  inserted : List OutboxEvent
  failures : List ℕ
  routed : List (ℕ × DeadLetterEvent)

/-- One move. -/
inductive Label (ι : Type) where
  /-- A transaction of the program that wrote an outbox event committed. -/
  | insert (streamName eventType : String) (payload : Json)
  | select (k : ι)
  | claim (k : ι) (workerID : String) (fault : Option GoError) (now : Time)
  | publish (k : ι) (reply : Reply)
  | mark (k : ι) (fault : Option GoError)
  | fail (k : ι) (fault : Option GoError) (now : Time)
  | stop (k : ι)

namespace State

variable {ι : Type}

/-- Nothing has been inserted and every worker is between two batches. -/
def start : State ι where
  store := ⟨.empty, 1, .empty, 1⟩
  streams := []
  workers _ := .working []
  inserted := []
  failures := []
  routed := []

variable [DecidableEq ι]

/-- The worker goes on. -/
def goto (s : State ι) (k : ι) (phase : Phase) : State ι :=
  { s with workers := Function.update s.workers k phase }

@[simp]
theorem goto_store (s : State ι) (k : ι) (phase : Phase) : (s.goto k phase).store = s.store := rfl

@[simp]
theorem goto_streams (s : State ι) (k : ι) (phase : Phase) : (s.goto k phase).streams = s.streams :=
  rfl

@[simp]
theorem goto_inserted (s : State ι) (k : ι) (phase : Phase) :
    (s.goto k phase).inserted = s.inserted := rfl

@[simp]
theorem goto_routed (s : State ι) (k : ι) (phase : Phase) : (s.goto k phase).routed = s.routed :=
  rfl

@[simp]
theorem goto_workers (s : State ι) (k : ι) (phase : Phase) :
    (s.goto k phase).workers = Function.update s.workers k phase := rfl

variable [Fintype ι]

/-- The row is locked by somebody's open claim. -/
def isLocked (s : State ι) (id : ℕ) : Bool := ∃ k, ∃ ev ∈ (s.workers k).locked, ev.eventID = id

/-- The next move; `maxRetries` is the worker pool's limit. A move the worker is not ready for does
nothing. -/
def step (maxRetries : ℕ) (s : State ι) : Label ι → State ι
  | .insert streamName eventType payload =>
    { s with
      store := s.store.createOutboxEvent streamName eventType payload
      inserted := s.inserted ++ [(s.store.newRow streamName eventType payload).toOutboxEvent] }
  | .select k =>
    match s.workers k with
    | .working [] => s.goto k (.claiming (s.store.selectPending 5 s.isLocked))
    | _ => s
  | .claim k workerID fault now =>
    match s.workers k with
    | .claiming events =>
      match withTx fault (markProcessing (events.map (·.eventID)) workerID now) s.store with
      | (.ok (), store) => { s with store }.goto k (.working events)
      | (.error _, _) => s.goto k (.working [])
    | _ => s
  | .publish k reply =>
    match s.workers k with
    | .working (ev :: rest) =>
      match reply with
      | .ok => { s with streams := s.streams ++ [entry ev] }.goto k (.sent ev rest)
      | .error err executed =>
        { s with streams := if executed then s.streams ++ [entry ev] else s.streams }.goto k
          (.refused ev err rest)
    | _ => s
  | .mark k fault =>
    match s.workers k with
    | .sent ev rest =>
      { s with store := (withTx fault (markOutboxEventPublished ev.eventID) s.store).2 }.goto k
        (.working rest)
    | _ => s
  | .fail k fault now =>
    match s.workers k with
    | .refused ev err rest =>
      match withTx fault (recordFailure maxRetries ev err now) s.store with
      | (.ok letter, store) =>
        { s with
          store
          failures := s.failures ++ [ev.eventID]
          routed := s.routed ++ letter.toList.map (ev.eventID, ·) }.goto k (.working rest)
      | (.error _, _) => s.goto k (.working rest)
    | _ => s
  | .stop k => s.goto k (.stopped (s.workers k).batch)

/-- The state after a run. -/
abbrev exec (maxRetries : ℕ) (s : State ι) (ls : List (Label ι)) : State ι :=
  Run.exec (step maxRetries) s ls

end State

/-! ## What the statements do -/

variable {store store' : Store}

/-- `f` was applied to the rows with these ids, and nothing else changed. -/
structure Store.Updated (store store' : Store) (ids : List ℕ) (f : OutboxRow → OutboxRow) :
    Prop where
  find? : ∀ id, store'.outboxEvents.find? id
    = (store.outboxEvents.find? id).map fun row => if id ∈ ids then f row else row
  nextOutboxID : store'.nextOutboxID = store.nextOutboxID
  deadLetterEvents : store'.deadLetterEvents = store.deadLetterEvents
  nextDeadLetterID : store'.nextDeadLetterID = store.nextDeadLetterID

theorem Store.updated (store : Store) (ids : List ℕ) (f : OutboxRow → OutboxRow)
    (hf : ∀ row, (f row).eventID = row.eventID) :
    store.Updated (store.updateRows ids f hf) ids f where
  find? id := by simp [updateRows, Table.find?_modify]
  nextOutboxID := rfl
  deadLetterEvents := rfl
  nextDeadLetterID := rfl

theorem Store.Updated.find?_of_notMem {ids : List ℕ} {f : OutboxRow → OutboxRow}
    (h : store.Updated store' ids f) {id : ℕ} (hid : id ∉ ids) :
    store'.outboxEvents.find? id = store.outboxEvents.find? id := by
  rw [h.find?]
  simp [hid]

theorem markProcessing_ok {ids : List ℕ} {lockedBy : String} {now : Time} {u : Unit}
    (h : markProcessing ids lockedBy now store = .ok (u, store')) :
    store.Updated store' ids (·.claimed lockedBy now) := by
  rw [write_ok.mp h]
  exact store.updated _ _ _

theorem markOutboxEventPublished_ok {id : ℕ} {u : Unit}
    (h : markOutboxEventPublished id store = .ok (u, store')) :
    store.Updated store' [id] (·.delivered) := by
  rw [write_ok.mp h]
  exact store.updated _ _ _

/-- What is selected is pending, not locked, and selected once. -/
theorem Store.mem_selectPending {limit : ℕ} {locked : ℕ → Bool} {ev : OutboxEvent}
    (h : ev ∈ store.selectPending limit locked) :
    (∃ row, store.outboxEvents.find? ev.eventID = some row ∧ row.toOutboxEvent = ev) ∧
      ev.status = .pending ∧ locked ev.eventID = false := by
  have hmem := (List.mem_insertionSort _).mp (List.mem_of_mem_take h)
  obtain ⟨hmem, hfilter⟩ := List.mem_filter.mp hmem
  obtain ⟨row, hrow, rfl⟩ := List.mem_map.mp hmem
  refine ⟨⟨row, Table.find?_of_mem hrow, rfl⟩, by simpa using hfilter⟩

theorem Store.nodup_selectPending (store : Store) (limit : ℕ) (locked : ℕ → Bool) :
    ((store.selectPending limit locked).map (·.eventID)).Nodup := by
  have hkeys : ((store.outboxEvents.rows.map OutboxRow.toOutboxEvent).map (·.eventID)).Nodup := by
    rw [List.map_map]
    exact store.outboxEvents.nodup
  have hfilter := (List.filter_sublist (p := fun ev : OutboxEvent =>
    ev.status = .pending && !locked ev.eventID).map (·.eventID)).nodup hkeys
  have hsort := ((List.perm_insertionSort (fun ev ev' : OutboxEvent => ev.eventID ≤ ev'.eventID)
    _).map (·.eventID)).nodup_iff.mpr hfilter
  exact ((List.take_sublist _ _).map _).nodup hsort

/-- A committed failure transaction either counts the failure and queues the event again, or it was
the last one and the event is now a dead letter. -/
theorem recordFailure_ok {maxRetries : ℕ} {ev : OutboxEvent} {err : GoError} {now : Time}
    {letter : Option DeadLetterEvent} {row : OutboxRow}
    (hrow : store.outboxEvents.find? ev.eventID = some row)
    (h : recordFailure maxRetries ev err now store = .ok (letter, store')) :
    store'.nextOutboxID = store.nextOutboxID ∧
    (∀ id, id ≠ ev.eventID → store'.outboxEvents.find? id = store.outboxEvents.find? id) ∧
    ((row.retryCount + 1 < maxRetries ∧ letter = none ∧
        store'.outboxEvents.find? ev.eventID = some (row.failedOnce err.text maxRetries) ∧
        store'.deadLetterEvents = store.deadLetterEvents ∧
        store'.nextDeadLetterID = store.nextDeadLetterID) ∨
      (maxRetries ≤ row.retryCount + 1 ∧ ∃ d, letter = some d ∧ d.payload = ev.payload ∧
        d.eventID = store.nextDeadLetterID ∧
        store'.outboxEvents.find? ev.eventID = none ∧
        store'.deadLetterEvents = store.deadLetterEvents.insert d ∧
        store'.nextDeadLetterID = store.nextDeadLetterID + 1)) := by
  simp only [recordFailure, markOutboxEventFailed, bind_ok, check_ok, view_ok, write_ok] at h
  obtain ⟨_, store₁, ⟨_, _, ⟨-, rfl⟩, _, _, ⟨-, rfl⟩, _, _, ⟨-, rfl⟩, hupd⟩, _, _, ⟨rfl, rfl⟩, h⟩ :=
    h
  have hupdated : store.Updated store₁ [ev.eventID] (·.failedOnce err.text maxRetries) := by
    rw [hupd]
    exact store.updated _ _ _
  have hself : store₁.outboxEvents.find? ev.eventID = some (row.failedOnce err.text maxRetries) := by
    rw [hupdated.find?, hrow]
    simp
  have hother : ∀ id, id ≠ ev.eventID →
      store₁.outboxEvents.find? id = store.outboxEvents.find? id := fun id hid =>
    hupdated.find?_of_notMem (by simpa using hid)
  rw [hself] at h
  by_cases hlast : maxRetries ≤ row.retryCount + 1
  · have hstatus : (row.failedOnce err.text maxRetries).status = .failed := if_pos hlast
    simp only [hstatus, if_true, createDeadLetterEvent, deleteOutboxEvent, bind_ok, view_ok, write_ok,
      pure_ok] at h
    obtain ⟨d, _, ⟨_, _, ⟨rfl, rfl⟩, _, _, rfl, rfl, rfl⟩, _, _, rfl, rfl, rfl⟩ := h
    refine ⟨hupdated.nextOutboxID, fun id hid => ?_,
      .inr ⟨hlast, _, rfl, rfl, hupdated.nextDeadLetterID, ?_, ?_, ?_⟩⟩
    · rw [Table.find?_erase_ne _ (Ne.symm hid)]
      exact hother id hid
    · rw [Table.find?_erase, if_pos rfl]
    · rw [← hupdated.deadLetterEvents]
    · rw [← hupdated.nextDeadLetterID]
  · have hstatus : (row.failedOnce err.text maxRetries).status ≠ .failed := by
      simp [OutboxRow.failedOnce, hlast]
    simp only [hstatus, if_false, pure_ok] at h
    obtain ⟨rfl, rfl⟩ := h
    exact ⟨hupdated.nextOutboxID, hother,
      .inl ⟨by omega, rfl, hself, hupdated.deadLetterEvents, hupdated.nextDeadLetterID⟩⟩

/-- The failure transaction of an event that is still to be retried goes through when the limit is
an `INT`, and only then. -/
theorem recordFailure_iff {maxRetries : ℕ} {ev : OutboxEvent} (err : GoError) (now : Time)
    {row : OutboxRow} (hrow : store.outboxEvents.find? ev.eventID = some row)
    (hlimit : row.retryCount < maxRetries) :
    (∃ letter store', recordFailure maxRetries ev err now store = .ok (letter, store')) ↔
      maxRetries ≤ 2147483647 := by
  have hint : ∀ n : ℕ, Pg.int4 n = true ↔ n ≤ 2147483647 := by
    intro n
    simp only [Pg.int4, Bool.and_eq_true, decide_eq_true_eq]
    omega
  constructor
  · rintro ⟨letter, store', h⟩
    simp only [recordFailure, markOutboxEventFailed, bind_ok, check_ok] at h
    obtain ⟨_, _, ⟨_, _, ⟨hmax, rfl⟩, _⟩, _⟩ := h
    exact (hint maxRetries).mp hmax
  · intro hmax
    have hretry : Pg.int4 ((row.retryCount : ℤ) + 1) = true := by
      exact_mod_cast (hint (row.retryCount + 1)).mpr (by omega)
    have hall : ((some row).all fun row => Pg.int4 (row.retryCount + 1)) = true := by
      rw [Option.all_some]
      exact hretry
    obtain ⟨store₁, hmark⟩ : ∃ store₁,
        markOutboxEventFailed ev.eventID err.text maxRetries store = .ok ((), store₁) :=
      ⟨_, bind_ok.mpr ⟨(), store, check_ok.mpr ⟨(hint maxRetries).mpr hmax, rfl⟩,
        bind_ok.mpr ⟨some row, store, view_ok.mpr ⟨hrow, rfl⟩,
          bind_ok.mpr ⟨(), store, check_ok.mpr ⟨hall, rfl⟩, rfl⟩⟩⟩⟩
    simp only [recordFailure, bind_ok, view_ok, hmark]
    -- nothing after the count can fail
    cases hrow₁ : store₁.outboxEvents.find? ev.eventID with
    | none => exact ⟨_, _, (), store₁, rfl, _, _, ⟨hrow₁, rfl⟩, rfl⟩
    | some row₁ =>
      by_cases hfailed : row₁.status = .failed
      · exact ⟨_, _, (), store₁, rfl, _, _, ⟨hrow₁, rfl⟩, by simp only [hfailed, if_true]; rfl⟩
      · exact ⟨_, _, (), store₁, rfl, _, _, ⟨hrow₁, rfl⟩, by simp only [hfailed, if_false]; rfl⟩

end OfflinePay.Outbox
