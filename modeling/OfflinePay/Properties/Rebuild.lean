import OfflinePay.Projection.Rebuild
import OfflinePay.Settlement.Solo

/-!
# Live projections and rebuilt ones

A settled or failed payment is told twice: to the projection worker by an outbox event, and to the
rebuild tool by a payment event. Both tell it to `payment_read_projections` through the same upsert,
which changes the status and the relay hops of a row that is there and nothing else that is
compared. So both tables are the same fold over the notifications (`Shown.put`), as long as every
value fits its column.

The tool ends with its last checkpoint at the last settled or failed event, and compares that with
the last event of all.
-/

namespace OfflinePay.Projection

open Tx

/-! ## What is compared of a row -/

/-- The compared columns of a row. -/
structure Shown where
  senderID : String
  receiverID : String
  amount : Int64
  status : String
  relayHops : ℤ
deriving DecidableEq

/-- The compared columns of a projection. -/
def PaymentReadProjection.shown (proj : PaymentReadProjection) : Shown :=
  ⟨proj.senderID, proj.receiverID, proj.amount, proj.status, proj.relayHops⟩

/-- The rows of the read model, by their `txn_id`. -/
def ReadStore.shown (store : ReadStore) (txnID : String) : Option Shown :=
  (store.projections.find? txnID).map (·.shown)

/-- A row is added, or its status and its relay hops change. -/
def Shown.put (new : Shown) (txnID : String)
    (rows : String → Option Shown) : String → Option Shown :=
  Function.update rows txnID (some (match rows txnID with
    | none => new
    | some old => { old with status := new.status, relayHops := new.relayHops }))

/-- The parties of a row matter only where there is none yet. -/
theorem Shown.put_congr {new new' : Shown} {txnID : String} {rows : String → Option Shown}
    (hfresh : rows txnID = none → new = new') (hstatus : new.status = new'.status)
    (hhops : new.relayHops = new'.relayHops) : new.put txnID rows = new'.put txnID rows := by
  unfold put
  congr 2
  cases h : rows txnID with
  | none => exact hfresh h
  | some old => simp [hstatus, hhops]

/-- Every row fits its columns. -/
def ReadStore.Fits (store : ReadStore) : Prop :=
  ∀ txnID proj, store.projections.find? txnID = some proj → proj.columnsFit = true

/-- The row was saved by `CreateOrUpdateReadProjection`. -/
structure ReadStore.Saved (store : ReadStore) (proj : PaymentReadProjection) (store' : ReadStore) :
    Prop where
  fits : proj.columnsFit = true
  rows : ∀ txnID, store'.projections.find? txnID =
    if proj.txnID = txnID then
      some ((store.projections.find? txnID).elim proj.stored proj.stored.update)
    else store.projections.find? txnID

theorem ReadStore.Saved.shown {store store' : ReadStore} {proj : PaymentReadProjection}
    (h : store.Saved proj store') : store'.shown = proj.shown.put proj.txnID store.shown := by
  funext txnID
  rw [ReadStore.shown, h.rows, Shown.put, Function.update_apply]
  by_cases hid : proj.txnID = txnID
  · subst hid
    rw [if_pos rfl, if_pos rfl, ReadStore.shown]
    cases store.projections.find? proj.txnID <;> rfl
  · rw [if_neg hid, if_neg (Ne.symm hid), ReadStore.shown]

theorem ReadStore.Saved.rows_fit {store store' : ReadStore} {proj : PaymentReadProjection}
    (h : store.Saved proj store') (hstore : store.Fits) : store'.Fits := by
  intro txnID row hrow
  rw [h.rows] at hrow
  split at hrow
  · obtain rfl := Option.some.inj hrow
    have hproj := h.fits
    cases hold : store.projections.find? txnID with
    | none => exact hproj
    | some old =>
      have hold' := hstore txnID old hold
      simp only [PaymentReadProjection.columnsFit, Bool.and_eq_true] at hproj hold'
      simp [PaymentReadProjection.columnsFit, PaymentReadProjection.update,
        PaymentReadProjection.stored, hold', hproj]
  · exact hstore txnID row hrow

/-! ## Notifications -/

/-- What the settlement service tells about a payment. -/
inductive Notification where
  | settled (txnID sender receiver : String) (amount : Int64) (tokenID : String) (settledAt : Time)
      (relayHops : Int64)
  | failed (txnID status reason : String) (relayHops : Int64)

/-- The payload of `PaymentSettled` and of `IntentSettled`. -/
def settledPayload (txnID sender receiver : String) (amount : Int64) (tokenID : String)
    (settledAt : Time) (relayHops : Int64) : Json :=
  .obj [("txn_id", .str txnID), ("sender", .str sender), ("receiver", .str receiver),
    ("amount", .int64 amount), ("token_id", .str tokenID), ("settled_at", .time settledAt),
    ("relay_hops", .int64 relayHops)]

/-- The payload of `PaymentFailed`. -/
def failedPayload (txnID status reason : String) (relayHops : Int64) : Json :=
  .obj [("txn_id", .str txnID), ("status", .str status), ("reason", .str reason),
    ("relay_hops", .int64 relayHops)]

/-- The payload of `IntentFailed`. -/
def failedEventPayload (status reason : String) (relayHops : Int64) : Json :=
  .obj [("reason", .str reason), ("status", .str status), ("relay_hops", .int64 relayHops)]

/-- `PUBLISH` and `saveFailedIntent` write these payloads. -/
theorem settledJson_eq (o : Settlement.Order) (now : Time) {relayHops : Int64}
    (h : o.hopCount = relayHops.toInt) : o.settledJson now = settledPayload o.payload.txnID
      o.payload.senderID o.payload.receiverID o.payload.amount o.payload.tokenID now relayHops := by
  rw [Settlement.Order.settledJson, h]
  rfl

theorem failedJson_eq (env : EncryptedEnvelope) (f : Settlement.Failure) (relayHops : Int64) :
    Settlement.failedJson env relayHops.toInt f
      = failedPayload env.txnID f.status.text f.reason relayHops := rfl

theorem settledJob_settledPayload (eventID txnID sender receiver : String) (amount : Int64)
    (tokenID : String) (settledAt : Time) (relayHops : Int64) :
    settledJob eventID (settledPayload txnID sender receiver amount tokenID settledAt relayHops) = some {
      eventID
      fresh := { txnID, senderID := sender, receiverID := receiver, amount }
      status := PaymentStatus.settled.text
      relayHops := relayHops.toInt
      settledAt := some settledAt } := by
  generalize hfields : [("txn_id", Json.str txnID), ("sender", .str sender), ("receiver", .str receiver),
    ("amount", .int64 amount), ("token_id", .str tokenID), ("settled_at", .time settledAt),
    ("relay_hops", .int64 relayHops)] = fields
  have hmembers : Json.member? fields "txn_id" = some (.str txnID) ∧
      Json.member? fields "sender" = some (.str sender) ∧
      Json.member? fields "receiver" = some (.str receiver) ∧
      Json.member? fields "amount" = some (.int64 amount) ∧
      Json.member? fields "token_id" = some (.str tokenID) ∧
      Json.member? fields "settled_at" = some (.time settledAt) ∧
      Json.member? fields "relay_hops" = some (.int64 relayHops) := by
    have hnames : Json.PlainNames ["txn_id", "sender", "receiver", "amount", "token_id", "settled_at",
        "relay_hops"] := by
      decide +kernel
    subst hfields
    refine ⟨?_, ?_, ?_, ?_, ?_, ?_, ?_⟩ <;> exact Json.member?_of_mem hnames (by simp)
  obtain ⟨htxn, hsender, hreceiver, hamount, htoken, hsettled, hhops⟩ := hmembers
  rw [settledPayload, hfields]
  simp [settledJob, Json.members, Json.stringField_eq htxn, Json.stringField_eq hsender,
    Json.stringField_eq hreceiver, Json.intField_eq hamount, Json.stringField_eq htoken,
    Json.timeField_eq hsettled, Json.intField_eq hhops]

theorem failedJob_failedPayload (eventID txnID status reason : String) (relayHops : Int64) :
    failedJob eventID (failedPayload txnID status reason relayHops) = some {
      eventID
      fresh := { txnID, senderID := "UNKNOWN", receiverID := "UNKNOWN", amount := 0 }
      status
      relayHops := relayHops.toInt
      settledAt := none } := by
  generalize hfields : [("txn_id", Json.str txnID), ("status", .str status), ("reason", .str reason),
    ("relay_hops", .int64 relayHops)] = fields
  have hmembers : Json.member? fields "txn_id" = some (.str txnID) ∧
      Json.member? fields "status" = some (.str status) ∧
      Json.member? fields "reason" = some (.str reason) ∧
      Json.member? fields "relay_hops" = some (.int64 relayHops) := by
    have hnames : Json.PlainNames ["txn_id", "status", "reason", "relay_hops"] := by decide +kernel
    subst hfields
    refine ⟨?_, ?_, ?_, ?_⟩ <;> exact Json.member?_of_mem hnames (by simp)
  obtain ⟨htxn, hstatus, hreason, hhops⟩ := hmembers
  rw [failedPayload, hfields]
  simp [failedJob, Json.members, Json.stringField_eq htxn, Json.stringField_eq hstatus,
    Json.stringField_eq hreason, Json.intField_eq hhops]

theorem failedData_failedEventPayload (status reason : String) (relayHops : Int64) :
    failedData (failedEventPayload status reason relayHops) = some (status, relayHops.toInt) := by
  generalize hfields : [("reason", Json.str reason), ("status", .str status),
    ("relay_hops", .int64 relayHops)] = fields
  have hmembers : Json.member? fields "reason" = some (.str reason) ∧
      Json.member? fields "status" = some (.str status) ∧
      Json.member? fields "relay_hops" = some (.int64 relayHops) := by
    have hnames : Json.PlainNames ["reason", "status", "relay_hops"] := by decide +kernel
    subst hfields
    refine ⟨?_, ?_, ?_⟩ <;> exact Json.member?_of_mem hnames (by simp)
  obtain ⟨hreason, hstatus, hhops⟩ := hmembers
  rw [failedEventPayload, hfields]
  simp [failedData, Json.members, Json.stringField_eq hstatus, Json.stringField_eq hreason,
    Json.intField_eq hhops]

/-- The row that the replay of an event starts from. -/
def EventRow.base (row : EventRow) (store : ReadStore) : PaymentReadProjection :=
  (store.projections.find? row.event.txnID).getD
    ⟨row.event.txnID, "UNKNOWN", "UNKNOWN", 0, "", 0, none, Time.zero⟩

theorem EventRow.replay_of_rebuilt {row : EventRow} {store : ReadStore}
    {proj : PaymentReadProjection} (now : Time) (h : row.rebuilt (row.base store) = some proj) :
    row.replay now store = (do
      createOrUpdateReadProjection { proj with updatedAt := now }
      updateProjectionCheckpoint row.eventID : ReadTx Unit) store := by
  simp only [EventRow.base] at h
  simp only [EventRow.replay, view, bind, StateT.bind, Except.bind, h]

theorem EventRow.replay_of_skipped {row : EventRow} {store : ReadStore} (now : Time)
    (h : row.rebuilt (row.base store) = none) : row.replay now store = .ok ((), store) := by
  simp only [EventRow.base] at h
  simp only [EventRow.replay, view, bind, StateT.bind, Except.bind, h]
  rfl

namespace Notification

/-- The row that a notification makes where there is none. -/
def fresh : Notification → PaymentReadProjection
  | settled txnID sender receiver amount _ settledAt relayHops =>
    ⟨txnID, sender, receiver, amount, PaymentStatus.settled.text, relayHops.toInt, some settledAt, Time.zero⟩
  | failed txnID status _ relayHops =>
    ⟨txnID, "UNKNOWN", "UNKNOWN", 0, status, relayHops.toInt, none, Time.zero⟩

/-- The payment it is about. -/
def txnID (n : Notification) : String := n.fresh.txnID

/-- Its values fit the columns of `payment_read_projections`. -/
def fits (n : Notification) : Bool := n.fresh.columnsFit

/-- The rows after a notification. -/
def project (rows : String → Option Shown) (n : Notification) : String → Option Shown :=
  n.fresh.shown.put n.txnID rows

/-- The job of the projection worker. -/
def job (n : Notification) (eventID : String) : Job where
  eventID
  fresh := { n.fresh with status := "", relayHops := 0, settledAt := none }
  status := n.fresh.status
  relayHops := n.fresh.relayHops
  settledAt := n.fresh.settledAt

/-- The notification is delivered to the projection worker. -/
def handle (n : Notification) (eventID : String) (now : Time) : ReadTx Unit :=
  match n with
  | settled txnID sender receiver amount tokenID settledAt relayHops =>
    handlePaymentSettled eventID
      (settledPayload txnID sender receiver amount tokenID settledAt relayHops) now
  | failed txnID status reason relayHops =>
    handlePaymentFailed eventID (failedPayload txnID status reason relayHops) now

/-- The payment event of the notification. It has a timestamp of its own. -/
def RecordedBy (n : Notification) (row : EventRow) : Prop :=
  row.event.txnID = n.txnID ∧
    match n with
    | settled txnID sender receiver amount tokenID _ relayHops =>
      row.event.eventType = "IntentSettled" ∧ ∃ settledAt, row.event.payload
        = settledPayload txnID sender receiver amount tokenID settledAt relayHops
    | failed _ status reason relayHops =>
      row.event.eventType = "IntentFailed" ∧
        row.event.payload = failedEventPayload status reason relayHops

theorem handle_eq (n : Notification) (eventID : String) (now : Time) :
    n.handle eventID now = (n.job eventID).handle now := by
  cases n with
  | settled txnID sender receiver amount tokenID settledAt relayHops =>
    rw [handle, handlePaymentSettled, settledJob_settledPayload]
    rfl
  | failed txnID status reason relayHops =>
    rw [handle, handlePaymentFailed, failedJob_failedPayload]
    rfl

/-! ## One notification -/

/-- The projection worker saves a notification that is new to it. -/
theorem handled (n : Notification) {store : ReadStore} (hstore : store.Fits) {eventID : String}
    (hid : Pg.varchar 100 eventID = true) (hnew : eventID ∉ store.processedEvents)
    (hfits : n.fits = true) (now : Time) :
    (withTx none (n.handle eventID now) store).2.shown = n.project store.shown ∧
      (withTx none (n.handle eventID now) store).2.Fits ∧
      (withTx none (n.handle eventID now) store).2.processedEvents
        = store.processedEvents ++ [eventID] := by
  have hkey : ((store.projections.find? n.txnID).getD (n.job eventID).fresh).txnID = n.txnID := by
    cases hloaded : store.projections.find? n.txnID with
    | none => rfl
    | some old => exact Table.key_of_find? hloaded
  have hrow : ∀ now, ((n.job eventID).row (store.projections.find? n.txnID) now).columnsFit = true := by
    intro now
    simp only [fits, PaymentReadProjection.columnsFit, Bool.and_eq_true] at hfits
    cases hloaded : store.projections.find? n.txnID with
    | none => simp [Job.row, PaymentReadProjection.columnsFit, job, hfits]
    | some old =>
      have hold := hstore n.txnID old hloaded
      simp only [PaymentReadProjection.columnsFit, Bool.and_eq_true] at hold
      simp [Job.row, PaymentReadProjection.columnsFit, job, hfits, hold]
  have hfit : (n.job eventID).fitsWith (store.projections.find? n.txnID) = true := by
    rw [Job.fitsWith, hrow, Bool.true_and]
    exact hid
  have hstore' : (withTx none (n.handle eventID now) store).2
      = (n.job eventID).saved (store.projections.find? n.txnID) now store := by
    rw [handle_eq, Job.withTx_handle]
    refine (if_neg hnew).trans ?_
    rw [Job.withTx_save]
    exact if_pos hfit
  have hsaved : store.Saved ((n.job eventID).row (store.projections.find? n.txnID) now)
      ((n.job eventID).saved (store.projections.find? n.txnID) now store) :=
    ⟨hrow now, Job.find?_saved _ _ _ _⟩
  rw [hstore']
  refine ⟨?_, hsaved.rows_fit hstore, if_neg hnew⟩
  rw [hsaved.shown, show ((n.job eventID).row _ now).txnID = n.txnID from hkey]
  refine Shown.put_congr (fun hnone => ?_) rfl rfl
  rw [ReadStore.shown, Option.map_eq_none_iff] at hnone
  rw [hnone]
  rfl

/-- The row that the rebuild tool makes of a row for a notification. -/
def applied (n : Notification) (proj : PaymentReadProjection) : PaymentReadProjection :=
  match n with
  | settled _ sender receiver amount _ settledAt relayHops =>
    { proj with
      senderID := sender
      receiverID := receiver
      amount
      status := PaymentStatus.settled.text
      relayHops := relayHops.toInt
      settledAt := some settledAt }
  | failed _ status _ relayHops => { proj with status, relayHops := relayHops.toInt }

theorem RecordedBy.rebuilt {n : Notification} {row : EventRow} (h : n.RecordedBy row)
    (proj : PaymentReadProjection) :
    ∃ settledAt, row.rebuilt proj = some { n.applied proj with settledAt } := by
  obtain ⟨eventID, txnID, eventType, version, payload, createdAt⟩ := row
  cases n with
  | settled txnID sender receiver amount tokenID settledAt relayHops =>
    obtain ⟨-, rfl, settledAt', rfl⟩ := h
    refine ⟨some settledAt', ?_⟩
    simp only [EventRow.rebuilt, settledJob_settledPayload]
    rfl
  | failed txnID status reason relayHops =>
    obtain ⟨-, rfl, rfl⟩ := h
    refine ⟨proj.settledAt, ?_⟩
    simp only [EventRow.rebuilt, failedData_failedEventPayload]
    rfl

/-- Whether the rebuilt row fits its columns does not depend on what was there. -/
theorem applied_fits (n : Notification) {proj : PaymentReadProjection} (htxn : proj.txnID = n.txnID)
    (hsender : Pg.varchar 100 proj.senderID = true)
    (hreceiver : Pg.varchar 100 proj.receiverID = true) (settledAt : Option Time) (now : Time) :
    { n.applied proj with settledAt, updatedAt := now }.columnsFit = n.fits := by
  cases n with
  | settled txnID sender receiver amount tokenID settledAt relayHops =>
    simp [PaymentReadProjection.columnsFit, applied, fits, fresh, htxn, Notification.txnID]
  | failed txnID status reason relayHops =>
    have hunknown : Pg.varchar 100 "UNKNOWN" = true := by decide
    simp [PaymentReadProjection.columnsFit, applied, fits, fresh, htxn, Notification.txnID, hsender,
      hreceiver, hunknown]

theorem applied_txnID (n : Notification) (proj : PaymentReadProjection) :
    (n.applied proj).txnID = proj.txnID := by
  cases n <;> rfl

/-- The row that is loaded for an event is one of its payment, and its parties fit. -/
theorem RecordedBy.base {n : Notification} {row : EventRow} (h : n.RecordedBy row)
    {store : ReadStore} (hstore : store.Fits) : (row.base store).txnID = n.txnID ∧
      Pg.varchar 100 (row.base store).senderID = true ∧
      Pg.varchar 100 (row.base store).receiverID = true := by
  unfold EventRow.base
  cases hloaded : store.projections.find? row.event.txnID with
  | none => exact ⟨h.1, show Pg.varchar 100 "UNKNOWN" = true by decide,
      show Pg.varchar 100 "UNKNOWN" = true by decide⟩
  | some old =>
    have hold := hstore _ old hloaded
    simp only [PaymentReadProjection.columnsFit, Bool.and_eq_true] at hold
    exact ⟨(Table.key_of_find? hloaded).trans h.1, hold.1.1.1.2, hold.1.1.2⟩

/-- The rebuild tool saves a notification if it fits, and ends if it does not. -/
theorem RecordedBy.replayed {n : Notification} {row : EventRow} (h : n.RecordedBy row)
    {store : ReadStore} (hstore : store.Fits) (now : Time) :
    if n.fits then ∃ store', withTx none (row.replay now) store = (.ok (), store') ∧
      store'.shown = n.project store.shown ∧ store'.Fits ∧ store'.checkpoint = some row.eventID
    else ∃ e, withTx none (row.replay now) store = (.error e, store) := by
  obtain ⟨htxn, hsender, hreceiver⟩ := h.base hstore
  obtain ⟨settledAt, hrebuilt⟩ := h.rebuilt (row.base store)
  have hbody := EventRow.replay_of_rebuilt now hrebuilt
  have hfits := n.applied_fits htxn hsender hreceiver settledAt now
  have hfresh : store.shown n.txnID = none → (n.applied (row.base store)).shown = n.fresh.shown := by
    intro hnone
    rw [ReadStore.shown, Option.map_eq_none_iff, ← h.1] at hnone
    rw [EventRow.base, hnone]
    cases n <;> rfl
  have hkey := (n.applied_txnID (row.base store)).trans htxn
  have hstatus : (n.applied (row.base store)).status = n.fresh.status := by cases n <;> rfl
  have hhops : (n.applied (row.base store)).relayHops = n.fresh.relayHops := by cases n <;> rfl
  generalize n.applied (row.base store) = proj at *
  split
  · next hn =>
    rw [hn] at hfits
    have hsaved : store.Saved { proj with settledAt, updatedAt := now }
        { store with
          projections := store.projections.upsert
            (PaymentReadProjection.stored { proj with settledAt, updatedAt := now })
            (PaymentReadProjection.stored { proj with settledAt, updatedAt := now }).update fun _ => rfl
          checkpoint := some row.eventID } :=
      ⟨hfits, Table.find?_upsert _ _ _ _⟩
    refine ⟨_, withTx_ok.mpr ⟨rfl, hbody.trans ?_⟩, ?_, hsaved.rows_fit hstore, rfl⟩
    · exact bind_ok.mpr ⟨(), _, bind_ok.mpr ⟨(), _, check_ok.mpr ⟨hfits, rfl⟩, rfl⟩, rfl⟩
    · rw [hsaved.shown, show PaymentReadProjection.txnID { proj with settledAt, updatedAt := now }
        = n.txnID from hkey]
      exact Shown.put_congr hfresh hstatus hhops
  · next hn =>
    rw [Bool.not_eq_true] at hn
    rw [hn] at hfits
    refine ⟨PaymentReadProjection.columnError { proj with settledAt, updatedAt := now }, ?_⟩
    have hrefused : row.replay now store
        = .error (PaymentReadProjection.columnError { proj with settledAt, updatedAt := now }) :=
      hbody.trans <| bind_error.mpr <| .inl <| bind_error.mpr <| .inl <| check_error.mpr
        ⟨by rw [hfits]; decide, rfl⟩
    unfold withTx
    rw [hrefused]

end Notification

/-! ## The live table -/

/-- An outbox event of a notification. -/
structure Notice where
  eventID : String
  told : Notification

/-- The notice is delivered to the worker at a time. -/
def Notice.deliver (store : ReadStore) (delivery : Notice × Time) : ReadStore :=
  (withTx none (delivery.1.told.handle delivery.1.eventID delivery.2) store).2

/-- Deliveries of the notices `todo` in their order. A notice that was delivered can come again at
any time. -/
inductive Redelivered : List Notice → List Notice → List (Notice × Time) → Prop where
  | done (done : List Notice) : Redelivered done [] []
  | next {done todo : List Notice} {deliveries : List (Notice × Time)} (notice : Notice)
      (now : Time) (h : Redelivered (done ++ [notice]) todo deliveries) :
      Redelivered done (notice :: todo) ((notice, now) :: deliveries)
  | again {done todo : List Notice} {deliveries : List (Notice × Time)} {notice : Notice}
      (now : Time) (hmem : notice ∈ done) (h : Redelivered done todo deliveries) :
      Redelivered done todo ((notice, now) :: deliveries)

/-- An empty read model. -/
def ReadStore.empty : ReadStore := ⟨.empty, [], none⟩

theorem ReadStore.empty_fits : ReadStore.empty.Fits := fun _ _ h => nomatch h

theorem Notice.deliver_processed {store : ReadStore} {notice : Notice}
    (h : notice.eventID ∈ store.processedEvents) (now : Time) :
    Notice.deliver store (notice, now) = store := by
  rw [Notice.deliver, Notification.handle_eq, Job.withTx_handle]
  exact if_pos h

/-- The live table is the fold over the notices, however often each is delivered. -/
theorem Redelivered.shown {done todo : List Notice} {deliveries : List (Notice × Time)}
    (h : Redelivered done todo deliveries) {store : ReadStore} (hstore : store.Fits)
    (hprocessed : store.processedEvents = done.map (·.eventID))
    (hids : ((done ++ todo).map (·.eventID)).Nodup)
    (hfits : ∀ notice ∈ todo, Pg.varchar 100 notice.eventID = true ∧ notice.told.fits = true) :
    (deliveries.foldl Notice.deliver store).shown
      = (todo.map (·.told)).foldl Notification.project store.shown := by
  induction h generalizing store with
  | done => rfl
  | @next done todo deliveries notice now _ ih =>
    obtain ⟨hid, hfit⟩ := hfits notice List.mem_cons_self
    have hnew : notice.eventID ∉ store.processedEvents := by
      rw [hprocessed]
      rw [List.map_append, List.nodup_append] at hids
      exact fun hmem => hids.2.2 _ hmem _ List.mem_cons_self rfl
    obtain ⟨hshown, hfits', hprocessed'⟩ := notice.told.handled hstore hid hnew hfit now
    rw [List.foldl_cons, List.map_cons, List.foldl_cons, ← hshown]
    refine ih hfits' ?_ (by simpa using hids) fun n hn => hfits n (List.mem_cons_of_mem _ hn)
    exact hprocessed'.trans (by rw [hprocessed, List.map_append, List.map_singleton])
  | again now hmem _ ih =>
    have hknown := hprocessed ▸ List.mem_map_of_mem hmem
    rw [List.foldl_cons, Notice.deliver_processed hknown]
    exact ih hstore hprocessed hids hfits

/-! ## The rebuilt table -/

/-- The payment events of some notifications, in their order, with diagnoses of the recovery between
them. -/
inductive Logged : List Notification → List EventRow → Prop where
  | nil : Logged [] []
  | recorded {n : Notification} {ns : List Notification} {row : EventRow} {rows : List EventRow}
      (h : n.RecordedBy row) (hrest : Logged ns rows) : Logged (n :: ns) (row :: rows)
  | diagnosed {ns : List Notification} {row : EventRow} {rows : List EventRow}
      (h : row.event.eventType = "RecoveryDiagnosed") (hrest : Logged ns rows) :
      Logged ns (row :: rows)

/-- The checkpoint after a row: a diagnosis does not move it. -/
def EventRow.advance (checkpoint : Option ℤ) (row : EventRow) : Option ℤ :=
  if row.event.eventType = "RecoveryDiagnosed" then checkpoint else some row.eventID

theorem Notification.RecordedBy.eventType_ne {n : Notification} {row : EventRow}
    (h : n.RecordedBy row) :
    row.event.eventType ≠ "RecoveryDiagnosed" := by
  cases n with
  | settled => rw [h.2.1]; decide
  | failed => rw [h.2.1]; decide

theorem EventRow.replay_diagnosed {row : EventRow} (h : row.event.eventType = "RecoveryDiagnosed")
    (now : Time) (store : ReadStore) : withTx none (row.replay now) store = (.ok (), store) := by
  refine withTx_ok.mpr ⟨rfl, EventRow.replay_of_skipped now ?_⟩
  rw [EventRow.rebuilt, h]
  rfl

/-- The loop saves all notifications if they fit. -/
theorem Logged.replayAll {ns : List Notification} {rows : List EventRow} (h : Logged ns rows)
    {store : ReadStore} (hstore : store.Fits) (hfits : ∀ n ∈ ns, n.fits = true) (clock : ℤ → Time) :
    ∃ store', replayAll clock rows store = (store', none) ∧
      store'.shown = ns.foldl Notification.project store.shown ∧
      store'.checkpoint = rows.foldl EventRow.advance store.checkpoint := by
  induction h generalizing store with
  | nil => exact ⟨store, rfl, rfl, rfl⟩
  | @recorded n ns row rows h hrest ih =>
    have hstep := h.replayed hstore (clock row.eventID)
    rw [if_pos (hfits n List.mem_cons_self)] at hstep
    obtain ⟨store₁, hreplay, hshown, hstore₁, hcheckpoint⟩ := hstep
    obtain ⟨store', hall, hshown', hcheckpoint'⟩ :=
      ih hstore₁ fun n hn => hfits n (List.mem_cons_of_mem _ hn)
    refine ⟨store', ?_, hshown'.trans (by rw [hshown]; rfl), hcheckpoint'.trans ?_⟩
    · rw [Projection.replayAll, hreplay]
      exact hall
    · rw [hcheckpoint, List.foldl_cons, EventRow.advance, if_neg h.eventType_ne]
  | diagnosed h hrest ih =>
    obtain ⟨store', hall, hshown', hcheckpoint'⟩ := ih hstore hfits
    refine ⟨store', ?_, hshown', hcheckpoint'.trans ?_⟩
    · rw [Projection.replayAll, EventRow.replay_diagnosed h]
      exact hall
    · rw [List.foldl_cons, EventRow.advance, if_pos h]

/-- The loop ends the tool if one does not fit. -/
theorem Logged.replayAll_ends {ns : List Notification} {rows : List EventRow} (h : Logged ns rows)
    {store : ReadStore} (hstore : store.Fits) (hunfit : ∃ n ∈ ns, n.fits = false)
    (clock : ℤ → Time) :
    ∃ store' e, Projection.replayAll clock rows store = (store', some e) := by
  induction h generalizing store with
  | nil => simp at hunfit
  | @recorded n ns row rows h hrest ih =>
    have hstep := h.replayed hstore (clock row.eventID)
    cases hn : n.fits with
    | false =>
      rw [hn, if_neg (by decide)] at hstep
      obtain ⟨e, hreplay⟩ := hstep
      exact ⟨store, e, by rw [Projection.replayAll, hreplay]⟩
    | true =>
      rw [hn, if_pos rfl] at hstep
      obtain ⟨store₁, hreplay, -, hstore₁, -⟩ := hstep
      have hrest : ∃ n ∈ ns, n.fits = false := by
        obtain ⟨n', hmem, hn'⟩ := hunfit
        obtain rfl | hmem := List.mem_cons.mp hmem
        · rw [hn] at hn'
          cases hn'
        · exact ⟨n', hmem, hn'⟩
      rw [Projection.replayAll, hreplay]
      exact ih hstore₁ hrest
  | diagnosed h hrest ih =>
    rw [Projection.replayAll, EventRow.replay_diagnosed h]
    exact ih hstore hunfit

/-- The rebuilt table and the live one show the same rows. -/
theorem rebuild_agrees {notices : List Notice} (hids : (notices.map (·.eventID)).Nodup)
    (hfits : ∀ notice ∈ notices, Pg.varchar 100 notice.eventID = true ∧ notice.told.fits = true)
    {deliveries : List (Notice × Time)} (hlive : Redelivered [] notices deliveries)
    {rows : List EventRow} (hlog : Logged (notices.map (·.told)) rows) (clock : ℤ → Time) :
    ∃ store, replayAll clock rows .empty = (store, none) ∧
      store.shown = (deliveries.foldl Notice.deliver .empty).shown := by
  have hlive' := hlive.shown ReadStore.empty_fits rfl hids hfits
  obtain ⟨store, hreplay, hshown, -⟩ := hlog.replayAll ReadStore.empty_fits
    (List.forall_mem_map.mpr fun notice hmem => (hfits notice hmem).2) clock
  exact ⟨store, hreplay, hshown.trans hlive'.symm⟩

/-- A failed payment: its outbox event. -/
def failedNotice (eventID txnID : String) (relayHops : Int64) : Notice :=
  ⟨eventID, .failed txnID PaymentStatus.rejected.text "device_not_found" relayHops⟩

/-- A failed payment: its payment event. -/
def failedRow (eventID : ℤ) (txnID : String) (relayHops : Int64) : EventRow :=
  ⟨eventID, txnID, "IntentFailed", 1,
    failedEventPayload PaymentStatus.rejected.text "device_not_found" relayHops, 0⟩

theorem rebuild_agrees_redelivered :
    ∃ store, replayAll (fun _ => 5) [failedRow 1 "tx-1" 2, failedRow 2 "tx-2" 0] .empty = (store, none) ∧
      store.shown = ([(failedNotice "1" "tx-1" 2, 1), (failedNotice "2" "tx-2" 0, 2),
        (failedNotice "1" "tx-1" 2, 3)].foldl Notice.deliver .empty).shown := by
  have hlive : Redelivered [] [failedNotice "1" "tx-1" 2, failedNotice "2" "tx-2" 0] _ :=
    .next _ 1 (.next _ 2 (.again 3 List.mem_cons_self (.done _)))
  exact rebuild_agrees (by decide) (by decide) hlive
    (.recorded ⟨rfl, rfl, rfl⟩ (.recorded ⟨rfl, rfl, rfl⟩ .nil)) _

/-- A number of hops that is no `INT`: the worker goes on to the next notification, the tool does
not. -/
theorem unfit_not_rebuilt :
    let notices := [failedNotice "1" "tx-1" 3000000000, failedNotice "2" "tx-2" 0]
    let rows := [failedRow 1 "tx-1" 3000000000, failedRow 2 "tx-2" 0]
    Redelivered [] notices (notices.map (·, 1)) ∧ Logged (notices.map (·.told)) rows ∧
      ((notices.map (·, 1)).foldl Notice.deliver .empty).shown "tx-2"
        = some ⟨"UNKNOWN", "UNKNOWN", 0, "REJECTED", 0⟩ ∧
      (replayAll (fun _ => 5) rows .empty).1.shown "tx-2" = none :=
  ⟨.next _ 1 (.next _ 1 (.done _)), .recorded ⟨rfl, rfl, rfl⟩ (.recorded ⟨rfl, rfl, rfl⟩ .nil),
    by decide +kernel, by decide +kernel⟩

/-! ## The checks of the tool -/

theorem verifyRow_ok {cached recon : PaymentReadProjection} (h : recon.shown = cached.shown) :
    verifyRow cached recon = .ok () := by
  simp only [PaymentReadProjection.shown, Shown.mk.injEq] at h
  simp [verifyRow, h]

theorem verifyRows_ok {recon : Table PaymentReadProjection.txnID}
    {rows : List PaymentReadProjection}
    (h : ∀ cached ∈ rows, ∃ proj, recon.find? cached.txnID = some proj ∧ proj.shown = cached.shown) :
    verifyRows recon rows = .ok () := by
  induction rows with
  | nil => rfl
  | cons cached rest ih =>
    obtain ⟨proj, hfind, hshown⟩ := h cached List.mem_cons_self
    rw [verifyRows, hfind]
    change (verifyRow cached proj >>= fun _ => verifyRows recon rest) = _
    rw [verifyRow_ok hshown]
    exact ih fun cached hmem => h cached (List.mem_cons_of_mem _ hmem)

/-- Tables that show the same differ at most in the checkpoint. -/
theorem verify_ok {live store : ReadStore} (h : store.shown = live.shown) {rows : List EventRow} :
    verify live.projections store rows = .ok () ↔ store.checkpoint.getD 0 = maxEventID rows := by
  have hlength : live.projections.rows.length = store.projections.rows.length := by
    refine Table.length_rows_congr fun txnID => ?_
    have hsome := congrArg Option.isSome (congrFun h txnID)
    rw [ReadStore.shown, ReadStore.shown, Option.isSome_map, Option.isSome_map] at hsome
    exact hsome.symm
  have hrows : verifyRows store.projections live.projections.rows = .ok () := by
    refine verifyRows_ok fun cached hmem => ?_
    have hshown := congrFun h cached.txnID
    rw [ReadStore.shown, ReadStore.shown, Table.find?_of_mem hmem] at hshown
    exact Option.map_eq_some_iff.mp hshown
  have hverify : verify live.projections store rows =
      if store.checkpoint.getD 0 ≠ maxEventID rows then
        .error "verification failed: checkpoint ID mismatch"
      else .ok () := by
    rw [verify, if_neg (fun hne => hne.2 hlength), hrows]
    rfl
  rw [hverify]
  split
  · next hne => exact iff_of_false (fun hok => nomatch hok) hne
  · next heq => exact iff_of_true rfl (not_not.mp heq)

theorem maxEventID_append (rows : List EventRow) (row : EventRow) :
    maxEventID (rows ++ [row])
      = if maxEventID rows < row.eventID then row.eventID else maxEventID rows := by
  rw [maxEventID, List.foldl_append]
  rfl

theorem maxEventID_lt {rows : List EventRow} {bound : ℤ} (hbound : 0 < bound)
    (h : ∀ row ∈ rows, row.eventID < bound) : maxEventID rows < bound := by
  induction rows using List.reverseRecOn with
  | nil => exact hbound
  | append_singleton rows row ih =>
    rw [List.forall_mem_append, List.forall_mem_singleton] at h
    rw [maxEventID_append]
    split
    · exact h.2
    · exact ih h.1

theorem checkpoint_lt {rows : List EventRow} {bound : ℤ} (hbound : 0 < bound)
    (h : ∀ row ∈ rows, row.eventID < bound) :
    (rows.foldl EventRow.advance none).getD 0 < bound := by
  induction rows using List.reverseRecOn with
  | nil => exact hbound
  | append_singleton rows row ih =>
    rw [List.forall_mem_append, List.forall_mem_singleton] at h
    rw [List.foldl_append, List.foldl_cons, List.foldl_nil, EventRow.advance]
    split
    · exact ih h.1
    · exact h.2

/-- The checkpoint is at the last event if that is not a diagnosis. -/
theorem checkpoint_eq_iff {rows : List EventRow}
    (hascending : rows.Pairwise (·.eventID < ·.eventID)) (hpos : ∀ row ∈ rows, 0 < row.eventID) :
    (rows.foldl EventRow.advance none).getD 0 = maxEventID rows ↔
      ∀ row ∈ rows.getLast?, row.event.eventType ≠ "RecoveryDiagnosed" := by
  induction rows using List.reverseRecOn with
  | nil => simp [maxEventID]
  | append_singleton rows row _ =>
    have hlast : 0 < row.eventID := hpos row (by simp)
    have hbelow : ∀ row' ∈ rows, row'.eventID < row.eventID := fun row' hmem =>
      (List.pairwise_append.mp hascending).2.2 row' hmem row List.mem_cons_self
    rw [maxEventID_append, if_pos (maxEventID_lt hlast hbelow), List.foldl_append, List.foldl_cons,
      List.foldl_nil, EventRow.advance, List.getLast?_concat]
    by_cases hdiagnosed : row.event.eventType = "RecoveryDiagnosed"
    · have hbehind := checkpoint_lt hlast hbelow
      rw [if_pos hdiagnosed]
      exact iff_of_false hbehind.ne fun h => h row rfl hdiagnosed
    · rw [if_neg hdiagnosed]
      refine iff_of_true rfl fun row' hrow => ?_
      rwa [← Option.mem_some_iff.mp hrow]

/-- The tool accepts what it has rebuilt if every notification fits and the last event is not a
diagnosis. -/
theorem rebuild_succeeds_iff {notices : List Notice}
    (hids : (notices.map (·.eventID)).Nodup ∧ ∀ notice ∈ notices, Pg.varchar 100 notice.eventID = true)
    {deliveries : List (Notice × Time)} (hlive : Redelivered [] notices deliveries)
    {rows : List EventRow} (hlog : Logged (notices.map (·.told)) rows)
    (hascending : rows.Pairwise (·.eventID < ·.eventID)) (hpos : ∀ row ∈ rows, 0 < row.eventID)
    (clock : ℤ → Time) :
    let result := rebuild clock rows (deliveries.foldl Notice.deliver .empty)
    (result.1 = .ok () ∧ result.2.checkpoint.getD 0 = maxEventID rows) ↔
      (∀ notice ∈ notices, notice.told.fits = true) ∧
        ∀ row ∈ rows.getLast?, row.event.eventType ≠ "RecoveryDiagnosed" := by
  generalize hstart : deliveries.foldl Notice.deliver .empty = live
  intro result
  have hempty : ReadStore.Fits { live with projections := .empty, checkpoint := none } :=
    fun _ _ h => nomatch h
  by_cases hfits : ∀ notice ∈ notices, notice.told.fits = true
  · have hshown := hlive.shown ReadStore.empty_fits rfl hids.1 fun notice hmem =>
      ⟨hids.2 notice hmem, hfits notice hmem⟩
    rw [hstart] at hshown
    obtain ⟨store, hreplay, hshown', hcheckpoint⟩ := hlog.replayAll hempty
      (List.forall_mem_map.mpr hfits) clock
    have hresult : result = (verify live.projections store rows, store) := by
      simp only [result, rebuild, hreplay]
    rw [hresult, verify_ok (hshown'.trans hshown.symm), and_self, hcheckpoint,
      checkpoint_eq_iff hascending hpos]
    exact (and_iff_right hfits).symm
  · have hunfit : ∃ n ∈ notices.map (·.told), n.fits = false := by
      simpa using hfits
    obtain ⟨store, e, hreplay⟩ := hlog.replayAll_ends hempty hunfit clock
    have hresult : result = (.error "failed to process event during replay", store) := by
      simp only [result, rebuild, hreplay]
    rw [hresult]
    exact iff_of_false (fun h => nomatch h.1) fun h => hfits h.1

theorem rebuild_succeeds_iff_failed :
    let result := rebuild (fun _ => 5) [failedRow 1 "tx-1" 2]
      ([(failedNotice "1" "tx-1" 2, 1)].foldl Notice.deliver .empty)
    (result.1 = .ok () ∧ result.2.checkpoint.getD 0 = 1) ↔
      (∀ notice ∈ [failedNotice "1" "tx-1" 2], notice.told.fits = true) ∧
        ∀ row ∈ [failedRow 1 "tx-1" 2].getLast?, row.event.eventType ≠ "RecoveryDiagnosed" := by
  have hlive : Redelivered [] [failedNotice "1" "tx-1" 2] _ := .next _ 1 (.done _)
  exact rebuild_succeeds_iff (by decide) hlive (.recorded ⟨rfl, rfl, rfl⟩ .nil) (by simp) (by decide) _

/-- A payment failed and the failure was diagnosed: the tool ends with a mismatch. -/
theorem diagnosis_not_accepted :
    let rows := [failedRow 1 "tx-1" 2, ⟨2, "tx-1", "RecoveryDiagnosed", 1,
      Recovery.decisionJson "rec-1" ⟨.retry, "transient_failure"⟩ ⟨.network, .fin 0.95, "RULE"⟩, 0⟩]
    let deliveries := [(failedNotice "1" "tx-1" 2, 1)]
    Redelivered [] [failedNotice "1" "tx-1" 2] deliveries ∧
      Logged [(failedNotice "1" "tx-1" 2).told] rows ∧
      (rebuild (fun _ => 5) rows (deliveries.foldl Notice.deliver .empty)).1
        = .error "verification failed: checkpoint ID mismatch" :=
  ⟨.next _ 1 (.done _), .recorded ⟨rfl, rfl, rfl⟩ (.diagnosed rfl .nil), by rfl⟩

end OfflinePay.Projection
