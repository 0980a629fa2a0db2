import OfflinePay.Eventsource.Manager
import OfflinePay.System.Records

/-!
# Payments and their event histories

The settlement service writes three types of payment events, all with version 1, and `IntentCreated`
is none of them. So no history of its has a snapshot, and what `Replay` makes of one has no id, no
parties and no amount. It can only agree with a row that has none either.
-/

namespace OfflinePay

open Tx Repository Settlement Eventsource

/-! ## No snapshots -/

/-- `SaveEventAndSnapshot` as the settlement service calls it: the event and no snapshot. -/
theorem Eventsource.save_version_one (codec : Codec) {txnID eventType : String} {payload : Json}
    {aggregate : Option Aggregate} {now : Time} {store store' : EventStore}
    (h : (newEventSourceManager codec 5).saveEventAndSnapshot txnID eventType 1 payload aggregate now store
      = .ok ((), store')) :
    createPaymentEvent txnID eventType 1 payload now store.db = .ok ((), store'.db) ∧
      store'.snapshots = store.snapshots := by
  obtain ⟨_, store₁, hevent, hsnap⟩ := bind_ok.mp h
  simp only [mapError_ok, bind_ok, check_ok, onDB_ok] at hevent
  obtain ⟨_, _, ⟨-, rfl⟩, _, _, ⟨-, rfl⟩, db, hcreate, rfl⟩ := hevent
  have hskip : ¬1 % (newEventSourceManager codec 5).snapshotInterval = 0 := by
    simp [newEventSourceManager]
  obtain rfl : { store with db := db } = store' := by
    cases aggregate with
    | none => exact (pure_ok.mp hsnap).2
    | some aggregate =>
      simp only [EventSourceManager.saveSnapshot, if_neg hskip] at hsnap
      exact (pure_ok.mp hsnap).2
  exact ⟨hcreate, rfl⟩

variable {E : Externals}

/-- The event store of the system. -/
def World.eventStore (w : World E) : EventStore := ⟨w.db, Table.empty⟩

/-! ## What the events say -/

/-- The aggregate agrees with the row on its id, parties, amount and status. -/
def Eventsource.Aggregate.Agrees (aggregate : Aggregate) (row : PaymentIntent) : Prop :=
  aggregate.txnID = row.txnID ∧ aggregate.senderID = row.senderID ∧
    aggregate.receiverID = row.receiverID ∧ aggregate.amount = row.amount ∧
    aggregate.status = some row.status

instance (aggregate : Aggregate) (row : PaymentIntent) : Decidable (aggregate.Agrees row) :=
  inferInstanceAs (Decidable (_ ∧ _ ∧ _ ∧ _ ∧ _))

/-- The outcome that an event of the settlement service stands for. -/
def Eventsource.outcome? (ev : PaymentEvent) : Option PaymentStatus :=
  if ev.eventType = "IntentSettled" then some .settled
  else if ev.eventType = "IntentFailed" then some .failed
  else none

/-- The last outcome in a history. -/
def Eventsource.lastOutcome (events : List PaymentEvent) : Option PaymentStatus :=
  events.reverse.findSome? outcome?

/-- An event of the settlement service leaves all but the status and the time fields alone. -/
theorem Eventsource.applyEvent_written (codec : Codec) (intent : Aggregate) {ev : PaymentEvent}
    (hev : ev.eventType ∈ eventTypes) :
    ∃ intent', applyEvent codec intent ev = .ok intent' ∧ intent'.txnID = intent.txnID ∧
      intent'.senderID = intent.senderID ∧ intent'.receiverID = intent.receiverID ∧
      intent'.amount = intent.amount ∧ intent'.status = (outcome? ev).or intent.status := by
  obtain ⟨txnID, eventType, version, payload, now⟩ := ev
  simp only [eventTypes, List.mem_cons, List.not_mem_nil, or_false] at hev
  rcases hev with rfl | rfl | rfl
  · exact ⟨_, rfl, rfl, rfl, rfl, rfl, rfl⟩
  · exact ⟨_, rfl, rfl, rfl, rfl, rfl, rfl⟩
  · exact ⟨_, rfl, rfl, rfl, rfl, rfl, rfl⟩

/-- So does a history. -/
theorem Eventsource.applyAfter_written (esm : EventSourceManager) (intent : Aggregate)
    {events : List PaymentEvent}
    (hevents : ∀ ev ∈ events, ev.eventType ∈ eventTypes ∧ ev.eventVersion = 1) :
    ∃ intent', esm.applyAfter 0 intent events = .ok intent' ∧ intent'.txnID = intent.txnID ∧
      intent'.senderID = intent.senderID ∧ intent'.receiverID = intent.receiverID ∧
      intent'.amount = intent.amount ∧ intent'.status = (lastOutcome events).or intent.status := by
  induction events generalizing intent with
  | nil => exact ⟨intent, rfl, rfl, rfl, rfl, rfl, rfl⟩
  | cons ev events ih =>
    obtain ⟨htype, hversion⟩ := hevents ev List.mem_cons_self
    obtain ⟨first, hfirst, htxn, hsender, hreceiver, hamount, hstatus⟩ :=
      applyEvent_written esm.codec intent htype
    obtain ⟨last, hlast, htxn', hsender', hreceiver', hamount', hstatus'⟩ :=
      ih first fun ev' hev' => hevents ev' (List.mem_cons_of_mem ev hev')
    refine ⟨last, ?_, htxn'.trans htxn, hsender'.trans hsender, hreceiver'.trans hreceiver,
      hamount'.trans hamount, ?_⟩
    · rw [EventSourceManager.applyAfter, List.foldlM_cons, if_neg (by omega), hfirst]
      exact hlast
    · rw [hstatus', hstatus, lastOutcome, lastOutcome, List.reverse_cons, List.findSome?_append,
        List.findSome?_singleton, Option.or_assoc]

/-- A row of `payment_intents` is what `Replay` makes of its history if and only if it has neither
id nor parties nor amount, and its status is the last outcome in the history. -/
theorem hydrates_iff (codec : Codec) {w : World E} (hw : Reached w) (row : PaymentIntent) :
    (∃ aggregate, (newEventSourceManager codec 5).replay row.txnID {} w.eventStore = .ok aggregate ∧
        aggregate.Agrees row) ↔
      row.txnID = "" ∧ row.senderID = "" ∧ row.receiverID = "" ∧ row.amount = 0 ∧
        lastOutcome (getPaymentEvents w.db row.txnID) = some row.status := by
  have hevents : ∀ ev ∈ getPaymentEvents w.db row.txnID,
      ev.eventType ∈ eventTypes ∧ ev.eventVersion = 1 :=
    fun ev hev => hw.events ev (List.mem_of_mem_filter hev)
  obtain ⟨last, hlast, htxn, hsender, hreceiver, hamount, hstatus⟩ :=
    applyAfter_written (newEventSourceManager codec 5) {} hevents
  have hreplay : (newEventSourceManager codec 5).replay row.txnID {} w.eventStore
      = if last.txnID = "" ∧ (getPaymentEvents w.db row.txnID).length = 0 then .error .errNoRows
        else .ok last := by
    have hload : (newEventSourceManager codec 5).load (w.eventStore.snapshots.find? row.txnID)
        = .ok ({}, 0) := by
      rw [World.eventStore, Table.find?_empty]
      rfl
    simp only [EventSourceManager.replay, hload, bind, Except.bind]
    rw [show w.eventStore.db = w.db from rfl, hlast]
  rw [hreplay]
  constructor
  · rintro ⟨aggregate, hok, hagrees⟩
    split at hok
    · cases hok
    · obtain rfl := Except.ok.inj hok
      obtain ⟨htxn', hsender', hreceiver', hamount', hstatus'⟩ := hagrees
      refine ⟨htxn'.symm.trans htxn, hsender'.symm.trans hsender, hreceiver'.symm.trans hreceiver,
        hamount'.symm.trans hamount, ?_⟩
      rw [← hstatus', hstatus, Option.or_none]
  · rintro ⟨htxn', hsender', hreceiver', hamount', hstatus'⟩
    refine ⟨last, if_neg fun hempty => ?_, htxn.trans htxn'.symm, hsender.trans hsender'.symm,
      hreceiver.trans hreceiver'.symm, hamount.trans hamount'.symm, ?_⟩
    · rw [List.length_eq_zero_iff.mp hempty.2] at hstatus'
      cases hstatus'
    · rw [hstatus, hstatus', Option.some_or]

/-! ## A payment that settles -/

namespace Hydration

/-- `alice` pays 30 to `bob`. -/
def payment : String → Option SignedPaymentIntent
  | "pay" => some (PaymentIntentPayload.signedBy
      ⟨"T", "alice", "bob", 30, "USD", "N", 1000000000000, "phone", "K"⟩ "alice-key")
  | _ => none

/-- The payment has been settled. -/
def settled : World (.simple payment) := (World.start ()).exec
  (Label.setup ["K"] ++ [.startSettle ⟨"", "pay", "N", "", "T", ""⟩ 0] ++ Label.settles 0 10)

/-- An encoding that the events of the settlement service do not need. -/
def unused : Codec where
  unmarshalPayload _ := .error ⟨"unexpected end of JSON input", false⟩
  floatToInt := Rat.floor
  marshal _ := .error ⟨"json: unsupported value", false⟩
  unmarshal _ := .error ⟨"unexpected end of JSON input", false⟩

theorem settled_reached : Reached settled :=
  (Reached.initial (World.start_initial (E := .simple payment) ())).exec _

/-- The row says `SETTLED`, and the event store has no aggregate that agrees with it. -/
theorem settled_not_hydrated : ∃ row, settled.db.paymentIntents.find? "T" = some row ∧
    row.status = .settled ∧
      ¬∃ aggregate, (newEventSourceManager unused 5).replay row.txnID {} settled.eventStore
        = .ok aggregate ∧ aggregate.Agrees row := by
  have hstatus : (settled.db.paymentIntents.find? "T").map (·.status) = some .settled := by
    decide +kernel
  have hid : ((newEventSourceManager unused 5).replay "T" {} settled.eventStore).toOption.map (·.txnID)
      = some "" := by decide +kernel
  obtain ⟨row, hrow, hsettled⟩ := Option.map_eq_some_iff.mp hstatus
  have hkey : row.txnID = "T" := Table.key_of_find? hrow
  refine ⟨row, hrow, hsettled, ?_⟩
  rintro ⟨aggregate, hreplay, hagrees⟩
  rw [hkey] at hreplay
  rw [hreplay] at hid
  have hempty : aggregate.txnID = "" := Option.some.inj hid
  exact absurd (hempty.symm.trans (hagrees.1.trans hkey)) (by decide)

theorem hydrates_iff_settled : ∃ row, settled.db.paymentIntents.find? "T" = some row ∧
    ((∃ aggregate, (newEventSourceManager unused 5).replay row.txnID {} settled.eventStore
        = .ok aggregate ∧ aggregate.Agrees row) ↔
      row.txnID = "" ∧ row.senderID = "" ∧ row.receiverID = "" ∧ row.amount = 0 ∧
        lastOutcome (getPaymentEvents settled.db row.txnID) = some row.status) := by
  have hsome : (settled.db.paymentIntents.find? "T").isSome = true := by decide +kernel
  obtain ⟨row, hrow⟩ := Option.isSome_iff_exists.mp hsome
  exact ⟨row, hrow, hydrates_iff unused settled_reached row⟩

end Hydration

end OfflinePay
