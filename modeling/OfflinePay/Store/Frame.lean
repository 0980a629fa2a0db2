import OfflinePay.Store.Repository

/-!
# Statements that move no money

Next to the settlement steps the program writes many rows that only record what happened: failed
intents, audit, outbox and payment events, devices, recovery plans. `DB.Quiet` says what all of them
leave alone. It is a preorder, so `Tx.Keeps` carries it through a whole transaction body, and every
body that is built from the statements below is quiet. Reconciliation, which marks intents expired,
is only `DB.Calm`.
-/

namespace OfflinePay

/-- The step from `db` to `db'` neither announces a settlement nor takes an announcement back. -/
structure DB.Unannounced (db db' : DB) : Prop where
  audit : ∀ e, e.eventType = "PaymentSettled" → (e ∈ db'.auditEvents ↔ e ∈ db.auditEvents)
  outbox : ∀ e, e.eventType = "PaymentSettled" → (e ∈ db'.outboxEvents ↔ e ∈ db.outboxEvents)
  payment : ∀ e, e.eventType = "IntentSettled" → (e ∈ db'.paymentEvents ↔ e ∈ db.paymentEvents)

/-- The step from `db` to `db'` touches no token, nonce, balance or ledger entry, keeps every
payment intent, settles none, and announces no settlement. -/
structure DB.Calm (db db' : DB) : Prop extends DB.Unannounced db db' where
  offlineTokens : db'.offlineTokens = db.offlineTokens
  nonceRegistry : db'.nonceRegistry = db.nonceRegistry
  accountBalances : db'.accountBalances = db.accountBalances
  ledgerEntries : db'.ledgerEntries = db.ledgerEntries
  nextEntryID : db'.nextEntryID = db.nextEntryID
  kept : ∀ txnID, db.paymentIntents.find? txnID ≠ none → db'.paymentIntents.find? txnID ≠ none
  settled : ∀ txnID row, db'.paymentIntents.find? txnID = some row → row.status = .settled →
    db.paymentIntents.find? txnID = some row

/-- A calm step that also leaves every payment intent as it is. -/
structure DB.Quiet (db db' : DB) : Prop extends DB.Calm db db' where
  rows : ∀ txnID row, db.paymentIntents.find? txnID = some row →
    db'.paymentIntents.find? txnID = some row

namespace DB.Unannounced

theorem refl (db : DB) : db.Unannounced db := ⟨fun _ _ => .rfl, fun _ _ => .rfl, fun _ _ => .rfl⟩

theorem of_eq {db db' : DB} (ha : db'.auditEvents = db.auditEvents)
    (ho : db'.outboxEvents = db.outboxEvents) (hp : db'.paymentEvents = db.paymentEvents) :
    db.Unannounced db' where
  audit _ _ := by rw [ha]
  outbox _ _ := by rw [ho]
  payment _ _ := by rw [hp]

/-- One more event of a type other than `t` in a list of events. -/
theorem mem_append_ne {α : Type} {f : α → String} {t : String} {new : α} (h : f new ≠ t)
    (events : List α) (e : α) (he : f e = t) : e ∈ events ++ [new] ↔ e ∈ events := by
  rw [List.mem_append, List.mem_singleton, or_iff_left]
  rintro rfl
  exact h he

/-- One more outbox event of another type. -/
theorem of_outbox {db db' : DB} {event : OutboxEvent} (ha : db'.auditEvents = db.auditEvents)
    (ho : db'.outboxEvents = db.outboxEvents ++ [event]) (hp : db'.paymentEvents = db.paymentEvents)
    (ht : event.eventType ≠ "PaymentSettled") : db.Unannounced db' where
  audit _ _ := by rw [ha]
  outbox e he := by rw [ho, mem_append_ne ht _ e he]
  payment _ _ := by rw [hp]

theorem trans {a b c : DB} (hab : a.Unannounced b) (hbc : b.Unannounced c) : a.Unannounced c where
  audit e he := (hbc.audit e he).trans (hab.audit e he)
  outbox e he := (hbc.outbox e he).trans (hab.outbox e he)
  payment e he := (hbc.payment e he).trans (hab.payment e he)

end DB.Unannounced

namespace DB.Quiet

theorem refl (db : DB) : db.Quiet db where
  toUnannounced := .refl db
  offlineTokens := rfl
  nonceRegistry := rfl
  accountBalances := rfl
  ledgerEntries := rfl
  nextEntryID := rfl
  kept _ h := h
  settled _ _ h _ := h
  rows _ _ h := h

theorem trans {a b c : DB} (hab : a.Quiet b) (hbc : b.Quiet c) : a.Quiet c where
  toUnannounced := hab.toUnannounced.trans hbc.toUnannounced
  offlineTokens := hbc.offlineTokens.trans hab.offlineTokens
  nonceRegistry := hbc.nonceRegistry.trans hab.nonceRegistry
  accountBalances := hbc.accountBalances.trans hab.accountBalances
  ledgerEntries := hbc.ledgerEntries.trans hab.ledgerEntries
  nextEntryID := hbc.nextEntryID.trans hab.nextEntryID
  kept txnID h := hbc.kept txnID (hab.kept txnID h)
  settled txnID row h hs := hab.settled txnID row (hbc.settled txnID row h hs) hs
  rows txnID row h := hbc.rows txnID row (hab.rows txnID row h)

instance : IsPreorder DB DB.Quiet where
  refl := refl
  trans _ _ _ := trans

end DB.Quiet

/-! ## What each statement writes

A relation that does not look at the tables a statement writes is kept by the statement. -/

namespace Repository

open Tx

section Writes

variable {R : DB → DB → Prop}

section Devices

variable (hR : ∀ db devices, R db { db with devices })

include hR

theorem keeps_createDevice (dev : Device) : Keeps R (createDevice dev) := by
  intro db u db' h
  obtain ⟨-, -, rfl⟩ := createDevice_ok.mp h
  exact hR db _

theorem keeps_updateDeviceStatus (deviceID : String) (status : DeviceStatus) (now : Time) :
    Keeps R (updateDeviceStatus deviceID status now) := by
  refine keeps_write fun db => ?_
  cases db.devices.find? deviceID with
  | none => exact hR db db.devices
  | some dev => exact hR db _

end Devices

theorem keeps_createDeviceAttestation [IsPreorder DB R]
    (hR : ∀ db deviceAttestations, R db { db with deviceAttestations }) (att : DeviceAttestation) :
    Keeps R (createDeviceAttestation att) :=
  keeps_bind (keeps_check _ _) fun _ => keeps_bind (keeps_view _) fun _ =>
    keeps_bind (keeps_check _ _) fun _ => keeps_write fun db => hR db _

section Intents

variable (hR : ∀ db paymentIntents, R db { db with paymentIntents })

include hR

theorem keeps_createPaymentIntent (intent : PaymentIntent) :
    Keeps R (createPaymentIntent intent) := by
  intro db u db' h
  obtain ⟨-, -, -, -, rfl⟩ := createPaymentIntent_ok.mp h
  exact hR db _

theorem keeps_updatePaymentIntentStatus (txnID : String) (status : PaymentStatus)
    (reason : Option String) (now : Time) :
    Keeps R (updatePaymentIntentStatus txnID status reason now) := by
  refine keeps_write fun db => ?_
  cases db.paymentIntents.find? txnID with
  | none => exact hR db db.paymentIntents
  | some intent => exact hR db _

theorem keeps_deletePaymentIntent (txnID : String) : Keeps R (deletePaymentIntent txnID) := by
  intro db u db' h
  obtain ⟨-, rfl⟩ := deletePaymentIntent_ok.mp h
  exact hR db _

end Intents

section Nonces

variable (hR : ∀ db nonceRegistry, R db { db with nonceRegistry })

include hR

theorem keeps_registerNonce (nonce txnID : String) (expiry : Time) :
    Keeps R (registerNonce nonce txnID expiry) := by
  intro db u db' h
  obtain ⟨-, -, -, rfl⟩ := registerNonce_ok.mp h
  exact hR db _

theorem keeps_deleteNonce (nonce : String) : Keeps R (deleteNonce nonce) :=
  keeps_write fun db => hR db _

end Nonces

theorem keeps_updateToken (hR : ∀ db offlineTokens, R db { db with offlineTokens })
    (target : TokenStatus) (update : OfflineToken → OfflineToken) (tokenID : String) :
    Keeps R (updateToken target update tokenID) := by
  intro db u db' h
  obtain ⟨_, -, -, rfl⟩ := updateToken_ok.mp h
  exact hR db _

section Balances

variable (hR : ∀ db accountBalances, R db { db with accountBalances })

include hR

theorem keeps_createAccount (accountID : String) (initialBalance : Int64) (now : Time) :
    Keeps R (createAccount accountID initialBalance now) := by
  intro db u db' h
  obtain ⟨-, -, rfl⟩ := createAccount_ok.mp h
  exact hR db _

theorem keeps_updateBalance (accountID : String) (available reserved : Int64) (now : Time) :
    Keeps R (updateBalance accountID available reserved now) := by
  intro db u db' h
  by_cases hrow : db.accountBalances.find? accountID = none
  · rw [updateBalance, hrow] at h
    obtain ⟨-, rfl⟩ := Prod.mk.inj (Except.ok.inj h)
    exact hR db db.accountBalances
  · obtain ⟨_, _, rfl⟩ := (updateBalance_ok hrow).mp h
    exact hR db _

end Balances

section Ledger

variable (hR : ∀ db ledgerEntries nextEntryID, R db { db with ledgerEntries, nextEntryID })

include hR

theorem keeps_createLedgerEntry (txnID accountID : String) (direction : Direction) (amount : Int64)
    (entryType : EntryType) (balanceAfter : Int64) :
    Keeps R (createLedgerEntry txnID accountID direction amount entryType balanceAfter) := by
  intro db u db' h
  obtain ⟨-, -, -, _, rfl⟩ := createLedgerEntry_ok.mp h
  exact hR db _ _

theorem keeps_deleteLedgerEntries (txnID reservationID : String) :
    Keeps R (deleteLedgerEntries txnID reservationID) :=
  keeps_write fun db => hR db _ db.nextEntryID

end Ledger

theorem keeps_createAuditEvent (hR : ∀ db auditEvents, R db { db with auditEvents })
    (txnID eventType : String) (payload : Json) :
    Keeps R (createAuditEvent txnID eventType payload) := by
  intro db u db' h
  obtain ⟨-, rfl⟩ := createAuditEvent_ok.mp h
  exact hR db _

theorem keeps_createOutboxEvent
    (hR : ∀ db outboxEvents nextOutboxID, R db { db with outboxEvents, nextOutboxID })
    (streamName eventType : String) (payload : Json) :
    Keeps R (createOutboxEvent streamName eventType payload) :=
  keeps_write fun db => hR db _ _

theorem keeps_createPaymentEvent (hR : ∀ db paymentEvents, R db { db with paymentEvents })
    (txnID eventType : String) (eventVersion : ℕ) (payload : Json) (now : Time) :
    Keeps R (createPaymentEvent txnID eventType eventVersion payload now) := by
  intro db u db' h
  obtain ⟨-, -, rfl⟩ := createPaymentEvent_ok.mp h
  exact hR db _

end Writes

/-! ## Quiet statements -/

theorem createDevice_quiet (dev : Device) : Keeps DB.Quiet (createDevice dev) :=
  keeps_createDevice (fun db _ => { DB.Quiet.refl db with }) dev

theorem updateDeviceStatus_quiet (deviceID : String) (status : DeviceStatus) (now : Time) :
    Keeps DB.Quiet (updateDeviceStatus deviceID status now) :=
  keeps_updateDeviceStatus (fun db _ => { DB.Quiet.refl db with }) deviceID status now

theorem createDeviceAttestation_quiet (att : DeviceAttestation) :
    Keeps DB.Quiet (createDeviceAttestation att) :=
  keeps_createDeviceAttestation (fun db _ => { DB.Quiet.refl db with }) att

/-- Creating an intent is quiet unless it is created as settled. -/
theorem createPaymentIntent_quiet {intent : PaymentIntent} (hs : intent.status ≠ .settled) :
    Keeps DB.Quiet (createPaymentIntent intent) := by
  intro db u db' h
  obtain ⟨-, hfree, -, -, rfl⟩ := createPaymentIntent_ok.mp h
  have hfind := Table.find?_insert (r := intent.stored) hfree
  refine { DB.Quiet.refl db with
    kept := fun txnID hrow => ?_, settled := fun txnID row hrow hr => ?_,
    rows := fun txnID row hrow => Table.find?_insert_of_find? hrow }
  · rw [hfind]
    by_cases ht : intent.stored.txnID = txnID
    · simp [ht]
    · simpa [ht] using hrow
  · rw [hfind] at hrow
    by_cases ht : intent.stored.txnID = txnID
    · rw [if_pos ht, Option.some.injEq] at hrow
      subst hrow
      exact absurd hr hs
    · rwa [if_neg ht] at hrow

/-- Expiring an intent is calm, and leaves the other intents as they are. -/
theorem updatePaymentIntentStatus_expired_calm {txnID : String} {reason : Option String}
    {now : Time} {db db' : DB}
    (h : updatePaymentIntentStatus txnID .expired reason now db = .ok ((), db')) :
    db.Calm db' ∧ ∀ t ≠ txnID, db'.paymentIntents.find? t = db.paymentIntents.find? t := by
  rw [updatePaymentIntentStatus, write_ok] at h
  subst h
  cases hrow : db.paymentIntents.find? txnID with
  | none => exact ⟨(DB.Quiet.refl db).toCalm, fun _ _ => rfl⟩
  | some intent =>
    have hkey : intent.txnID = txnID := Table.key_of_find? hrow
    refine ⟨{ (DB.Quiet.refl db).toCalm with
      kept := fun t ht => ?_, settled := fun t row ht hr => ?_ }, fun t ht => ?_⟩
    · rw [Table.find?_set]
      split <;> simpa using ht
    · rw [Table.find?_set] at ht
      split at ht
      · obtain ⟨_, -, rfl⟩ := Option.map_eq_some_iff.mp ht
        simp at hr
      · exact ht
    · rw [Table.find?_set_ne]
      rw [withStatus_txnID, hkey]
      exact Ne.symm ht

theorem createAuditEvent_quiet {eventType : String} (ht : eventType ≠ "PaymentSettled")
    (txnID : String) (payload : Json) :
    Keeps DB.Quiet (createAuditEvent txnID eventType payload) := by
  refine keeps_bind (keeps_check _ _) fun _ => keeps_write fun db => ?_
  exact { DB.Quiet.refl db with
    audit := fun e he => DB.Unannounced.mem_append_ne ht _ e he }

theorem createOutboxEvent_quiet {eventType : String} (ht : eventType ≠ "PaymentSettled")
    (streamName : String) (payload : Json) :
    Keeps DB.Quiet (createOutboxEvent streamName eventType payload) := by
  refine keeps_write fun db => ?_
  exact { DB.Quiet.refl db with toUnannounced := .of_outbox rfl rfl rfl ht }

theorem createPaymentEvent_quiet {eventType : String} (ht : eventType ≠ "IntentSettled")
    (txnID : String) (eventVersion : ℕ) (payload : Json) (now : Time) :
    Keeps DB.Quiet (createPaymentEvent txnID eventType eventVersion payload now) := by
  refine keeps_bind (keeps_check _ _) fun _ => keeps_bind (keeps_view _) fun _ =>
    keeps_bind (keeps_check _ _) fun _ => keeps_write fun db => ?_
  exact { DB.Quiet.refl db with
    payment := fun e he => DB.Unannounced.mem_append_ne ht _ e he }

end Repository

/-! ## Relations that every statement of a settlement keeps -/

namespace Repository

open Tx

/-- The relation is kept by every statement that a settlement makes through the repository. -/
structure Statements (R : DB → DB → Prop) : Prop where
  createPaymentIntent : ∀ intent, Keeps R (createPaymentIntent intent)
  updatePaymentIntentStatus : ∀ txnID status reason now,
    Keeps R (updatePaymentIntentStatus txnID status reason now)
  deletePaymentIntent : ∀ txnID, Keeps R (deletePaymentIntent txnID)
  registerNonce : ∀ nonce txnID expiry, Keeps R (registerNonce nonce txnID expiry)
  deleteNonce : ∀ nonce, Keeps R (deleteNonce nonce)
  updateToken : ∀ target update tokenID, Keeps R (updateToken target update tokenID)
  updateBalance : ∀ accountID available reserved now,
    Keeps R (updateBalance accountID available reserved now)
  createLedgerEntry : ∀ txnID accountID direction amount entryType balanceAfter,
    Keeps R (createLedgerEntry txnID accountID direction amount entryType balanceAfter)
  deleteLedgerEntries : ∀ txnID reservationID, Keeps R (deleteLedgerEntries txnID reservationID)
  createAuditEvent : ∀ txnID eventType payload, Keeps R (createAuditEvent txnID eventType payload)
  createOutboxEvent : ∀ streamName eventType payload,
    Keeps R (createOutboxEvent streamName eventType payload)
  createPaymentEvent : ∀ txnID eventType eventVersion payload now,
    Keeps R (createPaymentEvent txnID eventType eventVersion payload now)

theorem Statements.mono {R R' : DB → DB → Prop} (hsub : ∀ db db', R db db' → R' db db')
    (hR : Statements R) : Statements R' where
  createPaymentIntent intent := (hR.createPaymentIntent intent).mono hsub
  updatePaymentIntentStatus txnID status reason now :=
    (hR.updatePaymentIntentStatus txnID status reason now).mono hsub
  deletePaymentIntent txnID := (hR.deletePaymentIntent txnID).mono hsub
  registerNonce nonce txnID expiry := (hR.registerNonce nonce txnID expiry).mono hsub
  deleteNonce nonce := (hR.deleteNonce nonce).mono hsub
  updateToken target update tokenID := (hR.updateToken target update tokenID).mono hsub
  updateBalance accountID available reserved now :=
    (hR.updateBalance accountID available reserved now).mono hsub
  createLedgerEntry txnID accountID direction amount entryType balanceAfter :=
    (hR.createLedgerEntry txnID accountID direction amount entryType balanceAfter).mono hsub
  deleteLedgerEntries txnID reservationID := (hR.deleteLedgerEntries txnID reservationID).mono hsub
  createAuditEvent txnID eventType payload :=
    (hR.createAuditEvent txnID eventType payload).mono hsub
  createOutboxEvent streamName eventType payload :=
    (hR.createOutboxEvent streamName eventType payload).mono hsub
  createPaymentEvent txnID eventType eventVersion payload now :=
    (hR.createPaymentEvent txnID eventType eventVersion payload now).mono hsub

/-- The kinds of intents, statuses, payment events, outbox events and devices that a program writes.
-/
structure Kinds where
  intent : PaymentIntent → Prop := fun _ => True
  status : PaymentStatus → Prop := fun _ => True
  event : (eventType : String) → (eventVersion : ℕ) → Prop := fun _ _ => True
  outbox : (streamName eventType : String) → Json → Prop := fun _ _ _ => True
  device : Device → Prop := fun _ => True

/-- The same for a relation that only writes of the kinds `K` keep. -/
structure StatementsFor (K : Kinds) (R : DB → DB → Prop) : Prop where
  createPaymentIntent : ∀ intent, K.intent intent → Keeps R (createPaymentIntent intent)
  updatePaymentIntentStatus : ∀ txnID status reason now, K.status status →
    Keeps R (updatePaymentIntentStatus txnID status reason now)
  deletePaymentIntent : ∀ txnID, Keeps R (deletePaymentIntent txnID)
  registerNonce : ∀ nonce txnID expiry, Keeps R (registerNonce nonce txnID expiry)
  deleteNonce : ∀ nonce, Keeps R (deleteNonce nonce)
  updateToken : ∀ target update tokenID, Keeps R (updateToken target update tokenID)
  updateBalance : ∀ accountID available reserved now,
    Keeps R (updateBalance accountID available reserved now)
  createLedgerEntry : ∀ txnID accountID direction amount entryType balanceAfter,
    Keeps R (createLedgerEntry txnID accountID direction amount entryType balanceAfter)
  deleteLedgerEntries : ∀ txnID reservationID, Keeps R (deleteLedgerEntries txnID reservationID)
  createAuditEvent : ∀ txnID eventType payload, Keeps R (createAuditEvent txnID eventType payload)
  createOutboxEvent : ∀ streamName eventType payload, K.outbox streamName eventType payload →
    Keeps R (createOutboxEvent streamName eventType payload)
  createPaymentEvent : ∀ txnID eventType eventVersion payload now, K.event eventType eventVersion →
    Keeps R (createPaymentEvent txnID eventType eventVersion payload now)

theorem Statements.toFor {R : DB → DB → Prop} (hR : Statements R) (K : Kinds) : StatementsFor K R :=
  { hR with
    createPaymentIntent := fun intent _ => hR.createPaymentIntent intent
    updatePaymentIntentStatus := fun txnID status reason now _ =>
      hR.updatePaymentIntentStatus txnID status reason now
    createOutboxEvent := fun streamName eventType payload _ =>
      hR.createOutboxEvent streamName eventType payload
    createPaymentEvent := fun txnID eventType eventVersion payload now _ =>
      hR.createPaymentEvent txnID eventType eventVersion payload now }

end Repository

/-- The step from `db` to `db'` touches no device. -/
def DB.SameDevices (db db' : DB) : Prop := db'.devices = db.devices

instance : IsPreorder DB DB.SameDevices where
  refl _ := rfl
  trans _ _ _ hab hbc := Eq.trans hbc hab

namespace Repository

open Tx

/-- No statement of a settlement touches a device. -/
theorem sameDevices : Statements DB.SameDevices where
  createPaymentIntent := keeps_createPaymentIntent fun _ _ => rfl
  updatePaymentIntentStatus := keeps_updatePaymentIntentStatus fun _ _ => rfl
  deletePaymentIntent := keeps_deletePaymentIntent fun _ _ => rfl
  registerNonce := keeps_registerNonce fun _ _ => rfl
  deleteNonce := keeps_deleteNonce fun _ _ => rfl
  updateToken := keeps_updateToken fun _ _ => rfl
  updateBalance := keeps_updateBalance fun _ _ => rfl
  createLedgerEntry := keeps_createLedgerEntry fun _ _ _ => rfl
  deleteLedgerEntries := keeps_deleteLedgerEntries fun _ _ _ => rfl
  createAuditEvent := keeps_createAuditEvent fun _ _ => rfl
  createOutboxEvent := keeps_createOutboxEvent fun _ _ _ => rfl
  createPaymentEvent := keeps_createPaymentEvent fun _ _ => rfl

end Repository

end OfflinePay
