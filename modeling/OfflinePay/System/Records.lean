import OfflinePay.Recovery.Workers
import OfflinePay.System.Emitters

/-!
# What the program records about payments

An intent refers to a token, and the failure records of `saveFailedIntent` refer to the token
`UNKNOWN`. Where there is no such token, only the other intents of the program get into
`payment_intents`. `payment_events` only grows, by the events of three emitters.

`DB.Records` says both of a step; the statements of the program keep it.
-/

namespace OfflinePay

open Tx Repository Settlement Recovery

/-- The types of the payment events that the program writes. -/
def eventTypes : List String := ["IntentSettled", "IntentFailed", "RecoveryDiagnosed"]

/-- In the step from `db` to `db'` no token `UNKNOWN` appears, rows that appear or change while
there is none have a status of the kind `S`, and `payment_events` gets events of the program. -/
structure DB.Records (S : PaymentStatus → Prop) (db db' : DB) : Prop where
  tokens : db.offlineTokens.find? "UNKNOWN" = none → db'.offlineTokens.find? "UNKNOWN" = none
  rows : db.offlineTokens.find? "UNKNOWN" = none → ∀ txnID row,
    db'.paymentIntents.find? txnID = some row →
    db.paymentIntents.find? txnID = some row ∨ S row.status
  events : ∃ new, db'.paymentEvents = db.paymentEvents ++ new ∧
    ∀ ev ∈ new, ev.eventType ∈ eventTypes ∧ ev.eventVersion = 1

variable {S : PaymentStatus → Prop} {db db' : DB}

namespace DB.Records

/-- A step that leaves the intents and the payment events alone. -/
theorem of_tokens (htokens : db.offlineTokens.find? "UNKNOWN" = none →
      db'.offlineTokens.find? "UNKNOWN" = none)
    (hintents : db'.paymentIntents = db.paymentIntents)
    (hevents : db'.paymentEvents = db.paymentEvents) : db.Records S db' where
  tokens := htokens
  rows _ _ _ hrow := .inl (hintents ▸ hrow)
  events := ⟨[], by simp [hevents], by simp⟩

/-- A step that leaves all three tables alone. -/
theorem of_eq (htokens : db'.offlineTokens = db.offlineTokens)
    (hintents : db'.paymentIntents = db.paymentIntents)
    (hevents : db'.paymentEvents = db.paymentEvents) : db.Records S db' :=
  of_tokens (fun h => htokens ▸ h) hintents hevents

/-- A step that only touches intents. -/
theorem of_rows (htokens : db'.offlineTokens = db.offlineTokens)
    (hrows : db.offlineTokens.find? "UNKNOWN" = none → ∀ txnID row,
      db'.paymentIntents.find? txnID = some row →
      db.paymentIntents.find? txnID = some row ∨ S row.status)
    (hevents : db'.paymentEvents = db.paymentEvents) : db.Records S db' where
  tokens h := htokens ▸ h
  rows := hrows
  events := ⟨[], by simp [hevents], by simp⟩

end DB.Records

instance : IsPreorder DB (DB.Records S) where
  refl _ := .of_eq rfl rfl rfl
  trans a b c hab hbc := by
    refine ⟨hbc.tokens ∘ hab.tokens, fun hnone txnID row hrow => ?_, ?_⟩
    · rcases hbc.rows (hab.tokens hnone) txnID row hrow with hrow | hstatus
      · exact hab.rows hnone txnID row hrow
      · exact .inr hstatus
    · obtain ⟨new, hev, hnew⟩ := hab.events
      obtain ⟨new', hev', hnew'⟩ := hbc.events
      refine ⟨new ++ new', by rw [hev', hev, List.append_assoc], fun ev h => ?_⟩
      exact (List.mem_append.mp h).elim (hnew ev) (hnew' ev)

/-! ## Every statement -/

/-- Intents of the statuses `S` and failure records, and the payment events of the program. -/
def recordKinds (S : PaymentStatus → Prop) : Kinds where
  intent intent := S intent.status ∨ intent.tokenID = "UNKNOWN"
  status := S
  event eventType eventVersion := eventType ∈ eventTypes ∧ eventVersion = 1

theorem Repository.records : Repository.StatementsFor (recordKinds S) (DB.Records S) where
  createPaymentIntent intent hkind db u db' h := by
    obtain ⟨-, hfree, -, htoken, rfl⟩ := createPaymentIntent_ok.mp h
    refine .of_rows rfl (fun hnone txnID row hrow => ?_) rfl
    have hfind := Table.find?_insert (r := intent.stored) hfree txnID
    rw [hfind] at hrow
    split at hrow
    · obtain rfl := Option.some.inj hrow
      -- the foreign key refuses a failure record
      exact .inr (hkind.resolve_right fun hunknown => htoken (hunknown ▸ hnone))
    · exact .inl hrow
  updatePaymentIntentStatus txnID status reason now hkind := by
    refine keeps_write fun db => ?_
    cases hfind : db.paymentIntents.find? txnID with
    | none => exact .of_eq rfl rfl rfl
    | some intent =>
      refine .of_rows rfl (fun _ id row hrow => ?_) rfl
      rw [Table.find?_set] at hrow
      split at hrow
      · obtain ⟨-, -, rfl⟩ := Option.map_eq_some_iff.mp hrow
        exact .inr ((withStatus_status intent status reason now).symm ▸ hkind)
      · exact .inl hrow
  deletePaymentIntent txnID db u db' h := by
    obtain ⟨-, rfl⟩ := deletePaymentIntent_ok.mp h
    refine .of_rows rfl (fun _ id row hrow => .inl ?_) rfl
    rw [Table.find?_erase] at hrow
    split at hrow
    · cases hrow
    · exact hrow
  registerNonce := keeps_registerNonce fun _ _ => .of_eq rfl rfl rfl
  deleteNonce := keeps_deleteNonce fun _ _ => .of_eq rfl rfl rfl
  updateToken target update tokenID db u db' h := by
    obtain ⟨_, -, -, rfl⟩ := updateToken_ok.mp h
    exact .of_tokens (Table.find?_set_eq_none _ _ _).mpr rfl rfl
  updateBalance := keeps_updateBalance fun _ _ => .of_eq rfl rfl rfl
  createLedgerEntry := keeps_createLedgerEntry fun _ _ _ => .of_eq rfl rfl rfl
  deleteLedgerEntries := keeps_deleteLedgerEntries fun _ _ _ => .of_eq rfl rfl rfl
  createAuditEvent := keeps_createAuditEvent fun _ _ => .of_eq rfl rfl rfl
  createOutboxEvent streamName eventType payload _ :=
    keeps_createOutboxEvent (fun _ _ _ => .of_eq rfl rfl rfl) streamName eventType payload
  createPaymentEvent txnID eventType eventVersion payload now hkind db u db' h := by
    obtain ⟨-, -, rfl⟩ := createPaymentEvent_ok.mp h
    exact ⟨id, fun _ _ _ hrow => .inl hrow, [_], rfl, by simpa using show eventType ∈ eventTypes ∧ _ from hkind⟩

theorem Recovery.records : Recovery.StatementsFor (recordKinds S) (DB.Records S) where
  toStatementsFor := Repository.records
  insertFailure := keeps_insertFailure fun _ _ => .of_eq rfl rfl rfl
  insertOperation := keeps_insertOperation fun _ _ => .of_eq rfl rfl rfl
  diagnosed _ _ _ := trivial
  diagnosedEvent := ⟨by decide, rfl⟩

/-- A settlement writes reserved and settled intents and failure records. -/
theorem Settlement.records (hreserved : S .reserved) (hsettled : S .settled) :
    Settlement.StatementsFor (recordKinds S) (DB.Records S) where
  toRecovery := Recovery.records
  reservedIntent _ _ := .inl hreserved
  failedIntent _ _ _ _ := .inr rfl
  settledStatus := hsettled
  settledEvent := ⟨by decide, rfl⟩
  failedEvent := ⟨by decide, rfl⟩
  settled _ _ := trivial
  failed _ _ _ := trivial

theorem World.records :
    World.StatementsFor (recordKinds fun _ => True) (DB.Records fun _ => True) where
  toSettlement := Settlement.records trivial trivial
  createDevice dev _ := keeps_createDevice (fun _ _ => .of_eq rfl rfl rfl) dev
  updateDeviceStatus := keeps_updateDeviceStatus fun _ _ => .of_eq rfl rfl rfl
  createDeviceAttestation := keeps_createDeviceAttestation fun _ _ => .of_eq rfl rfl rfl
  createAccount := keeps_createAccount fun _ _ => .of_eq rfl rfl rfl
  expiredStatus := trivial
  released _ := trivial

variable {E : Externals}

theorem Token.issueToken_records (ownerID : String) (value duration : Int64) (tokenID : String)
    (faults : Token.IssueFaults) (now : Time) (db : DB) :
    (Token.issueToken E ownerID value duration tokenID faults now db).2.paymentEvents
        = db.paymentEvents ∧
      (tokenID ≠ "UNKNOWN" →
        db.Records (fun _ => True) (Token.issueToken E ownerID value duration tokenID faults now db).2) := by
  obtain ⟨devices, hdb⟩ | ⟨tok, deviceID, devices, accounts, entries, nextEntryID, rfl, hdb⟩ :=
    Token.issueToken_writes (E := E) ownerID value duration tokenID faults now db
  · rw [hdb]
    exact ⟨rfl, fun _ => .of_eq rfl rfl rfl⟩
  · rw [hdb]
    refine ⟨rfl, fun hne => ⟨fun hnone => ?_, fun _ _ _ _ => .inr trivial, [], by simp, by simp⟩⟩
    have hkey : ({ tok with expiry := tok.expiry.timestamptz } : OfflineToken).tokenID ≠ "UNKNOWN" := hne
    exact (Table.find?_insert_ne db.offlineTokens hkey).trans hnone

theorem Recovery.runOnce_records (policy : Policy) (limit : ℤ) (locked : String → Bool)
    (now : Time) :
    Keeps (DB.Records S) (runOnce policy limit locked now) :=
  keeps_runOnce (fun _ _ => .of_eq rfl rfl rfl)
    (fun _ _ => Repository.records.createOutboxEvent _ _ _ trivial)
    (fun _ _ => Repository.records.createOutboxEvent _ _ _ trivial) policy limit locked now

/-! ## Every state of the program -/

/-- A move adds events of the program to `payment_events`. -/
theorem World.step_events (w : World E) (l : Label) :
    ∃ new, (w.step l).db.paymentEvents = w.db.paymentEvents ++ new ∧
      ∀ ev ∈ new, ev.eventType ∈ eventTypes ∧ ev.eventVersion = 1 := by
  cases l with
  | issueToken ownerID value duration tokenID faults now =>
    have hevents := (Token.issueToken_records (E := E) ownerID value duration tokenID faults now w.db).1
    refine ⟨[], ?_, by simp⟩
    simp only [World.step, World.issueToken]
    split <;> next h => rw [h] at hevents; exact hevents.trans (List.append_nil _).symm
  | _ => exact (World.step_keeps World.records w _ (fun _ _ _ => trivial) (by simp)).events

theorem Reached.events {w : World E} (hw : Reached w) :
    ∀ ev ∈ w.db.paymentEvents, ev.eventType ∈ eventTypes ∧ ev.eventVersion = 1 := by
  have hgrow : ∀ {db db' : DB}, (∃ new, db'.paymentEvents = db.paymentEvents ++ new ∧
      ∀ ev ∈ new, ev.eventType ∈ eventTypes ∧ ev.eventVersion = 1) →
      (∀ ev ∈ db.paymentEvents, ev.eventType ∈ eventTypes ∧ ev.eventVersion = 1) →
      ∀ ev ∈ db'.paymentEvents, ev.eventType ∈ eventTypes ∧ ev.eventVersion = 1 := by
    rintro db db' ⟨new, heq, hnew⟩ hold ev hev
    rw [heq] at hev
    exact (List.mem_append.mp hev).elim (hold ev) (hnew ev)
  induction hw with
  | initial hw => simp [hw.paymentEvents]
  | step _ l ih => exact hgrow (World.step_events _ l) ih
  | recover _ fault policy limit locked now ih =>
    exact hgrow (keeps_withTx (runOnce_records (S := fun _ => True) policy limit locked now)
      fault _).events ih

end OfflinePay
