import OfflinePay.Recovery.Scheduler
import OfflinePay.System.World

/-!
# What the program puts into the outbox

`Emitted` lists the outbox events of the program, emitter by emitter. In every state that the
program can reach, every row of `outbox_events` is one of them, and no two rows have the same id.
-/

namespace OfflinePay

open Tx Repository Settlement Recovery

/-- The outbox events that the program writes. -/
inductive Emitted : (streamName eventType : String) → Json → Prop where
  | settled (o : Order) (now : Time) :
      Emitted "payment.settled" "PaymentSettled" (o.settledJson now)
  | failed (env : EncryptedEnvelope) (hopCount : ℤ) (f : Failure) :
      Emitted "payment.failed" "PaymentFailed" (failedJson env hopCount f)
  | issued (tok : OfflineToken) : Emitted "token.issued" "TokenIssued" tok.json
  | released (tok : OfflineToken) :
      Emitted "token.expired" "TokenExpiredAndReleased" (World.releasedJson tok)
  | diagnosed (recoveryID : String) (d : Decision) (c : Classification) :
      Emitted "payment.recovery" "RecoveryDiagnosed" (decisionJson recoveryID d c)
  | retry (op : RecoveryOperation) (attempts : ℕ) :
      Emitted "payment.recovery" "RecoveryRetryRequested" (requestJson op attempts)
  | review (op : RecoveryOperation) (attempts : ℕ) :
      Emitted "payment.recovery" "RecoveryCompensationReviewRequested" (requestJson op attempts)

/-- The step from `db` to `db'` adds outbox events of the program, under the next ids, and nothing
else happens to the outbox. -/
def DB.Emits (db db' : DB) : Prop :=
  ∃ new : List OutboxEvent, db'.outboxEvents = db.outboxEvents ++ new ∧
    db'.nextOutboxID = db.nextOutboxID + new.length ∧
    new.map (·.eventID) = List.range' db.nextOutboxID new.length ∧
    ∀ e ∈ new, Emitted e.streamName e.eventType e.payload

namespace DB.Emits

variable {db db' : DB}

theorem of_eq (h : db'.outboxEvents = db.outboxEvents)
    (hnext : db'.nextOutboxID = db.nextOutboxID) :
    db.Emits db' :=
  ⟨[], by simp [h], by simp [hnext], rfl, by simp⟩

/-- One event is added. -/
theorem of_append {streamName eventType : String} {payload : Json}
    (h : db'.outboxEvents = db.outboxEvents
      ++ [⟨db.nextOutboxID, streamName, eventType, payload, false, .pending, 0⟩])
    (hnext : db'.nextOutboxID = db.nextOutboxID + 1) (hev : Emitted streamName eventType payload) :
    db.Emits db' :=
  ⟨_, h, hnext, rfl, by simpa using hev⟩

end DB.Emits

instance : IsPreorder DB DB.Emits where
  refl _ := .of_eq rfl rfl
  trans a b c := by
    rintro ⟨new, hout, hnext, hids, hnew⟩ ⟨new', hout', hnext', hids', hnew'⟩
    refine ⟨new ++ new', ?_, ?_, ?_, fun e he => ?_⟩
    · rw [hout', hout, List.append_assoc]
    · rw [hnext', hnext, List.length_append, Nat.add_assoc]
    · rw [List.map_append, hids, hids', hnext, List.length_append, ← List.range'_append_1]
    · rcases List.mem_append.mp he with he | he
      · exact hnew e he
      · exact hnew' e he

/-! ## Every statement -/

theorem Repository.emits : Repository.StatementsFor { outbox := Emitted } DB.Emits where
  createPaymentIntent intent _ := keeps_createPaymentIntent (fun _ _ => .of_eq rfl rfl) intent
  updatePaymentIntentStatus txnID status reason now _ :=
    keeps_updatePaymentIntentStatus (fun _ _ => .of_eq rfl rfl) txnID status reason now
  deletePaymentIntent := keeps_deletePaymentIntent fun _ _ => .of_eq rfl rfl
  registerNonce := keeps_registerNonce fun _ _ => .of_eq rfl rfl
  deleteNonce := keeps_deleteNonce fun _ _ => .of_eq rfl rfl
  updateToken := keeps_updateToken fun _ _ => .of_eq rfl rfl
  updateBalance := keeps_updateBalance fun _ _ => .of_eq rfl rfl
  createLedgerEntry := keeps_createLedgerEntry fun _ _ _ => .of_eq rfl rfl
  deleteLedgerEntries := keeps_deleteLedgerEntries fun _ _ _ => .of_eq rfl rfl
  createAuditEvent := keeps_createAuditEvent fun _ _ => .of_eq rfl rfl
  createOutboxEvent _ _ _ hev := keeps_write fun _ => .of_append rfl rfl hev
  createPaymentEvent txnID eventType eventVersion payload now _ :=
    keeps_createPaymentEvent (fun _ _ => .of_eq rfl rfl) txnID eventType eventVersion payload now

theorem Recovery.emits : Recovery.StatementsFor { outbox := Emitted } DB.Emits where
  toStatementsFor := Repository.emits
  insertFailure := keeps_insertFailure fun _ _ => .of_eq rfl rfl
  insertOperation := keeps_insertOperation fun _ _ => .of_eq rfl rfl
  diagnosed := .diagnosed
  diagnosedEvent := trivial

variable {E : Externals}

theorem World.emits : World.StatementsFor { outbox := Emitted } DB.Emits where
  toRecovery := Recovery.emits
  reservedIntent _ _ := trivial
  failedIntent _ _ _ _ := trivial
  settledStatus := trivial
  settledEvent := trivial
  failedEvent := trivial
  expiredStatus := trivial
  settled := .settled
  failed := .failed
  createDevice dev _ := keeps_createDevice (fun _ _ => .of_eq rfl rfl) dev
  updateDeviceStatus := keeps_updateDeviceStatus fun _ _ => .of_eq rfl rfl
  createDeviceAttestation := keeps_createDeviceAttestation fun _ _ => .of_eq rfl rfl
  createAccount := keeps_createAccount fun _ _ => .of_eq rfl rfl
  released := .released

theorem Token.issueToken_emits (ownerID : String) (value duration : Int64) (tokenID : String)
    (faults : Token.IssueFaults) (now : Time) (db : DB) :
    db.Emits (Token.issueToken E ownerID value duration tokenID faults now db).2 := by
  obtain ⟨devices, hdb⟩ | ⟨tok, deviceID, devices, accounts, entries, nextEntryID, -, hdb⟩ :=
    Token.issueToken_writes (E := E) ownerID value duration tokenID faults now db
  · rw [hdb]
    exact .of_eq rfl rfl
  · rw [hdb]
    exact .of_append rfl rfl (.issued tok)

/-- So does the recovery scheduler. -/
theorem Recovery.runOnce_emits (policy : Policy) (limit : ℤ) (locked : String → Bool) (now : Time) :
    Keeps DB.Emits (runOnce policy limit locked now) := by
  refine keeps_runOnce (fun _ _ => .of_eq rfl rfl) (fun op attempts => ?_) (fun op attempts => ?_)
    policy limit locked now
  · exact Repository.emits.createOutboxEvent _ _ _ (.review op attempts)
  · exact Repository.emits.createOutboxEvent _ _ _ (.retry op attempts)

/-! ## Every state of the program -/

/-- The states of the program: moves of the system and runs of the recovery scheduler, in any order.
-/
inductive Reached : World E → Prop where
  | initial {w : World E} (hw : w.Initial) : Reached w
  | step {w : World E} (hw : Reached w) (l : Label) : Reached (w.step l)
  | recover {w : World E} (hw : Reached w) (fault : Option GoError) (policy : Policy) (limit : ℤ)
      (locked : String → Bool) (now : Time) :
      Reached { w with db := (withTx fault (runOnce policy limit locked now) w.db).2 }

theorem Reached.exec {w : World E} (hw : Reached w) (ls : List Label) : Reached (w.exec ls) :=
  Run.exec_invariant (I := Reached) (fun _ l hw _ => hw.step l) hw (Run.steps_true w ls)

/-- The outbox of every state is written by the program, event by event. -/
structure DB.Outboxed (db : DB) : Prop where
  emitted : ∀ e ∈ db.outboxEvents, Emitted e.streamName e.eventType e.payload
  nodup : (db.outboxEvents.map (·.eventID)).Nodup
  lt : ∀ e ∈ db.outboxEvents, e.eventID < db.nextOutboxID

theorem DB.Emits.outboxed {db db' : DB} (h : db.Emits db') (hdb : db.Outboxed) : db'.Outboxed := by
  obtain ⟨new, hout, hnext, hids, hnew⟩ := h
  have hrange : ∀ e ∈ new, db.nextOutboxID ≤ e.eventID ∧
      e.eventID < db.nextOutboxID + new.length := by
    intro e he
    have hmem : e.eventID ∈ new.map (·.eventID) := List.mem_map_of_mem he
    rw [hids] at hmem
    simpa using List.mem_range'_1.mp hmem
  constructor
  · rw [hout]
    intro e he
    rcases List.mem_append.mp he with he | he
    · exact hdb.emitted e he
    · exact hnew e he
  · rw [hout, List.map_append, List.nodup_append, hids]
    refine ⟨hdb.nodup, List.nodup_range', fun id hid id' hid' => ?_⟩
    obtain ⟨e, he, rfl⟩ := List.mem_map.mp hid
    have hlt := hdb.lt e he
    have hle := (List.mem_range'_1.mp hid').1
    omega
  · rw [hout, hnext]
    intro e he
    rcases List.mem_append.mp he with he | he
    · exact (hdb.lt e he).trans_le (Nat.le_add_right _ _)
    · exact (hrange e he).2

theorem Reached.outboxed {w : World E} (hw : Reached w) : w.db.Outboxed := by
  induction hw with
  | initial hw => exact ⟨by simp [hw.outboxEvents], by simp [hw.outboxEvents], by simp [hw.outboxEvents]⟩
  | step _ l ih =>
    exact (World.step_keeps World.emits _ l (fun _ _ _ => trivial)
      fun ownerID value duration tokenID faults now _ =>
        Token.issueToken_emits ownerID value duration tokenID faults now _).outboxed ih
  | recover _ fault policy limit locked now ih =>
    exact (keeps_withTx (runOnce_emits policy limit locked now) fault _).outboxed ih

end OfflinePay
