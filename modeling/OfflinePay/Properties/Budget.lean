import OfflinePay.Recovery.Workers
import OfflinePay.System.World

/-!
# The recovery budget

`RecordFailure` compares the amount and the age of a failure with the policy, once. `RunOnce` emits
the retry requests later and looks at the number of attempts only. So a request is within the budget
as long as the scheduler gets to an operation in time, and the amount that was compared is that of
the payment: `Settle` takes it from the row that stands under the envelope's id, not from the signed
payload.

`Supervised` is the system with the recovery scheduler. Its list `noted` is not part of the program:
it records for every operation that a failed saga has planned the amount of the payment and the time
of the failure.
-/

namespace OfflinePay

open Tx Repository Settlement Recovery

/-! ## Operations stay -/

/-- The step from `db` to `db'` leaves every recovery operation as it is. -/
def DB.KeepsOperations (db db' : DB) : Prop :=
  ∀ recoveryID op, db.recoveryOperations.find? recoveryID = some op →
    db'.recoveryOperations.find? recoveryID = some op

theorem DB.KeepsOperations.of_eq {db db' : DB}
    (h : db'.recoveryOperations = db.recoveryOperations) :
    db.KeepsOperations db' := fun _ _ => by rw [h]; exact id

instance : IsPreorder DB DB.KeepsOperations where
  refl _ := fun _ _ => id
  trans _ _ _ hab hbc := fun recoveryID op h => hbc recoveryID op (hab recoveryID op h)

theorem Recovery.keepsOperations : Recovery.Statements DB.KeepsOperations where
  createPaymentIntent := keeps_createPaymentIntent fun _ _ => .of_eq rfl
  updatePaymentIntentStatus := keeps_updatePaymentIntentStatus fun _ _ => .of_eq rfl
  deletePaymentIntent := keeps_deletePaymentIntent fun _ _ => .of_eq rfl
  registerNonce := keeps_registerNonce fun _ _ => .of_eq rfl
  deleteNonce := keeps_deleteNonce fun _ _ => .of_eq rfl
  updateToken := keeps_updateToken fun _ _ => .of_eq rfl
  updateBalance := keeps_updateBalance fun _ _ => .of_eq rfl
  createLedgerEntry := keeps_createLedgerEntry fun _ _ _ => .of_eq rfl
  deleteLedgerEntries := keeps_deleteLedgerEntries fun _ _ _ => .of_eq rfl
  createAuditEvent := keeps_createAuditEvent fun _ _ => .of_eq rfl
  createOutboxEvent := keeps_createOutboxEvent fun _ _ _ => .of_eq rfl
  createPaymentEvent := keeps_createPaymentEvent fun _ _ => .of_eq rfl
  insertFailure := keeps_insertFailure fun _ _ => .of_eq rfl
  insertOperation op db fresh db' h := by
    obtain ⟨-, rfl⟩ | ⟨-, -, -, -, rfl⟩ := insertOperation_ok h
    · exact .of_eq rfl
    · exact fun recoveryID op' hop' => Table.find?_insert_of_find? hop'

variable {E : Externals}

theorem World.keepsOperations : World.Statements E DB.KeepsOperations where
  toRecovery := Recovery.keepsOperations
  createDevice := keeps_createDevice fun _ _ => .of_eq rfl
  updateDeviceStatus := keeps_updateDeviceStatus fun _ _ => .of_eq rfl
  createDeviceAttestation := keeps_createDeviceAttestation fun _ _ => .of_eq rfl
  createAccount := keeps_createAccount fun _ _ => .of_eq rfl
  issueToken ownerID value duration tokenID faults now db := by
    obtain ⟨devices, hdb⟩ | ⟨tok, deviceID, devices, accounts, entries, nextEntryID, -, hdb⟩ :=
      Token.issueToken_writes (E := E) ownerID value duration tokenID faults now db
    · rw [hdb]
      exact .of_eq rfl
    · rw [hdb]
      exact .of_eq rfl

/-- The scheduler keeps the action of an operation and schedules only what was scheduled. -/
def DB.RunsOperations (db db' : DB) : Prop :=
  ∀ recoveryID op, db.recoveryOperations.find? recoveryID = some op →
    ∃ op', db'.recoveryOperations.find? recoveryID = some op' ∧ op'.action = op.action ∧
      (op'.state = .scheduled → op.state = .scheduled)

instance : IsPreorder DB DB.RunsOperations where
  refl _ := fun _ op h => ⟨op, h, rfl, id⟩
  trans _ _ _ hab hbc := by
    intro recoveryID op h
    obtain ⟨op₁, h₁, haction₁, hstate₁⟩ := hab recoveryID op h
    obtain ⟨op₂, h₂, haction₂, hstate₂⟩ := hbc recoveryID op₁ h₁
    exact ⟨op₂, h₂, haction₂.trans haction₁, hstate₁ ∘ hstate₂⟩

/-! ## What `RunOnce` emits -/

/-- The operation that a request of `RunOnce` is for. -/
def requestedID (payload : Json) : Option String :=
  payload.members.bind fun fields => Json.stringField fields "recovery_id"

theorem requestedID_requestJson (op : RecoveryOperation) (attempts : ℕ) :
    requestedID (requestJson op attempts) = some op.recoveryID := by
  exact Json.stringField_eq (requestJson_member rfl (List.mem_cons_self ..))

/-- The operations for which a step from `db` to `db'` emits retry requests. -/
def retryRequests (db db' : DB) : List String :=
  (db'.outboxEvents.drop db.outboxEvents.length).filterMap fun ev =>
    if ev.eventType = "RecoveryRetryRequested" then requestedID ev.payload else none

/-- The step from `db` to `db'` adds requests for some operations to the outbox. -/
def DB.Requests (ops : List RecoveryOperation) (db db' : DB) : Prop :=
  ∃ new : List OutboxEvent, db'.outboxEvents = db.outboxEvents ++ new ∧
    ∀ ev ∈ new, ∃ op ∈ ops, ∃ attempts, ev.eventType = requestType op ∧
      ev.payload = requestJson op attempts

instance (ops : List RecoveryOperation) : IsPreorder DB (DB.Requests ops) where
  refl _ := ⟨[], by simp, by simp⟩
  trans a b c := by
    rintro ⟨new, hout, hnew⟩ ⟨new', hout', hnew'⟩
    refine ⟨new ++ new', by rw [hout', hout, List.append_assoc], fun ev hev => ?_⟩
    exact (List.mem_append.mp hev).elim (hnew ev) (hnew' ev)

theorem DB.Requests.of_retryRequests {ops : List RecoveryOperation} {db db' : DB}
    (h : DB.Requests ops db db') {recoveryID : String} (hid : recoveryID ∈ retryRequests db db') :
    ∃ op ∈ ops, op.recoveryID = recoveryID ∧ op.action ≠ .compensate := by
  obtain ⟨new, hout, hnew⟩ := h
  rw [retryRequests, hout, List.drop_left] at hid
  obtain ⟨ev, hev, hevent⟩ := List.mem_filterMap.mp hid
  obtain ⟨op, hop, attempts, htype, hpayload⟩ := hnew ev hev
  rw [htype, hpayload, requestedID_requestJson, requestType] at hevent
  refine ⟨op, hop, ?_⟩
  by_cases hreview : op.action = .compensate
  · simp [hreview] at hevent
  · simpa [hreview] using hevent

/-- A `RunOnce` emits requests for operations that are due, and schedules no other ones. -/
theorem Recovery.runOnce_requests (fault : Option GoError) (policy : Policy) (limit : ℤ)
    (locked : String → Bool) (now : Time) (db : DB) :
    DB.Requests (dueOperations limit locked now db) db
        (withTx fault (runOnce policy limit locked now) db).2 ∧
      db.RunsOperations (withTx fault (runOnce policy limit locked now) db).2 := by
  generalize htx : withTx fault (runOnce policy limit locked now) db = r
  obtain ⟨res, db'⟩ := r
  cases res with
  | error e =>
    obtain rfl := withTx_error htx
    exact ⟨Std.Refl.refl _, Std.Refl.refl _⟩
  | ok u =>
    obtain ⟨-, hok⟩ := withTx_ok.mp htx
    obtain ⟨ops, _, hview, hrun⟩ := bind_ok.mp hok
    obtain ⟨rfl, rfl⟩ := view_ok.mp hview
    obtain ⟨hnodup, hdue⟩ := dueOperations_spec limit locked now db
    constructor
    · refine forM_keeps (fun op hop db db' hrow hran => ?_) hnodup (fun op hop => (hdue op hop).1) hrun
      obtain ⟨-, rfl⟩ | ⟨-, rfl⟩ := hran
      · exact ⟨[], by simp, by simp⟩
      · exact ⟨_, rfl, by simpa using ⟨op, hop, rfl, _, rfl⟩⟩
    · refine forM_keeps (fun op hop db db' hrow hran recoveryID x hx => ?_) hnodup
        (fun op hop => (hdue op hop).1) hrun
      obtain ⟨op', hset, hid, -, haction, -⟩ := hran.set
      by_cases hkey : op.recoveryID = recoveryID
      · subst hkey
        obtain rfl : op = x := Option.some.inj ((Table.find?_of_mem hrow).symm.trans hx)
        refine ⟨op', ?_, haction, fun _ => (hdue op hop).2.1⟩
        rw [hset, ← hid]
        exact Table.find?_set_self (by rw [hid]; exact hx)
      · refine ⟨x, ?_, rfl, id⟩
        rw [hset, Table.find?_set_ne _ (hid ▸ hkey)]
        exact hx

/-! ## The system with its scheduler -/

/-- An operation that a failed saga has planned, with the amount of the signed payment and the time
of the failure. -/
structure Noted where
  recoveryID : String
  amount : Int64
  occurredAt : Time

variable (E) in
/-- The system and the operations that failed sagas have planned. -/
structure Supervised where
  world : World E
  noted : List Noted

/-- One move: of the system, or a `RunOnce`. -/
inductive Supervised.Label where
  | move (l : OfflinePay.Label)
  | runOnce (limit : ℤ) (locked : String → Bool) (now : Time) (fault : Option GoError)

/-- The failed payment that a call is about to record, and the row it has read for it. -/
def Settlement.SettleCall.recording? (call : SettleCall) : Option (Order × PaymentIntent) :=
  match call.pc, call.order with
  | .record _ current, some o => some (o, current)
  | _, _ => none

namespace Supervised

/-- The operation that a move plans for a failed saga, if any. -/
def noted? (w : World E) : OfflinePay.Label → Option Noted
  | .settle i input => (w.calls[i]?.bind SettleCall.recording?).bind fun (o, _) =>
      if w.db.recoveryOperations.find? input.recoveryID = none ∧
          (w.step (.settle i input)).db.recoveryOperations.find? input.recoveryID ≠ none then
        some ⟨input.recoveryID, o.payload.amount, input.now⟩
      else none
  | _ => none

/-- One move. -/
def step (s : Supervised E) : Label → Supervised E
  | .move l => ⟨s.world.step l, s.noted ++ (noted? s.world l).toList⟩
  | .runOnce limit locked now fault =>
    { s with
      world := { s.world with
        db := (withTx fault (runOnce defaultPolicy limit locked now) s.world.db).2 } }

/-- The retry requests that a `RunOnce` emits for failed payments are within the budget. -/
def InBudget (s : Supervised E) : Label → Prop
  | .move _ => True
  | .runOnce limit locked now fault => ∀ n ∈ s.noted,
      n.recoveryID ∈ retryRequests s.world.db
        (s.step (.runOnce limit locked now fault)).world.db →
      n.amount ≤ defaultPolicy.maxAmount ∧ now ≤ n.occurredAt + defaultPolicy.maxElapsed.toInt

instance (s : Supervised E) (l : Label) : Decidable (s.InBudget l) :=
  match l with
  | .move _ => inferInstanceAs (Decidable True)
  | .runOnce limit locked now fault => inferInstanceAs (Decidable (∀ n ∈ s.noted,
      n.recoveryID ∈ retryRequests s.world.db (s.step (.runOnce limit locked now fault)).world.db →
      n.amount ≤ defaultPolicy.maxAmount ∧ now ≤ n.occurredAt + defaultPolicy.maxElapsed.toInt))

/-- When a failure is recorded, the row under the envelope's id has the amount of the payment, or
that amount is within the limit anyway; and when the scheduler runs, no retry that is due for a
failed payment is older than the policy allows. -/
def Timely (s : Supervised E) : Label → Prop
  | .move (.settle i _) => ∀ x ∈ s.world.calls[i]?.bind SettleCall.recording?,
      x.2.amount = x.1.payload.amount ∨ x.1.payload.amount ≤ defaultPolicy.maxAmount
  | .move _ => True
  | .runOnce limit locked now _ => ∀ n ∈ s.noted, ∀ op ∈ dueOperations limit locked now s.world.db,
      op.recoveryID = n.recoveryID → op.action = .retry →
      now ≤ n.occurredAt + defaultPolicy.maxElapsed.toInt

instance (s : Supervised E) (l : Label) : Decidable (s.Timely l) :=
  match l with
  | .move (.settle i _) => inferInstanceAs (Decidable (∀ x ∈ s.world.calls[i]?.bind
      SettleCall.recording?, _ ∨ _))
  | .runOnce limit locked now _ => inferInstanceAs (Decidable (∀ n ∈ s.noted, ∀ op ∈ dueOperations
      limit locked now s.world.db, op.recoveryID = n.recoveryID → op.action = .retry →
      now ≤ n.occurredAt + defaultPolicy.maxElapsed.toInt))
  | .move (.createAccount ..) | .move (.registerDevice ..) | .move (.updateDeviceStatus ..)
  | .move (.attestDevice ..) | .move (.issueToken ..) | .move (.startSettle ..)
  | .move (.startRelease ..) | .move (.release ..) | .move (.startScan ..) | .move (.scan ..) =>
    inferInstanceAs (Decidable True)

/-- A noted operation that is still scheduled for a retry is for a payment within the limit. -/
structure Sound (s : Supervised E) : Prop where
  noted : ∀ n ∈ s.noted, ∃ op, s.world.db.recoveryOperations.find? n.recoveryID = some op ∧
    (op.state = .scheduled → op.action = .compensate ∨
      (op.action = .retry ∧ n.amount ≤ defaultPolicy.maxAmount))

/-- A failure whose amount is above the limit is not scheduled. -/
theorem plan_budget {classifier : Classifier} {policy : Policy} {event : FailureEvent}
    {failureID recoveryID : String} {now : Time}
    (hstate : (plan classifier policy event failureID recoveryID now).state = .scheduled) :
    (plan classifier policy event failureID recoveryID now).action = .compensate ∨
      ((plan classifier policy event failureID recoveryID now).action = .retry ∧
        event.amount ≤ policy.maxAmount) := by
  simp only [plan] at hstate ⊢
  have hle : (decision classifier policy event failureID now).action = .retry →
      event.amount ≤ policy.maxAmount := by
    intro haction
    by_contra hlt
    rw [Int64.not_le] at hlt
    simp [decision, Policy.decide, FailureEvent.completed, hlt] at haction
  cases haction : (decision classifier policy event failureID now).action <;>
    simp_all [stateFor]

/-- The step of a call that records a failure. -/
theorem step_record {w : World E} {i : ℕ} {call : SettleCall} (hcall : w.calls[i]? = some call)
    {f : Failure} {current : PaymentIntent} (hpc : call.pc = .record f current) (input : Input) :
    (w.step (.settle i input)).db = (withTx input.fault (recordFailure (classify none) defaultPolicy
      (failureEvent f current input.now) input.failureID input.recoveryID input.now) w.db).2 := by
  simp only [World.step, World.settle, hcall, SettleCall.step, hpc, SettleCall.write]
  rcases withTx input.fault (recordFailure (classify none) defaultPolicy
    (failureEvent f current input.now) input.failureID input.recoveryID input.now) w.db
    with ⟨_ | _, db'⟩ <;> rfl

/-- What a move notes is planned within the limit. -/
theorem Timely.noted {s : Supervised E} {l : OfflinePay.Label} (hs : s.Timely (.move l)) {n : Noted}
    (hn : noted? s.world l = some n) :
    ∃ op, (s.world.step l).db.recoveryOperations.find? n.recoveryID = some op ∧
      (op.state = .scheduled → op.action = .compensate ∨
        (op.action = .retry ∧ n.amount ≤ defaultPolicy.maxAmount)) := by
  cases l with
  | settle i input =>
    obtain ⟨⟨o, current⟩, hrec, hif⟩ := Option.bind_eq_some_iff.mp hn
    have hamount := hs _ hrec
    obtain ⟨call, hcall, hrec⟩ := Option.bind_eq_some_iff.mp hrec
    obtain ⟨f, hpc, horder⟩ : ∃ f, call.pc = .record f current ∧ call.order = some o := by
      rw [SettleCall.recording?] at hrec
      split at hrec
      · next f _ _ hpc horder =>
        obtain ⟨rfl, rfl⟩ := by simpa using hrec
        exact ⟨f, hpc, horder⟩
      · cases hrec
    simp only [Option.ite_none_right_eq_some] at hif
    obtain ⟨⟨hnone, hsome⟩, hn⟩ := hif
    obtain rfl := Option.some.inj hn
    rw [step_record hcall hpc] at hsome ⊢
    generalize htx : withTx input.fault _ s.world.db = r at hsome ⊢
    obtain ⟨res, db'⟩ := r
    cases res with
    | error e => exact absurd (withTx_error htx ▸ hnone) hsome
    | ok u =>
      obtain ⟨hrecorded, -⟩ := recordFailure_ok (withTx_ok.mp htx).2
      cases hrecorded with
      | known hops hout => exact absurd (hops ▸ hnone) hsome
      | fresh hops hid htxn eventID payload hout =>
        refine ⟨_, hops ▸ Table.find?_insert_self hid, fun hstate => ?_⟩
        refine (plan_budget hstate).imp_right fun hplan => ⟨hplan.1, ?_⟩
        exact hamount.elim (fun heq => heq ▸ hplan.2) id
  | _ => cases hn

theorem Sound.step {s : Supervised E} (hs : s.Sound) {l : Label} (hl : s.Timely l) :
    (s.step l).Sound ∧ s.InBudget l := by
  cases l with
  | move l =>
    refine ⟨⟨fun n hn => ?_⟩, trivial⟩
    obtain hn | hn := List.mem_append.mp hn
    · obtain ⟨op, hop, hscheduled⟩ := hs.noted n hn
      exact ⟨op, World.keepsOperations.step s.world l _ _ hop, hscheduled⟩
    · exact hl.noted (Option.mem_toList.mp hn)
  | runOnce limit locked now fault =>
    obtain ⟨hrequests, hruns⟩ := runOnce_requests fault defaultPolicy limit locked now s.world.db
    refine ⟨⟨fun n hn => ?_⟩, fun n hn hid => ?_⟩
    · obtain ⟨op, hop, hscheduled⟩ := hs.noted n hn
      obtain ⟨op', hop', haction, hstate⟩ := hruns _ op hop
      exact ⟨op', hop', fun h => haction ▸ hscheduled (hstate h)⟩
    · obtain ⟨op, hdue, hkey, hreview⟩ := hrequests.of_retryRequests hid
      obtain ⟨hrow, hstate, -⟩ := (dueOperations_spec limit locked now s.world.db).2 op hdue
      obtain ⟨op', hop', hscheduled⟩ := hs.noted n hn
      -- the operation that was due is the one that was noted
      obtain rfl : op = op' := by
        rw [← hkey, Table.find?_of_mem hrow] at hop'
        exact Option.some.inj hop'
      obtain ⟨hretry, hle⟩ := (hscheduled hstate).resolve_left hreview
      exact ⟨hle, hl n hn op hdue hkey hretry⟩

/-- `alice` pays 30 to `bob`. -/
def payment : String → Option SignedPaymentIntent
  | "pay" => some (PaymentIntentPayload.signedBy
      ⟨"T", "alice", "bob", 30, "USD", "N", 1000000000000, "phone", "K"⟩ "alice-key")
  | _ => none

end Supervised

end OfflinePay
