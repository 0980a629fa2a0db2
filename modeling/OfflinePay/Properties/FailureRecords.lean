import OfflinePay.Settlement.Solo
import OfflinePay.System.Records

/-!
# Failure records

Every failure of `Settle` goes through `saveFailedIntent`, whose row refers to the device and the
token `UNKNOWN`. The migrations create neither, and the ids of issued tokens are UUIDs. So in a
deployed system the foreign keys refuse the row, the error is dropped, and the payment event, the
failure event and the recovery operation that refer to the row are refused or left out as well.
-/

namespace OfflinePay

open Tx Repository Settlement Recovery

variable {E : Externals}

/-- The id under which a move issues a token. -/
def Label.issuedID? : Label → Option String
  | .issueToken _ _ _ tokenID _ _ => some tokenID
  | _ => none

/-- What the shipped migrations and the program lead to. Ids of tokens come from `uuid.New`, so none
is the word `UNKNOWN`. -/
inductive Deployed : World E → Prop where
  | migrated (risk : E.RiskState) : Deployed (World.start risk)
  | step {w : World E} (hw : Deployed w) (l : Label) (hid : l.issuedID? ≠ some "UNKNOWN") :
      Deployed (w.step l)
  | recover {w : World E} (hw : Deployed w) (fault : Option GoError) (policy : Policy) (limit : ℤ)
      (locked : String → Bool) (now : Time) :
      Deployed { w with db := (withTx fault (runOnce policy limit locked now) w.db).2 }

theorem Deployed.exec {w : World E} (hw : Deployed w) {ls : List Label}
    (hls : ∀ l ∈ ls, l.issuedID? ≠ some "UNKNOWN") : Deployed (w.exec ls) := by
  induction ls generalizing w with
  | nil => exact hw
  | cons l ls ih =>
    exact ih (hw.step l (hls l List.mem_cons_self)) fun l' hl' => hls l' (List.mem_cons_of_mem l hl')

/-- There is no token for failure records to refer to. -/
theorem Deployed.unknown_free {w : World E} (hw : Deployed w) :
    w.db.offlineTokens.find? "UNKNOWN" = none := by
  induction hw with
  | migrated risk => exact Table.find?_empty _
  | step _ l hid ih =>
    refine (World.step_keeps World.records _ l (fun _ _ _ => trivial)
      fun ownerID value duration tokenID faults now hl => ?_).tokens ih
    refine (Token.issueToken_records ownerID value duration tokenID faults now _).2 ?_
    rintro rfl
    exact hid (hl ▸ rfl)
  | recover _ fault policy limit locked now ih =>
    exact (keeps_withTx (runOnce_records (S := fun _ => True) policy limit locked now) fault _).tokens ih

/-! ## A call that fails -/

namespace Settlement

/-- What is to be found after `Settle` has returned a failure: the intent with its status and
reason, its payment event, and for a failed saga the failure and one operation of the recovery
manager. -/
structure FailureRecorded (txnID : String) (status : PaymentStatus) (reason : String) (s : Solo E) :
    Prop where
  intent : ∃ row, s.db.paymentIntents.find? txnID = some row ∧ row.status = status ∧
    row.failureReason = some reason
  event : ∃ ev ∈ s.db.paymentEvents, ev.txnID = txnID ∧ ev.eventType = "IntentFailed"
  failure : s.call.order ≠ none → ∃ event ∈ s.db.failureEvents.rows, event.txnID = txnID
  operation : s.call.order ≠ none →
    ∃! op, op ∈ s.db.recoveryOperations.rows ∧ op.txnID = txnID

/-- The statuses that `Settle` returns for a payment it refuses. -/
def failureStatuses : List PaymentStatus := [.rejected, .failed, .expired, .duplicate]

/-- If the call has returned a failure, then it is recorded. -/
def Solo.FailureDurable (txnID : String) (s : Solo E) : Prop :=
  ∀ status ∈ failureStatuses, s.status? = some status →
    ∃ reason, FailureRecorded txnID status reason s

/-- The statuses that the saga gives to an intent. -/
def SagaStatus (status : PaymentStatus) : Prop := status = .reserved ∨ status = .settled

/-- Where there is no token `UNKNOWN`, the intents that a call leaves are those of its saga. -/
theorem Solo.exec_rows (s : Solo E) (hnone : s.db.offlineTokens.find? "UNKNOWN" = none)
    (inputs : List Input) (txnID : String) (row : PaymentIntent)
    (hrow : (s.exec inputs).db.paymentIntents.find? txnID = some row) :
    s.db.paymentIntents.find? txnID = some row ∨ SagaStatus row.status := by
  have hstatements := Settlement.records (S := SagaStatus) (.inl rfl) (.inr rfl)
  have hrecords := Solo.invariant (I := fun s' : Solo E => s.db.Records SagaStatus s'.db)
    (fun s' input h => Trans.trans h (s'.call.step_keeps hstatements input s'.db s'.risk))
    (Std.Refl.refl s.db) inputs
  exact hrecords.rows hnone txnID row hrow

end Settlement

/-- In a deployed system no failure of a payment that is new to it is recorded. -/
theorem failures_not_recorded {w : World E} (hw : Deployed w) {env : EncryptedEnvelope}
    (hfree : w.db.paymentIntents.find? env.txnID = none) (hopCount : ℤ) (inputs : List Input)
    {status : PaymentStatus} (hstatus : status ∈ failureStatuses)
    (hreturned : ((Solo.start env hopCount w.db w.risk).exec inputs).status? = some status) :
    ¬((Solo.start env hopCount w.db w.risk).exec inputs).FailureDurable env.txnID := by
  intro hdurable
  obtain ⟨reason, hrecorded⟩ := hdurable status hstatus hreturned
  obtain ⟨row, hrow, rfl, -⟩ := hrecorded.intent
  rcases Solo.exec_rows _ hw.unknown_free inputs _ row hrow with hold | hnew
  · cases hfree.symm.trans hold
  · rcases hnew with hnew | hnew <;> rw [hnew] at hstatus <;> revert hstatus <;> decide

/-! ## A payment of an unknown device, and a lost connection -/

namespace FailureRecords

/-- `alice` pays 30 to `bob`. -/
def payment : String → Option SignedPaymentIntent
  | "pay" => some (PaymentIntentPayload.signedBy
      ⟨"T", "alice", "bob", 30, "USD", "N", 1000000000000, "phone", "K"⟩ "alice-key")
  | _ => none

/-- The envelope of the payment. -/
def envelope : EncryptedEnvelope := ⟨"", "pay", "N", "", "T", ""⟩

/-- The payment comes in right after the migrations, when its device is not registered. -/
def unregistered : Solo (.simple payment) :=
  (Solo.start envelope 0 DB.empty ()).exec (List.replicate 6 { now := 1 })

/-- The payment is refused, and no row says so. -/
theorem unregistered_not_recorded :
    unregistered.status? = some .rejected ∧ ¬unregistered.FailureDurable envelope.txnID := by
  have hreturned : unregistered.status? = some .rejected := by decide +kernel
  have hnone : unregistered.db.paymentIntents.find? envelope.txnID = none := by decide +kernel
  refine ⟨hreturned, fun hdurable => ?_⟩
  obtain ⟨reason, hrecorded⟩ := hdurable .rejected (by decide) hreturned
  obtain ⟨row, hrow, -⟩ := hrecorded.intent
  cases hnone.symm.trans hrow

/-- Everything is set up for the payment. -/
def prepared : World (.simple payment) := (World.start ()).exec (Label.setup ["K"])

/-- The connection is lost in the last step of the saga. -/
def lostInputs : List Input :=
  List.replicate 8 { now := 1 } ++ [{ now := 1, fault := some ⟨"driver: bad connection", false⟩ }] ++
    List.replicate 12 { now := 1 }

/-- A saga that fails is not recorded either. -/
theorem failures_not_recorded_lost :
    Deployed prepared ∧ ¬((Solo.start envelope 0 prepared.db prepared.risk).exec
      lostInputs).FailureDurable envelope.txnID := by
  have hstart := Deployed.migrated (E := .simple payment) ()
  have hdeployed : Deployed prepared := hstart.exec (by decide : ∀ l ∈ Label.setup ["K"], _)
  have hfailed : .failed ∈ failureStatuses := by decide
  exact ⟨hdeployed, failures_not_recorded hdeployed (by decide +kernel) 0 lostInputs hfailed
    (by decide +kernel)⟩

end FailureRecords

end OfflinePay
