import OfflinePay.Settlement.Success
import OfflinePay.Store.Links
import OfflinePay.System.World

/-!
# Retries that the recovery manager schedules

`RecordFailure` plans a retry for a payment whose saga failed, under the id of its envelope. By then
an intent stands under that id, or the foreign key of `recovery_operations` would have refused the
plan, and it stays there as long as the plan does. `Settle` on the same envelope needs the id of the
payload to be free, so where the two ids agree no retry can ever settle. Where they differ it
settles as a first attempt would: if nothing of the earlier one is in its way.
-/

namespace OfflinePay

open Tx Repository Settlement

variable {E : Externals}

/-! ## Planned recoveries keep their payment -/

theorem World.keepsLinks : World.Statements E DB.KeepsLinks where
  toRecovery := Recovery.keepsLinks
  createDevice := keeps_createDevice fun _ _ => .of_eq rfl rfl
  updateDeviceStatus := keeps_updateDeviceStatus fun _ _ => .of_eq rfl rfl
  createDeviceAttestation := keeps_createDeviceAttestation fun _ _ => .of_eq rfl rfl
  createAccount := keeps_createAccount fun _ _ => .of_eq rfl rfl
  issueToken ownerID value duration tokenID faults now db := by
    obtain ⟨devices, hdb⟩ | ⟨tok, deviceID, devices, accounts, entries, nextEntryID, -, hdb⟩ :=
      Token.issueToken_writes (E := E) ownerID value duration tokenID faults now db
    · rw [hdb]
      exact .of_eq rfl rfl
    · rw [hdb]
      refine .of_kept rfl fun txnID hrow => ?_
      obtain ⟨row, hrow⟩ := Option.ne_none_iff_exists'.mp hrow
      simp [Table.find?_insert_of_find? hrow]

/-- In every state each planned recovery is for a payment intent that exists. -/
theorem World.linked {w : World E} (hw : w.db.Linked) (ls : List Label) : (w.exec ls).db.Linked :=
  Run.exec_invariant (I := fun w : World E => w.db.Linked)
    (fun w l hw _ => World.keepsLinks.step w l hw) hw (Run.steps_true w ls)

/-! ## Retries -/

/-- `Settle` on an envelope for which a recovery is planned, run alone and without faults before
anything has expired, settles if and only if the envelope came under another id than its payload,
the intent under the envelope's id is not final, nothing of an earlier attempt is in the way, and
the payment is admitted and payable as a first attempt would have to be. -/
theorem retry_settles_iff (w : World E) (hw : w.db.recoveryOperations = .empty) (ls : List Label)
    (op : RecoveryOperation) (hop : op ∈ (w.exec ls).db.recoveryOperations.rows)
    (env : EncryptedEnvelope) (henv : op.txnID = env.txnID) (signed : SignedPaymentIntent)
    (hopen : openEnvelope E env = .ok signed) (hopCount : ℤ) (risk : E.RiskState)
    (inputs : List Input) (hlen : 10 ≤ inputs.length)
    (hquiet : ∀ input ∈ inputs, input.Quiet signed (w.exec ls).db) :
    let db := (w.exec ls).db
    (Solo.start env hopCount db risk).Settles inputs ↔
      env.txnID ≠ signed.payload.txnID ∧
      (∀ row, db.paymentIntents.find? env.txnID = some row → row.status.isFinal = false) ∧
      ∃ o : Order, o.env = env ∧ o.hopCount = hopCount ∧ o.payload = signed.payload ∧
        o.Admitted E signed db risk ∧ o.Fresh db ∧ o.Payable db := by
  intro db
  have hlinked : db.paymentIntents.find? env.txnID ≠ none := by
    rw [← henv]
    exact World.linked (by simp [DB.Linked, hw, Table.empty]) ls op hop
  rw [Solo.settles_iff hopen hopCount db risk hlen hquiet]
  refine ⟨?_, fun h => h.2⟩
  rintro ⟨hfinal, o, rfl, rfl, hpayload, hadm, hfresh, hpayable⟩
  refine ⟨fun hid => hlinked ?_, hfinal, o, rfl, rfl, hpayload, hadm, hfresh, hpayable⟩
  rw [hid, ← hpayload]
  exact hfresh.free

/-! ## A retry that is refused -/

/-- `alice` pays 30 to `bob`. -/
def retrySigned : SignedPaymentIntent :=
  PaymentIntentPayload.signedBy
    ⟨"T", "alice", "bob", 30, "USD", "N", 1000000000000, "phone", "K"⟩ "alice-key"

def retryDecode : String → Option SignedPaymentIntent
  | "pay" => some retrySigned
  | _ => none

/-- The envelope of the payment, under the given outer id. -/
def retryEnvelope (txnID : String) : EncryptedEnvelope := ⟨"", "pay", "N", "", txnID, ""⟩

/-- A first attempt whose `RESERVE` loses its connection. -/
def retryRun (txnID : String) : List Label :=
  Label.setup ["K"] ++ [.startSettle (retryEnvelope txnID) 0] ++ Label.settles 0 5
    ++ [Label.settleFails 0] ++ Label.settles 0 6

/-- Where it leaves the bank. -/
def retryWorld (txnID : String) : World (.simple retryDecode) :=
  (World.seeded ()).exec (retryRun txnID)

/-- The first attempt fails for a lost connection, a retry is scheduled, and it is refused as a
duplicate. -/
theorem scheduled_retry_refused :
    (retryWorld "T").calls.map (·.pc.isReturned) = [true] ∧
      (retryWorld "T").db.recoveryOperations.rows.map (fun op => (op.txnID, op.action, op.state))
        = [("T", .retry, .scheduled)] ∧
      ((Solo.start (E := .simple retryDecode) (retryEnvelope "T") 0 (retryWorld "T").db ()).exec
        (List.replicate 10 { now := 2 })).status? = some .duplicate := by
  decide +kernel

/-- The token of the payment. -/
def retryToken : OfflineToken :=
  ⟨"K", "alice", 100, 1000000000000, false, none,
    "bank/" ++ canonicalTokenData "K" "alice" 100 1000000000000, 0, none, 0.1, .issued⟩

/-- The payment, in an envelope whose outer id is that of the token's reservation. -/
def retryOrder : Order where
  env := retryEnvelope "tok-res-K"
  hopCount := 0
  payload := retrySigned.payload
  token := retryToken
  token_eq := rfl
  owner_eq := rfl
  unconsumed := rfl
  covered := by decide

/-- The tables after a first attempt under the outer id of the token's reservation. -/
theorem retryWorld_tables :
    let db := (retryWorld "tok-res-K").db
    (⟨"", "tok-res-K", "recovery:tok-res-K", .retry, .scheduled, 0, some 60000000001⟩ :
        RecoveryOperation) ∈ db.recoveryOperations.rows ∧
      (db.paymentIntents.find? "tok-res-K").map PaymentIntent.status = some .reserved ∧
      db.paymentIntents.find? "T" = none ∧ db.nonceRegistry.find? "N" = none ∧
      db.offlineTokens.find? "K" = some retryToken ∧ db.deviceAttestations.find? "phone" = none ∧
      db.devices.find? "phone" = some ⟨"phone", "alice", "alice-key", 1, .active, 0, none⟩ ∧
      db.accountBalances.find? "alice" = some ⟨"alice", 900, 100, 0, by decide, by decide⟩ ∧
      db.accountBalances.find? "bob" = some ⟨"bob", 0, 0, 0, by decide, by decide⟩ := by
  decide +kernel

/-- Under that outer id, which is never final, the retry goes through. -/
theorem retry_settles_iff_other_id :
    (Solo.start (E := .simple retryDecode) (retryEnvelope "tok-res-K") 0
      (retryWorld "tok-res-K").db ()).Settles (List.replicate 10 { now := 2 }) := by
  have htables := retryWorld_tables
  unfold retryWorld at htables ⊢
  obtain ⟨hop, hstatus, hfree, hnonce, htoken, hatt, hdevice, halice, hbob⟩ := htables
  obtain ⟨row, hrow, hreserved⟩ := Option.map_eq_some_iff.mp hstatus
  have hquiet : ∀ input ∈ List.replicate 10 ({ now := 2 } : Input),
      input.Quiet retrySigned
        ((World.seeded (E := .simple retryDecode) ()).exec (retryRun "tok-res-K")).db := by
    intro input hmem
    obtain rfl := List.eq_of_mem_replicate hmem
    refine ⟨rfl, rfl, by decide, fun tok htok => ?_⟩
    obtain rfl := Option.some.inj (htoken.symm.trans htok)
    decide
  refine (retry_settles_iff (E := .simple retryDecode) (World.seeded ()) rfl (retryRun "tok-res-K") _ hop
    _ rfl retrySigned rfl 0 () _ (by decide) hquiet).mpr
    ⟨by decide, fun row' hrow' => ?_, retryOrder, rfl, rfl, rfl, ?_, ?_, ?_⟩
  · obtain rfl := Option.some.inj (hrow.symm.trans hrow')
    rw [hreserved]
    rfl
  · exact ⟨fun att h => absurd (hatt.symm.trans h) (by simp), ⟨_, hdevice, by decide +kernel, by decide⟩,
      by decide, htoken, by decide +kernel⟩
  · exact ⟨hfree, hnonce, rfl⟩
  · have hbooked := Option.ne_none_iff_exists'.mpr ⟨row, hrow⟩
    exact ⟨by decide, by decide, .inr hbooked, .inr hbooked, by decide, by decide, _, _, halice, hbob,
      by decide, by decide, by decide⟩

end OfflinePay
