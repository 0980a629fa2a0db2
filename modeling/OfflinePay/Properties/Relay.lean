import OfflinePay.Settlement.Overlay
import OfflinePay.System.World

/-!
# What an untrusted relay can do

A relay sees the outer transaction id of an envelope and can send envelopes of its own. `Settle`
rejects them, and records the failure as a payment intent under the outer id they came with,
wherever the `UNKNOWN` device and token exist for it to refer to. A record under the transaction id
of a genuine payment keeps that payment's `RESERVE` from ever committing. Nothing else a forged
envelope leaves behind matters to a genuine one.
-/

namespace OfflinePay

open Tx Repository Settlement

/-! ## Forged envelopes -/

/-- The envelope does not open, or no device that it names signed what is in it. -/
def Forged (E : Externals) (db : DB) (env : EncryptedEnvelope) : Prop :=
  ∀ signed device, openEnvelope E env = .ok signed →
    db.devices.find? signed.payload.deviceID = some device → device.verifies E signed = false

/-- A forged envelope, and what happens while `Settle` runs on it. -/
structure Forgery (E : Externals) (db : DB) where
  env : EncryptedEnvelope
  hopCount : ℤ
  inputs : List Input
  forged : Forged E db env

variable {E : Externals} {db₀ : DB}

namespace Settlement

/-- The next thing the call does is to record its failure as a payment intent. -/
def Pc.savesIntent : Pc → Bool
  | .saveIntent _ _ => true
  | _ => false

/-- The next step of the call records a failure under the transaction id: nothing is lost, the
columns fit, and the `UNKNOWN` device and token are there. -/
def Solo.Plants (txnID : String) (s : Solo E) (input : Input) : Prop :=
  s.call.pc.savesIntent = true ∧ s.call.env.txnID = txnID ∧ input.fault = none ∧
    Pg.varchar 100 s.call.env.txnID = true ∧ Pg.varchar 100 s.call.env.nonce = true ∧
    Pg.int4 s.call.hopCount = true ∧ s.db.devices.find? "UNKNOWN" ≠ none ∧
    s.db.offlineTokens.find? "UNKNOWN" ≠ none

instance (txnID : String) (s : Solo E) (input : Input) : Decidable (s.Plants txnID input) :=
  inferInstanceAs (Decidable (_ ∧ _))

/-- The record of a failure fits its columns if what comes from the envelope does. -/
theorem failedIntent_columnsFit {env : EncryptedEnvelope} {hopCount : ℤ} {f : Failure}
    {now : Time} :
    (failedIntent env hopCount f now).columnsFit = true ↔ Pg.varchar 100 env.txnID = true ∧
      Pg.varchar 100 env.nonce = true ∧ Pg.int4 hopCount = true := by
  have hunknown : Pg.varchar 100 "UNKNOWN" = true := by decide
  have husd : Pg.varchar 10 "USD" = true := by decide
  have hempty : Pg.varchar 100 "" = true := by decide
  simp [PaymentIntent.columnsFit, failedIntent, hunknown, husd, hempty, and_assoc]

/-- The call has not got past the check of the signature. -/
def Pc.bounced : Pc → Bool
  | .token _ _ | .saga | .lookup _ | .record _ _ => false
  | .saveIntent _ recover | .saveOutbox _ recover | .saveEvent _ recover => !recover
  | _ => true

/-- What one step of a rejected call did. -/
structure Solo.Bounced (s : Solo E) (input : Input) : Prop where
  pc : (s.step input).call.pc.bounced = true
  risk : (s.step input).risk = s.risk
  overlaid : ∀ ids, (∀ txnID ∈ ids, ¬s.Plants txnID input) → DB.Overlaid ids s.db (s.step input).db
  planted : ∀ txnID, s.Plants txnID input → (s.step input).db.paymentIntents.find? txnID ≠ none

/-- A step that writes no payment intent. -/
theorem Solo.Bounced.of_overlaid {s : Solo E} {input : Input}
    (hsave : s.call.pc.savesIntent = false)
    (hpc : (s.step input).call.pc.bounced = true) (hrisk : (s.step input).risk = s.risk)
    (hdb : ∀ ids, DB.Overlaid ids s.db (s.step input).db) : s.Bounced input where
  pc := hpc
  risk := hrisk
  overlaid ids _ := hdb ids
  planted txnID h := absurd (hsave.symm.trans h.1) (by decide)

/-- A step that only reads. -/
theorem Solo.Bounced.of_read {s : Solo E} {input : Input} (hsave : s.call.pc.savesIntent = false)
    (h : (s.step input).call.pc.bounced = true ∧ (s.step input).risk = s.risk ∧
      (s.step input).db = s.db) : s.Bounced input :=
  .of_overlaid hsave h.1 h.2.1 fun ids => h.2.2 ▸ .refl ids s.db

/-- A step that makes one write, and no payment intent. -/
theorem Solo.Bounced.of_write {s : Solo E} {input : Input} {body : DBTx Unit} (next : Pc)
    (hsave : s.call.pc.savesIntent = false)
    (hstep : s.step input = ⟨{ s.call with pc := next }, (withTx input.fault body s.db).2, s.risk⟩)
    (hbody : ∀ ids, Keeps (DB.Overlaid ids) body) (hnext : next.bounced = true) :
    s.Bounced input := by
  refine .of_overlaid hsave ?_ ?_ fun ids => ?_
  · rw [hstep]
    exact hnext
  · rw [hstep]
  · rw [hstep]
    obtain hsame | ⟨-, u, hok⟩ := withTx_state input.fault body s.db
    · rw [hsame]
      exact .refl ids s.db
    · exact hbody ids _ _ _ hok

/-- The step that records the failure. -/
theorem Solo.Bounced.of_saveIntent {s : Solo E} {input : Input} {f : Failure}
    (hcall : s.call.pc = .saveIntent f false) : s.Bounced input := by
  have hsave : s.call.pc.savesIntent = true := by rw [hcall]; rfl
  have hstep : s.step input = ⟨{ s.call with pc := .saveOutbox f false }, (withTx input.fault
      (createPaymentIntent (failedIntent s.call.env s.call.hopCount f input.now)) s.db).2, s.risk⟩ := by
    unfold Solo.step SettleCall.step
    simp only [hcall, SettleCall.write_call, SettleCall.write_db]
  have hplant : ∀ {txnID}, s.Plants txnID input ↔ s.call.env.txnID = txnID ∧ input.fault = none ∧
      (failedIntent s.call.env s.call.hopCount f input.now).columnsFit = true ∧
      s.db.devices.find? "UNKNOWN" ≠ none ∧ s.db.offlineTokens.find? "UNKNOWN" ≠ none := by
    intro txnID
    rw [failedIntent_columnsFit, Solo.Plants]
    simp [hsave, and_assoc]
  have hdb : (s.step input).db = (withTx input.fault
      (createPaymentIntent (failedIntent s.call.env s.call.hopCount f input.now)) s.db).2 := by
    rw [hstep]
  refine ⟨by rw [hstep]; rfl, by rw [hstep], fun ids hids => ?_, fun txnID htxn => ?_⟩
  · rw [hdb]
    generalize htx : withTx input.fault _ s.db = r
    obtain ⟨res, db'⟩ := r
    cases res with
    | error e =>
      rw [withTx_error htx]
      exact .refl ids s.db
    | ok u =>
      obtain ⟨hfault, hok⟩ := withTx_ok.mp htx
      obtain ⟨hfit, hfree, hdev, htok, rfl⟩ := createPaymentIntent_ok.mp hok
      have hnew : s.db.paymentIntents.find?
          (failedIntent s.call.env s.call.hopCount f input.now).stored.txnID = none := hfree
      refine { DB.Overlaid.refl ids s.db with
        rows := fun txnID row hrow => Table.find?_insert_of_find? hrow
        same := fun txnID ht => ?_ }
      refine (Table.find?_insert hnew txnID).trans (if_neg fun heq => hids txnID ht ?_)
      exact hplant.mpr ⟨heq, hfault, hfit, hdev, htok⟩
  · obtain ⟨rfl, hfault, hfit, hdev, htok⟩ := hplant.mp htxn
    rw [hdb]
    by_cases hfree : s.db.paymentIntents.find? s.call.env.txnID = none
    · have hok := createPaymentIntent_ok (u := ()).mpr ⟨hfit, hfree, hdev, htok, rfl⟩
      rw [withTx_ok.mpr ⟨hfault, hok⟩]
      have hfind := Table.find?_insert_self
        (r := (failedIntent s.call.env s.call.hopCount f input.now).stored) hfree
      exact fun hnone => absurd (hfind.symm.trans hnone) (by simp)
    · -- somebody else has recorded something under this id before
      obtain hsame | ⟨-, u, hok⟩ := withTx_state input.fault
        (createPaymentIntent (failedIntent s.call.env s.call.hopCount f input.now)) s.db
      · rwa [hsame]
      · exact absurd (createPaymentIntent_ok.mp hok).2.1 hfree

/-- A call on a forged envelope is rejected at the latest by the check of the signature. -/
theorem Solo.bounced {env : EncryptedEnvelope} (hforged : Forged E db₀ env) {s : Solo E}
    (hdev : db₀.SameDevices s.db) (hv : Vetted E db₀ env s.call) (hpc : s.call.pc.bounced = true)
    (input : Input) : s.Bounced input := by
  have hstep : s.step input = ⟨(s.call.step E input s.db s.risk).1,
      (s.call.step E input s.db s.risk).2.1, (s.call.step E input s.db s.risk).2.2.1⟩ := rfl
  match hcall : s.call.pc with
  | .idempotency =>
    have hsave : s.call.pc.savesIntent = false := by rw [hcall]; rfl
    refine .of_read hsave ?_
    simp only [hstep, SettleCall.step, hcall]
    split
    · exact ⟨rfl, rfl, rfl⟩
    · split <;> exact ⟨rfl, rfl, rfl⟩
  | .attestation signed =>
    have hsave : s.call.pc.savesIntent = false := by rw [hcall]; rfl
    refine .of_read hsave ?_
    simp only [hstep, SettleCall.step, hcall]
    split <;> exact ⟨rfl, rfl, rfl⟩
  | .device signed =>
    have hsave : s.call.pc.savesIntent = false := by rw [hcall]; rfl
    refine .of_read hsave ?_
    simp only [hstep, SettleCall.step, hcall]
    split
    · exact ⟨rfl, rfl, rfl⟩
    · next device hfind =>
      -- the signature would have verified
      obtain ⟨hdevice, hsigned⟩ := findDevice_ok hfind
      have hbad := hforged signed device (hv.opened signed (.inr hcall)) (hdev ▸ hdevice)
      exact absurd (hbad.symm.trans hsigned.2) (by decide)
  | .saveIntent f recover =>
    rw [hcall] at hpc
    obtain rfl : recover = false := by simpa [Pc.bounced] using hpc
    exact .of_saveIntent hcall
  | .saveOutbox f recover =>
    rw [hcall] at hpc
    have hsave : s.call.pc.savesIntent = false := by rw [hcall]; rfl
    have hkeep : ∀ ids, Keeps (DB.Overlaid ids) (createOutboxEvent "payment.failed" "PaymentFailed"
        (failedJson s.call.env s.call.hopCount f)) :=
      fun ids => keeps_createOutboxEvent (fun db _ _ => { DB.Overlaid.refl ids db with }) _ _ _
    refine .of_write (.saveEvent f recover) hsave ?_ hkeep hpc
    simp only [hstep, SettleCall.step, hcall, SettleCall.write_call, SettleCall.write_db]
    rfl
  | .saveEvent f recover =>
    rw [hcall] at hpc
    obtain rfl : recover = false := by simpa [Pc.bounced] using hpc
    have hsave : s.call.pc.savesIntent = false := by rw [hcall]; rfl
    have hkeep : ∀ ids, Keeps (DB.Overlaid ids) (createPaymentEvent s.call.env.txnID "IntentFailed" 1
        (.obj [("reason", .str f.reason), ("status", .str f.status.text),
          ("relay_hops", .num s.call.hopCount)]) input.now) :=
      fun ids => keeps_createPaymentEvent (fun db _ => { DB.Overlaid.refl ids db with }) _ _ _ _ _
    refine .of_write (SettleCall.afterSave f false) hsave ?_ hkeep rfl
    simp only [hstep, SettleCall.step, hcall, SettleCall.write_call, SettleCall.write_db]
  | .returned status err =>
    have hsave : s.call.pc.savesIntent = false := by rw [hcall]; rfl
    refine .of_read hsave ?_
    unfold Solo.step SettleCall.step
    simp only [hcall, and_self, and_true]
    rfl
  | .token signed device => simp [hcall, Pc.bounced] at hpc
  | .saga => simp [hcall, Pc.bounced] at hpc
  | .lookup f => simp [hcall, Pc.bounced] at hpc
  | .record f current => simp [hcall, Pc.bounced] at hpc

end Settlement

/-! ## A relay -/

namespace Forgery

/-- `Settle` starts on the envelope. -/
def start (f : Forgery E db₀) (s : DB × E.RiskState) : Solo E :=
  Solo.start f.env f.hopCount s.1 s.2

/-- What `Settle` leaves behind of the envelope. -/
def relay (s : DB × E.RiskState) (f : Forgery E db₀) : DB × E.RiskState :=
  (((f.start s).exec f.inputs).db, ((f.start s).exec f.inputs).risk)

/-- No step of the call records a failure under the transaction id. -/
def Spares (txnID : String) (s : DB × E.RiskState) (f : Forgery E db₀) : Prop :=
  Run.Steps Solo.step (fun s input => ¬s.Plants txnID input) (f.start s) f.inputs

instance (txnID : String) (s : DB × E.RiskState)
    (f : Forgery E db₀) : Decidable (f.Spares txnID s) :=
  inferInstanceAs (Decidable (Run.Steps _ _ _ _))

/-- The call on a forged envelope is about to be rejected, or has been. -/
structure Rejecting (f : Forgery E db₀) (s : DB × E.RiskState) (t : Solo E) : Prop where
  devices : db₀.SameDevices t.db
  vetted : Vetted E db₀ f.env t.call
  pc : t.call.pc.bounced = true
  risk : t.risk = s.2
  overlaid : DB.Overlaid [] s.1 t.db

theorem Rejecting.start {s : DB × E.RiskState} (hs : DB.Overlaid [] db₀ s.1) (f : Forgery E db₀) :
    f.Rejecting s (f.start s) where
  devices := hs.devices
  vetted := ⟨rfl, by simp [Forgery.start, Solo.start], by simp [Forgery.start, Solo.start],
    by simp [Forgery.start, Solo.start]⟩
  pc := rfl
  risk := rfl
  overlaid := .refl [] s.1

theorem Rejecting.bounced {f : Forgery E db₀} {s : DB × E.RiskState} {t : Solo E}
    (h : f.Rejecting s t) (input : Input) : t.Bounced input :=
  Solo.bounced f.forged h.devices h.vetted h.pc input

theorem Rejecting.step {f : Forgery E db₀} {s : DB × E.RiskState} {t : Solo E}
    (h : f.Rejecting s t) (input : Input) : f.Rejecting s (t.step input) where
  devices := Eq.trans (SettleCall.step_devices t.call input t.db t.risk) h.devices
  vetted := h.vetted.step h.devices input t.risk
  pc := (h.bounced input).pc
  risk := (h.bounced input).risk.trans h.risk
  overlaid := h.overlaid.trans ((h.bounced input).overlaid [] (by simp))

/-- What one forged envelope leaves behind. -/
theorem relay_cases {s : DB × E.RiskState} (hs : DB.Overlaid [] db₀ s.1) (f : Forgery E db₀)
    (txnID : String) :
    (relay s f).2 = s.2 ∧ DB.Overlaid [] s.1 (relay s f).1 ∧
      (f.Spares txnID s → DB.Overlaid [txnID] s.1 (relay s f).1) ∧
      (¬f.Spares txnID s → (relay s f).1.paymentIntents.find? txnID ≠ none) := by
  have hstart := Rejecting.start hs f
  have hend : f.Rejecting s ((f.start s).exec f.inputs) :=
    Solo.invariant (fun t input ht => ht.step input) hstart f.inputs
  refine ⟨hend.risk, hend.overlaid, fun hspares => ?_, fun hplants => ?_⟩
  · refine (Run.exec_invariant (I := fun t => f.Rejecting s t ∧ DB.Overlaid [txnID] s.1 t.db) ?_
      ⟨hstart, .refl _ _⟩ hspares).2
    rintro t input ⟨ht, hR⟩ hno
    exact ⟨ht.step input, hR.trans ((ht.bounced input).overlaid _ (by simpa using hno))⟩
  · refine Run.exec_of_not_steps (I := f.Rejecting s)
      (J := fun t => t.db.paymentIntents.find? txnID ≠ none) (fun t input ht => ?_) hstart hplants
    exact ⟨ht.step input, fun hrow => ((ht.bounced input).overlaid [] (by simp)).kept hrow,
      fun hno => (ht.bounced input).planted txnID (not_not.mp hno)⟩

/-- What any number of forged envelopes leaves behind. -/
theorem relayed (fs : List (Forgery E db₀)) (risk : E.RiskState) (txnID : String) :
    (Run.exec relay (db₀, risk) fs).2 = risk ∧
      DB.Overlaid [] db₀ (Run.exec relay (db₀, risk) fs).1 ∧
      (Run.Steps relay (fun s f => f.Spares txnID s) (db₀, risk) fs →
        DB.Overlaid [txnID] db₀ (Run.exec relay (db₀, risk) fs).1) ∧
      (¬Run.Steps relay (fun s f => f.Spares txnID s) (db₀, risk) fs →
        (Run.exec relay (db₀, risk) fs).1.paymentIntents.find? txnID ≠ none) := by
  have hstep : ∀ (s : DB × E.RiskState) (f : Forgery E db₀), s.2 = risk ∧ DB.Overlaid [] db₀ s.1 →
      (relay s f).2 = risk ∧ DB.Overlaid [] db₀ (relay s f).1 := by
    rintro s f ⟨hrisk, hR⟩
    obtain ⟨hrisk', hR', -⟩ := relay_cases hR f txnID
    exact ⟨hrisk'.trans hrisk, hR.trans hR'⟩
  have hstart : ((db₀, risk) : DB × E.RiskState).2 = risk ∧
      DB.Overlaid [] db₀ ((db₀, risk) : DB × E.RiskState).1 :=
    ⟨rfl, .refl [] db₀⟩
  have hend := Run.exec_invariant (I := fun s : DB × E.RiskState => s.2 = risk ∧
    DB.Overlaid [] db₀ s.1) (fun s f hs _ => hstep s f hs) hstart (Run.steps_true _ fs)
  refine ⟨hend.1, hend.2, fun hspares => ?_, fun hplants => ?_⟩
  · refine (Run.exec_invariant (I := fun s : DB × E.RiskState => (s.2 = risk ∧
      DB.Overlaid [] db₀ s.1) ∧ DB.Overlaid [txnID] db₀ s.1) ?_ ⟨hstart, .refl _ _⟩ hspares).2
    rintro s f ⟨hs, hR⟩ hno
    exact ⟨hstep s f hs, hR.trans ((relay_cases hs.2 f txnID).2.2.1 hno)⟩
  · refine Run.exec_of_not_steps (I := fun s : DB × E.RiskState => s.2 = risk ∧
      DB.Overlaid [] db₀ s.1) (J := fun s => s.1.paymentIntents.find? txnID ≠ none) ?_ hstart hplants
    intro s f hs
    obtain ⟨-, hR, -, hplant⟩ := relay_cases hs.2 f txnID
    exact ⟨hstep s f hs, fun hrow => hR.kept hrow, hplant⟩

end Forgery

/-- Forged envelopes first, whatever happens while `Settle` runs on them: a payment that would have
settled still settles, with the same balances, tokens and ledger, if and only if no call on a forged
envelope gets to record its failure under the transaction id of the payment. -/
theorem relay_harmless_iff (db : DB) (risk : E.RiskState) (fs : List (Forgery E db))
    (env : EncryptedEnvelope) (hopCount : ℤ) (inputs : List Input) (signed : SignedPaymentIntent)
    (hopen : openEnvelope E env = .ok signed)
    (hsettles : ((Solo.start env hopCount db risk).exec inputs).status? = some .settled) :
    let alone := (Solo.start env hopCount db risk).exec inputs
    let after := Run.exec Forgery.relay (db, risk) fs
    let relayed := (Solo.start env hopCount after.1 after.2).exec inputs
    (relayed.status? = alone.status? ∧ relayed.db.accountBalances = alone.db.accountBalances ∧
        relayed.db.offlineTokens = alone.db.offlineTokens ∧
        relayed.db.ledgerEntries = alone.db.ledgerEntries) ↔
      Run.Steps Forgery.relay (fun s f => f.Spares signed.payload.txnID s) (db, risk) fs := by
  intro alone after relayed
  obtain ⟨hrisk, hR, hspared, hplanted⟩ := Forgery.relayed fs risk signed.payload.txnID
  constructor
  · rintro ⟨hstatus, -⟩
    by_contra hno
    refine Solo.never_settled hopen ?_ inputs (hstatus.trans hsettles)
    intro o db' _ hpayload hres
    exact hplanted hno (hpayload ▸ hres.free)
  · intro hspares
    -- the payment settled, so an intent stands under the outer id as well
    have hlinked : env.txnID = signed.payload.txnID ∨ db.paymentIntents.find? env.txnID ≠ none := by
      by_contra hno
      refine Solo.never_settled hopen ?_ inputs hsettles
      rintro o db' rfl hpayload hres
      exact hno (hpayload ▸ hres.linked)
    have hover : DB.Overlaid [env.txnID, signed.payload.txnID] db after.1 := by
      have hT := hspared hspares
      refine { hT with same := fun txnID hmem => ?_ }
      rw [List.mem_cons, List.mem_singleton] at hmem
      rcases hmem with rfl | rfl
      · rcases hlinked with hid | hrow
        · exact hT.same _ (by simp [hid])
        · obtain ⟨row, hrow⟩ := Option.ne_none_iff_exists'.mp hrow
          rw [hT.rows _ row hrow, hrow]
      · exact hT.same _ (by simp)
    obtain ⟨hcall, -, hdb⟩ := Solo.exec_overlaid hopen hover (by simp) (by simp) inputs
      (Solo.onTrack_of_settled hsettles)
    have hrelayed : relayed = (Solo.start env hopCount after.1 risk).exec inputs := by
      rw [← hrisk]
    refine ⟨?_, ?_, ?_, ?_⟩
    · rw [hrelayed, Solo.status?, hcall, Solo.status?]
    · rw [hrelayed, hdb.accountBalances]
    · rw [hrelayed, hdb.offlineTokens]
    · rw [hrelayed, hdb.ledgerEntries]

/-! ## A payment that is blocked -/

/-- `alice` pays 30 to `bob`. -/
def relaySigned : SignedPaymentIntent :=
  PaymentIntentPayload.signedBy
    ⟨"T", "alice", "bob", 30, "USD", "N", 1000000000000, "phone", "K"⟩ "alice-key"

/-- Only the payment can be opened. -/
def relayDecode : String → Option SignedPaymentIntent
  | "pay" => some relaySigned
  | _ => none

/-- `alice` holds a token, and the `UNKNOWN` device and token are there for failure records. -/
def relayDB : DB :=
  let w := (World.start (E := .simple relayDecode) ()).exec (Label.setup ["K"]
    ++ [.registerDevice ⟨"UNKNOWN", "UNKNOWN", "", 1, .active, 0, none⟩ none])
  { w.db with
    offlineTokens := w.db.offlineTokens.insert
      ⟨"UNKNOWN", "UNKNOWN", 0, 0, true, none, "", 0, none, 0, .issued⟩ }

/-- An envelope that holds nothing, under the given outer id. -/
def relayForgery (txnID : String) : Forgery (.simple relayDecode) relayDB where
  env := ⟨"", "junk", "M", "", txnID, ""⟩
  hopCount := 1
  inputs := List.replicate 6 { now := 1 }
  forged := by
    intro signed device hopen
    simp [openEnvelope, Externals.simple, relayDecode] at hopen

/-- The payment, after the relay has sent the forged envelopes. -/
def relayCall (fs : List (Forgery (.simple relayDecode) relayDB)) : Solo (.simple relayDecode) :=
  (Solo.start ⟨"", "pay", "N", "", "T", ""⟩ 0 (Run.exec Forgery.relay (relayDB, ()) fs).1
    (Run.exec Forgery.relay (relayDB, ()) fs).2).exec (List.replicate 10 { now := 1 })

/-- One forged envelope with the outer id of the payment, and the payment is a duplicate. -/
theorem forged_envelope_blocks :
    (relayCall []).status? = some .settled ∧
      (relayCall [relayForgery "T"]).status? = some .duplicate := by
  decide +kernel

/-- Forged envelopes under other ids do no harm. -/
theorem relay_harmless_iff_other_ids :
    (relayCall [relayForgery "U", relayForgery "V"]).status? = some .settled := by
  have hopen : openEnvelope (.simple relayDecode) ⟨"", "pay", "N", "", "T", ""⟩ = .ok relaySigned :=
    rfl
  have hsettles : ((Solo.start (E := .simple relayDecode) ⟨"", "pay", "N", "", "T", ""⟩ 0 relayDB
      ()).exec (List.replicate 10 { now := 1 })).status? = some .settled := by
    decide +kernel
  have hspares : Run.Steps Forgery.relay (fun s f => f.Spares relaySigned.payload.txnID s)
      (relayDB, ()) [relayForgery "U", relayForgery "V"] := by
    decide +kernel
  obtain ⟨hstatus, -⟩ := (relay_harmless_iff (E := .simple relayDecode) relayDB ()
    [relayForgery "U", relayForgery "V"] _ 0 _ relaySigned hopen hsettles).mpr hspares
  exact hstatus.trans hsettles

end OfflinePay
