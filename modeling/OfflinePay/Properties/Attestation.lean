import OfflinePay.Settlement.Shared
import OfflinePay.System.World

/-!
# Untrusted devices

Reference: `internal/settlement/service.go`, step 4 of `Service.Settle`; ADR-010.

A payment from a device whose attestation is `UNTRUSTED` is refused before anything is written for
it, whatever reads and writes fail, with one exception: if it is the read of the attestation that
fails, the error is dropped and the check is passed.
-/

namespace OfflinePay

open Settlement Repository

variable {E : Externals}

/-- The device of the envelope's payload is attested as `UNTRUSTED`. -/
def DB.Untrusted (E : Externals) (db : DB) (env : EncryptedEnvelope) : Prop :=
  match openEnvelope E env with
  | .error _ => True
  | .ok signed =>
    ∃ att ∈ db.deviceAttestations.find? signed.payload.deviceID, att.trustLevel = "UNTRUSTED"

instance (db : DB) (env : EncryptedEnvelope) : Decidable (db.Untrusted E env) := by
  unfold DB.Untrusted
  split <;> infer_instance

namespace Settlement

/-- The check refuses an untrusted device exactly if it reads the attestation. -/
theorem checkAttestation_untrusted {payload : PaymentIntentPayload} {input : Input} {db : DB}
    (h : ∃ att ∈ db.deviceAttestations.find? payload.deviceID, att.trustLevel = "UNTRUSTED") :
    checkAttestation payload input db = .ok () ↔ input.readFault ≠ none := by
  obtain ⟨att, hatt, huntrusted⟩ := h
  rw [checkAttestation, getDeviceAttestation, Option.mem_def.mp hatt]
  cases hfault : input.readFault with
  | none => simp [huntrusted]
  | some e => simp

/-- A step that commits nothing leaves the database alone. -/
theorem SettleCall.Moved.eq_of_none {input : Input} {call call' : SettleCall} {db db' : DB}
    (h : Moved input call db call' db' none) : db' = db := by
  cases h with
  | quiet _ _ hnone => exact hnone rfl
  | begin hdb => exact hdb

namespace Shared

/-- Other operations leave the device untrusted, and the read of its attestation does not fail. -/
def AttestationRead (s : Shared E) : Label E → Prop
  | .other db _ => db.Untrusted E s.call.env
  | .step input =>
    match s.call.pc with
    | .attestation _ => input.readFault = none
    | _ => True

instance (s : Shared E) : ∀ label, Decidable (s.AttestationRead label)
  | .other db _ => inferInstanceAs (Decidable (db.Untrusted E s.call.env))
  | .step input => by
    unfold AttestationRead
    dsimp only
    split <;> infer_instance

/-- The call of an untrusted device: it has not got to the check yet, or it is refused. -/
structure Barred (s : Shared E) : Prop where
  wf : s.call.Wf
  opened : s.call.Opened E
  order : s.call.order = none
  pending : s.call.verdict? = none →
    (s.call.pc = .idempotency ∨ ∃ signed, s.call.pc = .attestation signed) ∧
      s.db.Untrusted E s.call.env

theorem Barred.status {s : Shared E} (h : s.Barred) : s.status? ≠ some .settled := by
  intro hstatus
  have hwf := h.wf
  unfold Solo.status? at hstatus
  split at hstatus
  · next status err hpc =>
    obtain rfl := Option.some.inj hstatus
    rw [SettleCall.Wf, hpc] at hwf
    exact hwf.1 h.order
  · cases hstatus

/-- At the check the call is refused. -/
theorem Barred.check {s : Shared E} (h : s.Barred) {signed : SignedPaymentIntent} {input : Input}
    (hpc : s.call.pc = .attestation signed) (hread : input.readFault = none) :
    ∃ f, (s.move (.step input)).call = { s.call with pc := .saveIntent f false } := by
  have hnone : s.call.verdict? = none := by rw [SettleCall.verdict?, hpc]
  have hrow := (h.pending hnone).2
  rw [DB.Untrusted, h.opened.signed signed (by rw [hpc]; rfl)] at hrow
  cases hcheck : checkAttestation signed.payload input s.db with
  | ok u => exact absurd hread ((checkAttestation_untrusted hrow).mp hcheck)
  | error f =>
    refine ⟨f, ?_⟩
    change (s.call.step E input s.db s.risk).1 = _
    simp only [SettleCall.step, hpc, hcheck]

theorem Barred.order_step {s : Shared E} (h : s.Barred) (input : Input) :
    (s.move (.step input)).call.order = none := by
  have hwent := went h.wf input
  by_cases hverdict : s.call.verdict? = none
  · generalize (s.move (.step input)).call = call' at hwent ⊢
    generalize s.commits input = wrote at hwent
    cases hwent with
    | begun hpc =>
      obtain ⟨hidem | ⟨_, hatt⟩, -⟩ := h.pending hverdict
      · exact absurd (hidem.symm.trans hpc) nofun
      · exact absurd (hatt.symm.trans hpc) nofun
    | saga _ horder => exact absurd (h.order.symm.trans horder) nofun
    | _ => exact h.order
  · exact hwent.order_eq_none h.order hverdict

/-- Before the check the call decides, or goes to the check and leaves the database alone. -/
theorem Barred.pending_step {s : Shared E} (h : s.Barred) {input : Input}
    (hread : s.AttestationRead (.step input))
    (hnone : (s.move (.step input)).call.verdict? = none) :
    (∃ signed, (s.move (.step input)).call = { s.call with pc := .attestation signed }) ∧
      (s.move (.step input)).db = s.db ∧ s.db.Untrusted E s.call.env := by
  have hwent := went h.wf input
  obtain ⟨hpc, huntrusted⟩ := h.pending (hwent.undecided hnone)
  obtain hidem | ⟨signed, hatt⟩ := hpc
  · have hmoved := (Solo.moved h.wf input).1
    change SettleCall.Moved input s.call s.db (s.move (.step input)).call (s.move (.step input)).db
      (s.commits input) at hmoved
    generalize (s.move (.step input)).call = call' at hwent hmoved hnone ⊢
    generalize s.commits input = wrote at hwent hmoved
    cases hwent with
    | @opened signed => exact ⟨⟨signed, rfl⟩, hmoved.eq_of_none, huntrusted⟩
    | processed | tokenRefused | refused => cases hnone
    | attested hpc | deviceFound hpc | begun hpc | saga hpc =>
      exact absurd (hidem.symm.trans hpc) nofun
    | reported _ _ hsome => exact absurd (hnone.symm.trans hsome) nofun
  · simp only [AttestationRead, hatt] at hread
    obtain ⟨f, hcall⟩ := h.check hatt hread
    rw [hcall] at hnone
    cases hnone

theorem Barred.step {s : Shared E} (h : s.Barred) {input : Input}
    (hread : s.AttestationRead (.step input)) : (s.move (.step input)).Barred where
  wf := (Solo.moved h.wf input).2
  opened := h.opened.went (went h.wf input)
  order := h.order_step input
  pending hnone := by
    obtain ⟨⟨signed, hcall⟩, hdb, huntrusted⟩ := h.pending_step hread hnone
    rw [hcall, hdb]
    exact ⟨.inr ⟨signed, rfl⟩, huntrusted⟩

theorem Barred.move {s : Shared E} (h : s.Barred) :
    ∀ label, s.AttestationRead label → (s.move label).Barred
  | .step _, hread => h.step hread
  | .other _ _, hrow => ⟨h.wf, h.opened, h.order, fun hnone => ⟨(h.pending hnone).1, hrow⟩⟩

theorem barred_start {env : EncryptedEnvelope} {db : DB} (huntrusted : db.Untrusted E env)
    (hopCount : ℤ) (risk : E.RiskState) : (start env hopCount db risk).Barred where
  wf := Solo.wf_start env hopCount db risk
  opened := ⟨by rintro _ ⟨⟩, by rintro _ ⟨⟩⟩
  order := rfl
  pending _ := ⟨.inl rfl, huntrusted⟩

/-- For every envelope, every database in which the device of its payload is untrusted, and whatever
fails and happens in between: as long as the device stays untrusted and the read of its attestation
does not fail, the call does not return `SETTLED`, and no step of it changes a balance. -/
theorem untrusted_refused (env : EncryptedEnvelope) (hopCount : ℤ) (db : DB) (risk : E.RiskState)
    (labels : List (Label E)) (huntrusted : db.Untrusted E env)
    (hsteps : Run.Steps Shared.move AttestationRead (start env hopCount db risk) labels) :
    ((start env hopCount db risk).exec labels).status? ≠ some .settled ∧
      ∀ before input after, labels = before ++ .step input :: after →
        ((start env hopCount db risk).exec (before ++ [.step input])).db.accountBalances
          = ((start env hopCount db risk).exec before).db.accountBalances := by
  have hbarred : ∀ labels, Run.Steps Shared.move AttestationRead (start env hopCount db risk) labels →
      ((start env hopCount db risk).exec labels).Barred := fun labels hsteps =>
    Run.exec_invariant (fun _ label h hread => h.move label hread)
      (barred_start huntrusted hopCount risk) hsteps
  refine ⟨(hbarred labels hsteps).status, ?_⟩
  rintro before input after rfl
  have hbefore := hbarred before (Run.steps_append.mp hsteps).1
  rw [exec, Run.exec_append]
  exact ((Solo.moved hbefore.wf input).1.quiet_of_order hbefore.order).accountBalances

end Shared

end Settlement

/-! ## An attestation that cannot be read -/

/-- A payment of `alice` to `bob` from her phone. -/
def untrustedDecode : String → Option SignedPaymentIntent
  | "pay" => some (PaymentIntentPayload.signedBy
      ⟨"T", "alice", "bob", 30, "USD", "N", 1000000000000, "phone", "K"⟩ "alice-key")
  | _ => none

/-- `alice` holds a token, and her phone is untrusted. -/
def untrustedDB : DB :=
  ((World.start (E := .simple untrustedDecode) ()).exec (Label.setup ["K"]
    ++ [.attestDevice ⟨"phone", "TPM", "", "UNTRUSTED", 0⟩ none])).db

/-- The payment, where the read of the attestation fails with this error. -/
def untrustedRun (readFault : Option GoError) : Settlement.Shared (.simple untrustedDecode) :=
  (Settlement.Shared.start ⟨"", "pay", "N", "", "T", ""⟩ 0 untrustedDB ()).exec
    (.step { now := 1 } :: .step { now := 1, readFault } :: List.replicate 10 (.step { now := 1 }))

/-- Without a failure the payment is refused. -/
theorem untrusted_refused_read : (untrustedRun none).status? ≠ some .settled :=
  (Settlement.Shared.untrusted_refused _ _ _ _ _ (by decide +kernel) (by decide +kernel)).1

/-- If the attestation cannot be read, the payment of the untrusted device is settled. -/
theorem unread_settled :
    untrustedDB.Untrusted (.simple untrustedDecode) ⟨"", "pay", "N", "", "T", ""⟩ ∧
      (untrustedRun (some ⟨"driver: bad connection", false⟩)).status? = some .settled ∧
      (untrustedRun (some ⟨"driver: bad connection", false⟩)).db.accountBalances.find? "bob"
        ≠ untrustedDB.accountBalances.find? "bob" := by
  decide +kernel

end OfflinePay
