import OfflinePay.Settlement.Solo

/-!
# What a call has checked

By the time a `Settle` call has an order, the envelope was opened and a registered device that is
neither revoked nor compromised signed the payload. `Vetted` is the invariant that carries this
through the steps of a call, and `Vetted.exec` has it for every call that runs alone.
-/

namespace OfflinePay

open Settlement Repository

variable (E : Externals)

/-- The payload's signature verifies under the public key of the device. -/
def Device.verifies (device : Device) (signed : SignedPaymentIntent) : Bool :=
  match E.parsePEMToPublicKey device.publicKey with
  | .ok key => E.verify key (getCanonicalPayloadString signed.payload) signed.deviceSignature
  | .error _ => false

/-- The device is neither revoked nor compromised and signed the payload. -/
def Device.Signed (device : Device) (signed : SignedPaymentIntent) : Prop :=
  device.barred = false ∧ device.verifies E signed = true

instance (device : Device) (signed : SignedPaymentIntent) : Decidable (device.Signed E signed) :=
  inferInstanceAs (Decidable (_ ∧ _))

variable {E}

/-- A device that passed the checks signed the payload. -/
theorem findDevice_ok {signed : SignedPaymentIntent} {input : Input} {db : DB} {device : Device}
    (h : findDevice E signed input db = .ok device) :
    db.devices.find? signed.payload.deviceID = some device ∧ device.Signed E signed := by
  unfold findDevice at h
  split at h
  · exact absurd h (by simp)
  · exact absurd h (by simp)
  · next dev _ hfind =>
    unfold checkDevice at h
    split at h
    · exact absurd h (by simp)
    · next hbarred =>
      split at h
      · exact absurd h (by simp)
      · next key hkey =>
        split_ifs at h with hverify
        obtain rfl := Except.ok.inj h
        refine ⟨hfind, by simpa using hbarred, ?_⟩
        rw [Device.verifies, hkey]
        simpa using hverify

/-- The payload of the envelope was signed by the device it names. -/
def Vouched (E : Externals) (db : DB) (env : EncryptedEnvelope) (payload : PaymentIntentPayload) :
    Prop :=
  ∃ signed device, openEnvelope E env = .ok signed ∧ signed.payload = payload ∧
    db.devices.find? signed.payload.deviceID = some device ∧ device.Signed E signed

/-- What a call has established about its payload by the time it gets to a step. -/
structure Vetted (E : Externals) (db : DB) (env : EncryptedEnvelope) (call : SettleCall) :
    Prop where
  env_eq : call.env = env
  opened : ∀ signed, call.pc = .attestation signed ∨ call.pc = .device signed →
    openEnvelope E env = .ok signed
  signed : ∀ signed device, call.pc = .token signed device → Vouched E db env signed.payload
  order : ∀ o ∈ call.order, o.env = env ∧ Vouched E db env o.payload

/-- A call past validation keeps what it has established. -/
theorem Vetted.past {db : DB} {env : EncryptedEnvelope} {call call' : SettleCall}
    (hv : Vetted E db env call) (henv : call'.env = call.env) (horder : call'.order = call.order)
    (hpc : ∀ signed, call'.pc ≠ .attestation signed ∧ call'.pc ≠ .device signed ∧
      ∀ device, call'.pc ≠ .token signed device) : Vetted E db env call' where
  env_eq := henv.trans hv.env_eq
  opened signed h := h.elim (fun h => absurd h (hpc signed).1) fun h => absurd h (hpc signed).2.1
  signed signed device h := absurd h ((hpc signed).2.2 device)
  order o ho := hv.order o (horder ▸ ho)

theorem Vetted.step {db₀ db : DB} {env : EncryptedEnvelope} {call : SettleCall}
    (hv : Vetted E db₀ env call) (hdb : db₀.SameDevices db) (input : Input) (risk : E.RiskState) :
    Vetted E db₀ env (call.step E input db risk).1 := by
  unfold SettleCall.step
  match hpc : call.pc with
  | .idempotency =>
    dsimp only
    split
    · exact hv.past rfl rfl (by simp)
    · split
      · exact hv.past rfl rfl (by simp)
      · next signed hopen => exact ⟨hv.env_eq, by simp [← hv.env_eq, hopen], by simp, hv.order⟩
  | .attestation signed =>
    dsimp only
    split
    · exact hv.past rfl rfl (by simp)
    · exact ⟨hv.env_eq, by simp [hv.opened signed (.inl hpc)], by simp, hv.order⟩
  | .device signed =>
    dsimp only
    split
    · exact hv.past rfl rfl (by simp)
    · next device hfind =>
      refine ⟨hv.env_eq, by simp, ?_, hv.order⟩
      rintro signed' device' ⟨⟩
      obtain ⟨hdev, hsigned⟩ := findDevice_ok hfind
      exact ⟨signed, device, hv.opened signed (.inr hpc), rfl, hdb ▸ hdev, hsigned⟩
  | .token signed device =>
    dsimp only
    split
    · exact hv.past rfl rfl (by simp)
    · next o hfind =>
      split
      · exact hv.past rfl rfl (by simp)
      · refine ⟨hv.env_eq, by simp, by simp, ?_⟩
        rintro o' ⟨⟩
        obtain ⟨henv, -, hpayload, -⟩ := SettleCall.findToken_ok hfind
        rw [henv, hpayload]
        exact ⟨hv.env_eq, hv.signed signed device hpc⟩
  | .saga =>
    dsimp only
    split
    · exact hv.past rfl rfl (by simp)
    · next o ho =>
      refine hv.past rfl rfl fun signed => ?_
      unfold SettleCall.runSaga
      dsimp only
      split <;> simp
  | .saveIntent f recover =>
    rw [SettleCall.write_call]
    exact hv.past rfl rfl (by simp)
  | .saveOutbox f recover =>
    rw [SettleCall.write_call]
    exact hv.past rfl rfl (by simp)
  | .saveEvent f recover =>
    rw [SettleCall.write_call]
    refine hv.past rfl rfl ?_
    cases recover <;> simp [SettleCall.afterSave]
  | .lookup f =>
    dsimp only
    split <;> exact hv.past rfl rfl (by simp)
  | .record f current =>
    rw [SettleCall.write_call]
    exact hv.past rfl rfl (by simp)
  | .returned status err => exact hv.past rfl rfl (by simp)

/-- A call that runs alone vets its payload against the devices it started from. -/
theorem Vetted.exec (env : EncryptedEnvelope) (hopCount : ℤ) (db : DB) (risk : E.RiskState)
    (inputs : List Input) :
    Vetted E db env ((Solo.start env hopCount db risk).exec inputs).call := by
  refine (Solo.invariant (I := fun s => db.SameDevices s.db ∧ Vetted E db env s.call) ?_ ?_ inputs).2
  · rintro s input ⟨hdb, hv⟩
    exact ⟨Eq.trans (SettleCall.step_devices s.call input s.db s.risk) hdb, hv.step hdb input s.risk⟩
  · exact ⟨rfl, rfl, by simp [Solo.start], by simp [Solo.start], by simp [Solo.start]⟩

end OfflinePay
