import OfflinePay.Settlement.Vetting
import OfflinePay.System.World

/-!
# Whose device may spend

`Settle` looks the device up by the payload's `DeviceID` and the token by its `TokenID`, and
compares the token's owner with the payload's `SenderID`. The device's owner is never compared with
anything. So a payment that commits was signed by a registered and unbarred device, which need not
be a device of the sender.
-/

namespace OfflinePay

open Settlement Repository

variable (E : Externals)

/-- Some registered device of the sender signed the payload. -/
def DB.Authorises (db : DB) (signed : SignedPaymentIntent) : Prop :=
  ∃ device ∈ db.devices.rows, device.ownerID = signed.payload.senderID ∧ device.Signed E signed

instance (db : DB) (signed : SignedPaymentIntent) : Decidable (db.Authorises E signed) :=
  inferInstanceAs (Decidable (∃ device ∈ db.devices.rows, _ ∧ _))

/-- The device that the payload names is a device of the sender, or else another device of the
sender signed the payload as well. -/
def DB.SendersDevice (db : DB) (signed : SignedPaymentIntent) : Prop :=
  (∃ device, db.devices.find? signed.payload.deviceID = some device ∧
      device.ownerID = signed.payload.senderID) ∨
    ∃ device ∈ db.devices.rows, device.deviceID ≠ signed.payload.deviceID ∧
      device.ownerID = signed.payload.senderID ∧ device.Signed E signed

variable {E}

/-- Once the named device is known to have signed, authorisation is a matter of who owns it. -/
theorem authorises_iff {db : DB} {signed : SignedPaymentIntent} {device : Device}
    (hfind : db.devices.find? signed.payload.deviceID = some device)
    (hsigned : device.Signed E signed) : db.Authorises E signed ↔ db.SendersDevice E signed := by
  constructor
  · rintro ⟨dev, hmem, howner, hdev⟩
    by_cases hid : dev.deviceID = signed.payload.deviceID
    · exact .inl ⟨dev, hid ▸ Table.find?_of_mem hmem, howner⟩
    · exact .inr ⟨dev, hmem, hid, howner, hdev⟩
  · rintro (⟨dev, hdev, howner⟩ | ⟨dev, hmem, -, howner, hdev⟩)
    · obtain rfl : device = dev := Option.some.inj (hfind.symm.trans hdev)
      exact ⟨device, Table.mem_of_find? hfind, howner, hsigned⟩
    · exact ⟨dev, hmem, howner, hdev⟩

/-- For every database and every envelope: if a call commits `LEDGER_COMMIT`, the device that the
payload names is registered, unbarred and signed the payload; and some registered device of the
sender signed it exactly if that device belongs to the sender, or another one of the sender signed
as well. -/
theorem spender_device_owned_iff (db : DB) (risk : E.RiskState) (env : EncryptedEnvelope)
    (hopCount : ℤ) (inputs : List Input) (input : Input) (o : Order)
    (h : ((Solo.start env hopCount db risk).exec inputs).commits input
      = some (.phase o (.action 2))) :
    ∃ signed device, openEnvelope E env = .ok signed ∧ signed.payload = o.payload ∧
      db.devices.find? signed.payload.deviceID = some device ∧ device.Signed E signed ∧
      (db.Authorises E signed ↔ db.SendersDevice E signed) := by
  have hv := Vetted.exec env hopCount db risk inputs
  have hmoved := (Solo.moved (Solo.wf_exec (Solo.wf_start env hopCount db risk) inputs) input).1
  rw [h] at hmoved
  cases hmoved with
  | quiet hwrote => exact absurd hwrote (by simp)
  | phase horder =>
    obtain ⟨-, signed, device, hopen, hpayload, hfind, hsigned⟩ := hv.order o horder
    exact ⟨signed, device, hopen, hpayload, hfind, hsigned, authorises_iff hfind hsigned⟩

/-! ## A device of somebody else -/

/-- Payments of `alice` to `bob`, one from `alice`'s phone, one from `mallory`'s tablet. -/
def deviceDecode : String → Option SignedPaymentIntent
  | "phone" => some (payload "phone" |>.signedBy "alice-key")
  | "tablet" => some (payload "tablet" |>.signedBy "mallory-key")
  | _ => none
where
  payload (deviceID : String) : PaymentIntentPayload :=
    ⟨"T", "alice", "bob", 30, "USD", "N", 1000000000000, deviceID, "K"⟩

/-- `alice` holds a token, and `mallory` registered a tablet. -/
def deviceDB : DB :=
  ((World.start (E := .simple deviceDecode) ()).exec (Label.setup ["K"]
    ++ [.registerDevice ⟨"tablet", "mallory", "mallory-key", 1, .active, 0, none⟩ none])).db

/-- A call on `deviceDB` that has done all steps before `LEDGER_COMMIT`. -/
def deviceCall (ciphertext : String) : Solo (.simple deviceDecode) :=
  (Solo.start ⟨"", ciphertext, "N", "", "T", ""⟩ 0 deviceDB ()).exec (List.replicate 7 { now := 1 })

/-- `mallory`'s tablet spends `alice`'s token. -/
theorem foreign_device_spends :
    (∃ o ∈ (deviceCall "tablet").call.order, o.payload.senderID = "alice" ∧
      (deviceCall "tablet").commits { now := 1 } = some (.phase o (.action 2))) ∧
    openEnvelope (.simple deviceDecode) ⟨"", "tablet", "N", "", "T", ""⟩
      = .ok (deviceDecode.payload "tablet" |>.signedBy "mallory-key") ∧
    ¬deviceDB.Authorises (.simple deviceDecode)
      (deviceDecode.payload "tablet" |>.signedBy "mallory-key") := by
  refine ⟨by decide +kernel, rfl, by decide +kernel⟩

/-- `alice`'s own phone spends her token, and is found to be hers. -/
theorem spender_device_owned_iff_phone :
    ∃ o signed device, (deviceCall "phone").commits { now := 1 } = some (.phase o (.action 2)) ∧
      signed.payload = o.payload ∧
      deviceDB.devices.find? signed.payload.deviceID = some device ∧
      (deviceDB.Authorises (.simple deviceDecode) signed ↔
        deviceDB.SendersDevice (.simple deviceDecode) signed) := by
  have hcommit : ∃ o ∈ (deviceCall "phone").call.order,
      (deviceCall "phone").commits { now := 1 } = some (.phase o (.action 2)) := by
    decide +kernel
  unfold deviceCall at hcommit ⊢
  obtain ⟨o, -, hcommit⟩ := hcommit
  obtain ⟨signed, device, -, hpayload, hfind, -, hiff⟩ :=
    spender_device_owned_iff _ _ _ _ _ _ o hcommit
  exact ⟨o, signed, device, hcommit, hpayload, hfind, hiff⟩

end OfflinePay
