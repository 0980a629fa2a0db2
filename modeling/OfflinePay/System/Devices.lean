import OfflinePay.Identity.Service
import OfflinePay.Properties.Limits

/-!
# Devices over whole runs

`step_devices` says what a move of the system can do to the device table: nothing, insert a
registered or an automatic device under a free id, or set the status of one device. What holds of
every device, and what has become of one of them, follows by cases.
-/

namespace OfflinePay

open Tx Repository Settlement

variable {E : Externals}

/-- What a move does to the devices. -/
inductive DevicesMoved (E : Externals) (db db' : DB) : Label → Prop where
  | same {l} (h : db'.devices = db.devices) : DevicesMoved E db db' l
  | registered {dev fault} (free : db.devices.find? dev.deviceID = none)
      (h : db'.devices = db.devices.insert dev) : DevicesMoved E db db' (.registerDevice dev fault)
  | automatic {ownerID value duration tokenID faults now}
      (looks : Token.LooksForDevice E ownerID value duration tokenID faults now db)
      (adds : Token.AddsDevice faults ownerID db)
      (h : db'.devices = db.devices.insert (Token.autoDevice ownerID now)) :
      DevicesMoved E db db' (.issueToken ownerID value duration tokenID faults now)
  | status {deviceID status fault now dev} (revokedAt : Option Time)
      (found : db.devices.find? deviceID = some dev)
      (h : db'.devices = db.devices.set { dev with status, revokedAt }) :
      DevicesMoved E db db' (.updateDeviceStatus deviceID status fault now)

namespace World

variable {w : World E} {l : Label}

theorem runOther_db (w : World E) (fault : Option GoError) (body : DBTx Unit) :
    (w.runOther fault body).db = w.db ∨
      ∃ db', body w.db = .ok ((), db') ∧ (w.runOther fault body).db = db' := by
  unfold runOther
  split
  · next db' htx => exact .inr ⟨db', (withTx_ok.mp htx).2, rfl⟩
  · exact .inl rfl

theorem releaseExpired_sameDevices (tok : OfflineToken) (now : Time) :
    Keeps DB.SameDevices (Token.releaseExpired tok now) := by
  refine keeps_bind (keeps_select _ _) fun locked => ?_
  split
  · exact keeps_pure _
  · exact keeps_bind (keeps_select _ _) fun _ => keeps_bind (keeps_check _ _) fun _ =>
      keeps_bind (sameDevices.updateBalance _ _ _ _) fun _ =>
      keeps_bind (sameDevices.updateToken _ _ _) fun _ =>
      keeps_bind (sameDevices.createLedgerEntry _ _ _ _ _ _) fun _ =>
      keeps_bind (sameDevices.createOutboxEvent _ _ _) fun _ => keeps_pure _

theorem step_devices (w : World E) (l : Label) : DevicesMoved E w.db (w.step l).db l := by
  cases l with
  | createAccount accountID initialBalance fault now =>
    refine .same ?_
    simp only [step, createAccount]
    split
    · next db' htx =>
      have hk := keeps_createAccount (R := DB.SameDevices) (fun _ _ => rfl) _ _ _ _ _ _
        (withTx_ok.mp htx).2
      split <;> exact hk
    · rfl
  | registerDevice dev fault =>
    obtain hsame | ⟨db', hok, hdb⟩ := w.runOther_db fault (createDevice dev)
    · exact .same (congrArg DB.devices hsame)
    · obtain ⟨-, hfree, rfl⟩ := createDevice_ok.mp hok
      exact .registered hfree (congrArg DB.devices hdb)
  | updateDeviceStatus deviceID status fault now =>
    obtain hsame | ⟨db', hok, hdb⟩ :=
      w.runOther_db fault (Repository.updateDeviceStatus deviceID status now)
    · exact .same (congrArg DB.devices hsame)
    · unfold Repository.updateDeviceStatus at hok
      rw [write_ok] at hok
      cases hfound : w.db.devices.find? deviceID with
      | none =>
        rw [hfound] at hok
        exact .same (congrArg DB.devices (hdb.trans hok))
      | some dev =>
        rw [hfound] at hok
        exact .status _ hfound (congrArg DB.devices (hdb.trans hok))
  | attestDevice att fault =>
    obtain hsame | ⟨db', hok, hdb⟩ := w.runOther_db fault (createDeviceAttestation att)
    · exact .same (congrArg DB.devices hsame)
    · have hk := keeps_createDeviceAttestation (R := DB.SameDevices) (fun _ _ => rfl) att _ _ _ hok
      exact .same ((congrArg DB.devices hdb).trans hk)
  | issueToken ownerID value duration tokenID faults now =>
    obtain ⟨⟨hlooks, hadds⟩, hdevices⟩ | ⟨-, hdevices⟩ :=
      Token.issueToken_devices E ownerID value duration tokenID faults now w.db
    · exact .automatic hlooks hadds (by rw [db_issueToken, hdevices])
    · exact .same (by rw [db_issueToken, hdevices])
  | startSettle env hopCount => exact .same rfl
  | settle i input =>
    refine .same ?_
    simp only [step, settle]
    split
    · rfl
    · next call hcall =>
      have hk := call.step_devices input w.db w.risk
      split <;> exact hk
  | startRelease now => exact .same rfl
  | release j fault now =>
    refine .same ?_
    simp only [step, release]
    split
    · rfl
    · rfl
    · next tok rest hpass =>
      split
      · next db' htx => exact releaseExpired_sameDevices tok now _ _ _ (withTx_ok.mp htx).2
      · next db' htx => exact releaseExpired_sameDevices tok now _ _ _ (withTx_ok.mp htx).2
      · rfl
  | startScan now => exact .same rfl
  | scan j fault now =>
    refine .same ?_
    simp only [step, scan]
    split
    · rfl
    · rfl
    · split
      · split
        · next db' htx =>
          exact sameDevices.updatePaymentIntentStatus _ _ _ _ _ _ _ (withTx_ok.mp htx).2
        · rfl
      · rfl

end World

/-! ## All devices, and one of them -/

/-- What holds of every device and of those that are added, and does not depend on the status, holds
after the move. -/
theorem DevicesMoved.forall {P : Device → Prop} {db db' : DB} {l : Label}
    (h : DevicesMoved E db db' l) (hdb : ∀ dev ∈ db.devices.rows, P dev)
    (hstatus : ∀ dev status revokedAt, P dev → P { dev with status, revokedAt })
    (hregister : ∀ dev fault, l = .registerDevice dev fault → P dev)
    (hauto : ∀ ownerID now, P (Token.autoDevice ownerID now)) : ∀ dev ∈ db'.devices.rows, P dev := by
  intro dev hdev
  cases h with
  | same h => exact hdb dev (h ▸ hdev)
  | registered free h =>
    rw [h] at hdev
    rcases (Table.mem_insert free).mp hdev with hold | rfl
    · exact hdb dev hold
    · exact hregister _ _ rfl
  | automatic looks adds h =>
    rw [h] at hdev
    rcases (Table.mem_insert adds.free).mp hdev with hold | rfl
    · exact hdb dev hold
    · exact hauto _ _
  | status revokedAt found h =>
    rw [h] at hdev
    obtain rfl | ⟨hold, -⟩ := Table.mem_set hdev
    · exact hstatus _ _ _ (hdb _ (Table.mem_of_find? found))
    · exact hdb dev hold

/-- The device is registered, and revoked or compromised. -/
def DB.Barred (db : DB) (deviceID : String) : Prop :=
  ∃ dev, db.devices.find? deviceID = some dev ∧ dev.barred = true

/-- The identity service never lifts a revocation. -/
theorem DevicesMoved.barred {db db' : DB} {l : Label} {deviceID : String}
    (h : DevicesMoved E db db' l) (hservice : l.ByService) (hbarred : db.Barred deviceID) :
    db'.Barred deviceID := by
  obtain ⟨dev, hfind, hdev⟩ := hbarred
  cases h with
  | same h => exact ⟨dev, by rw [h, hfind], hdev⟩
  | registered free h => exact ⟨dev, by rw [h, Table.find?_insert_of_find? hfind], hdev⟩
  | automatic looks adds h => exact ⟨dev, by rw [h, Table.find?_insert_of_find? hfind], hdev⟩
  | @status deviceID' status fault now dev' revokedAt found h =>
    by_cases hid : deviceID' = deviceID
    · subst hid
      obtain rfl := Option.some.inj (hfind.symm.trans found)
      obtain ⟨compromised, rfl⟩ := hservice
      have hkey : dev.deviceID = deviceID' := Table.key_of_find? hfind
      refine ⟨{ dev with status := Identity.revokedStatus compromised, revokedAt }, ?_, ?_⟩
      · rw [h, ← hkey]
        rw [← hkey] at hfind
        exact Table.find?_set_self hfind
      · cases compromised <;> rfl
    · have hkey : dev'.deviceID = deviceID' := Table.key_of_find? found
      exact ⟨dev, by rw [h, Table.find?_set_ne _ (by rwa [← hkey] at hid), hfind], hdev⟩

end OfflinePay
