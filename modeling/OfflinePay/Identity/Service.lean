import OfflinePay.System.World

/-!
# Identity service

Reference: `internal/identity/service.go`.

A registered device is fully trusted and active; the public key is not parsed. Revoking a device is
the only way to change its status, and an unknown device is not an error. `Label.ByService` singles
out the moves of the system that the service makes: nobody else registers a device or changes one.
-/

namespace OfflinePay

open Tx Repository

namespace Identity

/-- The row that `RegisterDevice` inserts. -/
def newDevice (deviceID ownerID publicKey : String) (now : Time) : Device where
  deviceID := deviceID
  ownerID := ownerID
  publicKey := publicKey
  trustScore := 1
  status := .active
  createdAt := now
  revokedAt := none

/-- `RegisterDevice`. -/
def registerDevice (deviceID ownerID publicKey : String) (now : Time) : DBTx Device := do
  check (¬(deviceID = "" ∨ ownerID = "" ∨ publicKey = ""))
    ⟨"missing required registration fields", false⟩
  let dev := newDevice deviceID ownerID publicKey now
  createDevice dev
  pure dev

/-- `LookupDevice`. -/
def lookupDevice (db : DB) (deviceID : String) : Option Device := getDevice db deviceID

/-- The status that `RevokeDevice` sets. -/
def revokedStatus (compromised : Bool) : DeviceStatus :=
  if compromised then .compromised else .revoked

/-- `RevokeDevice`. -/
def revokeDevice (deviceID : String) (compromised : Bool) (now : Time) : DBTx Unit :=
  updateDeviceStatus deviceID (revokedStatus compromised) now

end Identity

/-- A device is registered or changed by the identity service only. -/
def Label.ByService : Label → Prop
  | .registerDevice dev _ =>
    (dev.deviceID ≠ "" ∧ dev.ownerID ≠ "" ∧ dev.publicKey ≠ "") ∧
      dev = Identity.newDevice dev.deviceID dev.ownerID dev.publicKey dev.createdAt
  | .updateDeviceStatus _ status _ _ => ∃ compromised, status = Identity.revokedStatus compromised
  | _ => True

namespace World

variable {E : Externals}

/-- A call of `RegisterDevice` is a move that the service makes, or changes nothing. -/
theorem registerDevice_eq_step (w : World E) (deviceID ownerID publicKey : String) (now : Time)
    (fault : Option GoError) :
    (withTx fault (Identity.registerDevice deviceID ownerID publicKey now) w.db).2 = w.db ∨
      (Label.registerDevice (Identity.newDevice deviceID ownerID publicKey now) fault).ByService ∧
        (withTx fault (Identity.registerDevice deviceID ownerID publicKey now) w.db).2
          = (w.step (.registerDevice (Identity.newDevice deviceID ownerID publicKey now) fault)).db := by
  obtain hsame | ⟨rfl, dev, hok⟩ :=
    withTx_state fault (Identity.registerDevice deviceID ownerID publicKey now) w.db
  · exact .inl hsame
  · refine .inr ?_
    generalize (withTx none (Identity.registerDevice deviceID ownerID publicKey now) w.db).2 = db' at hok ⊢
    simp only [Identity.registerDevice, bind_ok, check_ok, pure_ok] at hok
    obtain ⟨_, _, ⟨hfields, rfl⟩, _, db₁, hcreate, -, rfl⟩ := hok
    have hstep : withTx none (createDevice (Identity.newDevice deviceID ownerID publicKey now)) w.db
        = (.ok (), db₁) := withTx_ok.mpr ⟨rfl, hcreate⟩
    refine ⟨⟨⟨fun h => ?_, fun h => ?_, fun h => ?_⟩, rfl⟩, ?_⟩
    · exact hfields (.inl h)
    · exact hfields (.inr (.inl h))
    · exact hfields (.inr (.inr h))
    · simp only [step, runOther, hstep]
      rfl

end World

end OfflinePay
