import OfflinePay.Properties.Issuance

/-!
# The spending limit of an owner without a device

Reference: `internal/token/service.go`, `ComputeOfflineCreditLimit` and `IssueToken`.

An owner without a device may have tokens of up to 200 units. But the first `IssueToken` for such an
owner inserts an automatic device that is active and fully trusted, and from then on the limit is
5000. The same happens to an owner with devices of little trust when the lookup of them fails.
`limit_kept_iff` says that nothing else raises a limit.
-/

namespace OfflinePay

open Tx Repository

variable {E : Externals}

namespace Token

/-! ## The limit -/

/-- The best trust score of an active device. -/
def bestTrustScore (devices : List Device) : ℚ :=
  (devices.filter (·.status == .active)).foldl
    (fun best dev => if best < dev.trustScore then dev.trustScore else best) 0

theorem foldl_trustScore_lt_iff {c : ℚ} (devices : List Device) (best : ℚ) :
    devices.foldl (fun best dev => if best < dev.trustScore then dev.trustScore else best) best < c
      ↔ best < c ∧ ∀ dev ∈ devices, dev.trustScore < c := by
  induction devices generalizing best with
  | nil => simp
  | cons dev devices ih =>
    rw [List.foldl_cons, ih, List.forall_mem_cons, ← and_assoc]
    refine and_congr_left fun _ => ?_
    split
    · next hlt => exact ⟨fun h => ⟨hlt.trans h, h⟩, And.right⟩
    · next hle => exact ⟨fun h => ⟨h, (not_lt.mp hle).trans_lt h⟩, And.left⟩

/-- No active device is fully trusted. -/
def Untrusted (devices : List Device) : Prop :=
  ∀ dev ∈ devices, dev.status = .active → dev.trustScore < 1

theorem bestTrustScore_lt_iff (devices : List Device) :
    bestTrustScore devices < 1 ↔ Untrusted devices := by
  rw [bestTrustScore, foldl_trustScore_lt_iff, and_iff_right (by norm_num)]
  simp [Untrusted]

variable {ownerID : String} {now : Time} {devices : List Device}

/-- With the automatic device among the active ones. -/
theorem bestTrustScore_append :
    bestTrustScore (devices ++ [autoDevice ownerID now])
      = if bestTrustScore devices < 1 then 1 else bestTrustScore devices := by
  rw [bestTrustScore, List.filter_append, List.foldl_append]
  rfl

/-- The limit of an owner with an active device. -/
theorem limit_of_active {dev : Device} (hdev : dev ∈ devices) (hactive : dev.status = .active) :
    computeOfflineCreditLimit E devices = if E.creditLimit (bestTrustScore devices) < 0 then 0
      else E.creditLimit (bestTrustScore devices) := by
  have hmem : dev ∈ devices.filter (·.status == .active) := by simp [hdev, hactive]
  have hdevices : devices.isEmpty = false := List.isEmpty_eq_false_iff_exists_mem.mpr ⟨dev, hdev⟩
  have hsome : (devices.filter (·.status == .active)).isEmpty = false :=
    List.isEmpty_eq_false_iff_exists_mem.mpr ⟨dev, hmem⟩
  simp only [computeOfflineCreditLimit, hdevices, hsome, Bool.and_false, Bool.false_eq_true,
    if_false]
  rfl

theorem limit_append_autoDevice : computeOfflineCreditLimit E (devices ++ [autoDevice ownerID now])
    = if E.creditLimit (bestTrustScore (devices ++ [autoDevice ownerID now])) < 0 then 0
      else E.creditLimit (bestTrustScore (devices ++ [autoDevice ownerID now])) := by
  have hmem : autoDevice ownerID now ∈ devices ++ [autoDevice ownerID now] := by simp
  exact limit_of_active hmem rfl

/-- If no device is fully trusted, the automatic device makes the limit 5000. -/
theorem limit_of_untrusted (hE : E.creditLimit 1 = 5000) (h : Untrusted devices) :
    computeOfflineCreditLimit E (devices ++ [autoDevice ownerID now]) = 5000 := by
  rw [limit_append_autoDevice, bestTrustScore_append, if_pos ((bestTrustScore_lt_iff _).mpr h), hE]
  rfl

/-- If one is, the automatic device makes no difference. -/
theorem limit_of_trusted (h : ¬Untrusted devices) :
    computeOfflineCreditLimit E (devices ++ [autoDevice ownerID now])
      = computeOfflineCreditLimit E devices := by
  have hbest := (bestTrustScore_lt_iff devices).not.mpr h
  obtain ⟨dev, hdev, hactive, -⟩ : ∃ dev ∈ devices, dev.status = .active ∧ ¬dev.trustScore < 1 := by
    simpa [Untrusted] using h
  rw [limit_append_autoDevice, bestTrustScore_append, if_neg hbest, limit_of_active hdev hactive]

/-! ## What `IssueToken` does to it -/

/-- `ComputeOfflineCreditLimit`. -/
def limitOf (E : Externals) (db : DB) (ownerID : String) : Int64 :=
  computeOfflineCreditLimit E (getDevicesByOwner db ownerID)

/-- `IssueToken` adds an automatic device, and no device of the owner is fully trusted. -/
structure RaisesLimit (E : Externals) (ownerID : String) (value duration : Int64) (tokenID : String)
    (faults : IssueFaults) (now : Time) (db : DB) : Prop where
  looks : LooksForDevice E ownerID value duration tokenID faults now db
  adds : AddsDevice faults ownerID db
  untrusted : Untrusted (getDevicesByOwner db ownerID)
  low : limitOf E db ownerID < 5000

variable {value duration : Int64} {tokenID : String} {faults : IssueFaults} {db : DB}

theorem getDevicesByOwner_insert {dev : Device} (hfree : db.devices.find? dev.deviceID = none)
    {db' : DB} (hdb' : db'.devices = db.devices.insert dev) (ownerID : String) :
    getDevicesByOwner db' ownerID = getDevicesByOwner db ownerID
      ++ if dev.ownerID = ownerID then [dev] else [] := by
  rw [getDevicesByOwner, hdb', Table.rows_insert hfree, List.filter_append, getDevicesByOwner]
  split
  · next howner => simp [howner]
  · next howner => simp [howner]

theorem getDevicesByOwner_congr {db' : DB} (h : db'.devices = db.devices) (ownerID : String) :
    getDevicesByOwner db' ownerID = getDevicesByOwner db ownerID := by
  rw [getDevicesByOwner, h, getDevicesByOwner]

/-- `IssueToken` raises the limit of its owner exactly in this case. -/
theorem limitOf_issueToken_le_iff (hE : E.creditLimit 1 = 5000) :
    limitOf E (issueToken E ownerID value duration tokenID faults now db).2 ownerID
        ≤ limitOf E db ownerID ↔
      ¬RaisesLimit E ownerID value duration tokenID faults now db := by
  obtain ⟨⟨hlooks, hadds⟩, hdevices⟩ | ⟨hnot, hdevices⟩ :=
    issueToken_devices E ownerID value duration tokenID faults now db
  · rw [limitOf, getDevicesByOwner_insert hadds.free hdevices]
    rw [if_pos (show (autoDevice ownerID now).ownerID = ownerID from rfl)]
    by_cases huntrusted : Untrusted (getDevicesByOwner db ownerID)
    · rw [limit_of_untrusted hE huntrusted]
      constructor
      · exact fun hle h => Int64.not_lt.mpr hle h.low
      · exact fun h => Int64.not_lt.mp fun hlt => h ⟨hlooks, hadds, huntrusted, hlt⟩
    · rw [limit_of_trusted huntrusted]
      exact iff_of_true (Int64.le_refl _) fun h => huntrusted h.untrusted
  · rw [limitOf, getDevicesByOwner_congr hdevices]
    exact iff_of_true (Int64.le_refl _) fun h => hnot ⟨h.looks, h.adds⟩

/-- What a committed `IssueToken` has checked. -/
theorem issueToken_le_limit {tok : OfflineToken}
    (h : (issueToken E ownerID value duration tokenID faults now db).1 = .ok tok) :
    tok.ownerID = ownerID ∧ tok.value ≤ limitOf E db ownerID := by
  unfold issueToken at h
  split at h
  · cases h
  split at h
  · cases h
  dsimp only at h
  split at h
  · cases h
  next hlimit =>
  split at h
  · cases h
  · cases h
  · next hreserve =>
    obtain ⟨_, _, -, -, -, -, -, htok, -⟩ := reserveFunds_inv hreserve
    split at h
    · cases h
    · cases h
    · obtain rfl := Except.ok.inj h
      rw [htok]
      exact ⟨rfl, Int64.not_lt.mp hlimit⟩

end Token

/-! ## Owners for whom no device is registered -/

/-- `RegisterDevice` is called for the owner. -/
def Label.registers (ownerID : String) : Label → Prop
  | .registerDevice dev _ => dev.ownerID = ownerID
  | _ => False

/-- An owner without a device still has none. -/
def DB.StaysBare (ownerID : String) (db db' : DB) : Prop :=
  getDevicesByOwner db ownerID = [] → getDevicesByOwner db' ownerID = []

instance (ownerID : String) : IsPreorder DB (DB.StaysBare ownerID) where
  refl _ := id
  trans _ _ _ hab hbc := hbc ∘ hab

theorem DB.SameDevices.staysBare {db db' : DB} (h : db.SameDevices db') (ownerID : String) :
    db.StaysBare ownerID db' :=
  fun hbare => (Token.getDevicesByOwner_congr h ownerID).trans hbare

theorem getDevicesByOwner_eq_nil {db : DB} {ownerID : String} :
    getDevicesByOwner db ownerID = [] ↔ ∀ dev ∈ db.devices.rows, dev.ownerID ≠ ownerID := by
  simp [getDevicesByOwner, List.filter_eq_nil_iff]

/-- Only a device of the owner changes that. -/
theorem World.staysBare (ownerID : String) :
    World.StatementsFor { device := fun dev => dev.ownerID ≠ ownerID } (DB.StaysBare ownerID) where
  toSettlement := .ofStatements (Recovery.sameDevices.mono fun _ _ h => h.staysBare ownerID)
  createDevice dev hdev db u db' h := by
    obtain ⟨-, hfree, rfl⟩ := createDevice_ok.mp h
    intro hbare
    rw [Token.getDevicesByOwner_insert hfree rfl, hbare, if_neg hdev, List.append_nil]
  updateDeviceStatus deviceID status now := by
    refine keeps_write fun db hbare => ?_
    rw [getDevicesByOwner_eq_nil] at hbare ⊢
    cases hdev : db.devices.find? deviceID with
    | none => exact hbare
    | some dev =>
      intro dev' hdev'
      obtain rfl | ⟨hold, -⟩ := Table.mem_set hdev'
      · exact hbare dev (Table.mem_of_find? hdev)
      · exact hbare dev' hold
  createDeviceAttestation := keeps_createDeviceAttestation fun _ _ => id
  createAccount := keeps_createAccount fun _ _ => id
  expiredStatus := trivial
  released _ := trivial

namespace World

variable {w : World E} {l : Label}

/-- The move issues the token. -/
def Issues (w : World E) (tok : OfflineToken) : Label → Prop
  | .issueToken ownerID value duration tokenID faults now =>
    (Token.issueToken E ownerID value duration tokenID faults now w.db).1 = .ok tok
  | _ => False

/-- The move does not raise the limit of the owner that it issues a token to. -/
def KeepsLimit (w : World E) : Label → Prop
  | .issueToken ownerID value duration tokenID faults now =>
    Token.limitOf E (w.step (.issueToken ownerID value duration tokenID faults now)).db ownerID
      ≤ Token.limitOf E w.db ownerID
  | _ => True

/-- The move issues a token, or fails to, and leaves an automatic device that raises the limit. -/
def RaisesLimit (w : World E) : Label → Prop
  | .issueToken ownerID value duration tokenID faults now =>
    Token.RaisesLimit E ownerID value duration tokenID faults now w.db
  | _ => False

theorem db_issueToken (w : World E) (ownerID : String) (value duration : Int64) (tokenID : String)
    (faults : Token.IssueFaults) (now : Time) :
    (w.step (.issueToken ownerID value duration tokenID faults now)).db
      = (Token.issueToken E ownerID value duration tokenID faults now w.db).2 := by
  simp only [step, issueToken]
  split <;> next h => rw [h]; rfl

theorem keepsLimit_iff (hE : E.creditLimit 1 = 5000) (w : World E) (l : Label) :
    w.KeepsLimit l ↔ ¬w.RaisesLimit l := by
  cases l with
  | issueToken ownerID value duration tokenID faults now =>
    rw [KeepsLimit, db_issueToken, Token.limitOf_issueToken_le_iff hE, RaisesLimit]
  | _ => exact iff_of_true trivial not_false

theorem Issues.le_limit {tok : OfflineToken} (h : w.Issues tok l) :
    tok.value ≤ Token.limitOf E w.db tok.ownerID := by
  cases l with
  | issueToken ownerID value duration tokenID faults now =>
    obtain ⟨rfl, hle⟩ := Token.issueToken_le_limit h
    exact hle
  | _ => exact absurd h not_false

/-- An owner without a device keeps to be without one, unless one is registered or the limit is
raised. -/
theorem step_staysBare {ownerID : String} (hregisters : ¬l.registers ownerID)
    (hraises : ¬w.RaisesLimit l) : w.db.StaysBare ownerID (w.step l).db := by
  refine step_keeps (World.staysBare ownerID) w l ?_ ?_
  · rintro dev fault rfl
    exact hregisters
  · rintro owner value duration tokenID faults now rfl hbare
    obtain ⟨⟨hlooks, hadds⟩, hdevices⟩ | ⟨-, hdevices⟩ :=
      Token.issueToken_devices E owner value duration tokenID faults now w.db
    · rw [Token.getDevicesByOwner_insert hadds.free hdevices, hbare, List.nil_append, if_neg]
      intro howner
      obtain rfl : owner = ownerID := howner
      -- with no device at all the limit is 200
      refine hraises ⟨hlooks, hadds, ?_, ?_⟩
      · rw [hbare]
        exact fun dev hdev => absurd hdev List.not_mem_nil
      · rw [Token.limitOf, hbare]
        exact show (200 : Int64) < 5000 by decide
    · rw [Token.getDevicesByOwner_congr hdevices, hbare]

end World

/-- For every state and every run from it: no owner who has no device and gets none registered is
issued a token of more than 200 units, and no `IssueToken` raises the limit of its owner, exactly if
no `IssueToken` of the run adds an automatic device for an owner whose limit is below 5000 and of
whose active devices none is fully trusted. -/
theorem limit_kept_iff (hE : E.creditLimit 1 = 5000) (w : World E) (ls : List Label) :
    ((∀ ownerID, getDevicesByOwner w.db ownerID = [] → (∀ l ∈ ls, ¬l.registers ownerID) →
        w.Steps (fun w l => ∀ tok, w.Issues tok l → tok.ownerID = ownerID → tok.value ≤ 200) ls) ∧
      w.Steps World.KeepsLimit ls) ↔
    w.Steps (fun w l => ¬w.RaisesLimit l) ls := by
  constructor
  · rintro ⟨-, hkeeps⟩
    exact Run.steps_mono (fun w l => (World.keepsLimit_iff hE w l).mp) hkeeps
  · intro h
    refine ⟨fun ownerID hbare hregisters => ?_,
      Run.steps_mono (fun w l => (World.keepsLimit_iff hE w l).mpr) h⟩
    -- the owner stays without a device, so the limit stays at 200
    refine Run.steps_of_invariant (I := fun w : World E => getDevicesByOwner w.db ownerID = [])
      (fun w l hbare hl => ⟨World.step_staysBare hl.1 hl.2 hbare, fun tok htok howner => ?_⟩) hbare
      (Run.steps_and (Run.steps_of_forall_label w hregisters) h)
    have hlimit := htok.le_limit
    rw [howner, Token.limitOf, hbare] at hlimit
    exact hlimit

/-- `alice` has registered a device, and the limit stays. -/
theorem limit_kept_iff_registered :
    (World.start (E := .simple fun _ => none) ()).Steps World.KeepsLimit (Label.setup ["K"]) ∧
      Token.limitOf (.simple fun _ => none)
        ((World.start (E := .simple fun _ => none) ()).exec (Label.setup ["K"])).db "alice"
          = 5000 := by
  have hrun : getDevicesByOwner ((World.start (E := .simple fun _ => none) ()).exec
        (Label.setup [])).db "alice" ≠ [] ∧
      Token.limitOf (.simple fun _ => none)
        ((World.start (E := .simple fun _ => none) ()).exec (Label.setup ["K"])).db "alice"
          = 5000 := by
    decide +kernel
  have hkept : (World.start (E := .simple fun _ => none) ()).Steps (fun w l => ¬w.RaisesLimit l)
      (Label.setup ["K"]) := by
    refine ⟨id, id, id, fun h => ?_, trivial⟩
    obtain hfault | hnone := h.adds.unfound
    · cases hfault
    · exact hrun.1 hnone
  exact ⟨((limit_kept_iff rfl _ _).mpr hkept).2, hrun.2⟩

/-- `carol` has an account with 10000 and no device. -/
def carolRich : World (.simple fun _ => none) :=
  (World.start ()).exec [.createAccount "carol" 10000 none 0]

/-- The first token of `carol`. -/
def firstToken : Label := .issueToken "carol" 100 3600000000000 "K1" {} 0

/-- The second one. -/
def secondToken : Label := .issueToken "carol" 5000 3600000000000 "K2" {} 0

/-- The first token raises the limit from 200 to 5000, and the second one is worth 5000. -/
theorem first_token_raises_limit :
    Token.limitOf (.simple fun _ => none) carolRich.db "carol" = 200 ∧
      Token.limitOf (.simple fun _ => none) (carolRich.step firstToken).db "carol" = 5000 ∧
      (carolRich.exec [firstToken, secondToken]).db.offlineTokens.rows.map
        (fun tok => (tok.ownerID, tok.value)) = [("carol", 100), ("carol", 5000)] := by
  decide +kernel

end OfflinePay
