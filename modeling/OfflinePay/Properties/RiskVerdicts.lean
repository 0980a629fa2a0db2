import OfflinePay.Properties.RiskScore
import OfflinePay.Properties.TokenLifecycle
import OfflinePay.Risk.Wiring
import OfflinePay.Settlement.Vetting
import OfflinePay.System.Devices

/-!
# The risk engine never refuses a payment

Reference: `internal/risk/risk.go`, `Assess`; `internal/settlement/service.go`, `Settle`;
`internal/identity/service.go`, `RegisterDevice`; `internal/token/service.go`, `IssueToken`.

No device has more trust than 1, so a token is worth at most 5000 units; a payment is covered by its
token, so the amount stays below the first threshold of the risk engine. A device that signs was
registered, so its trust score is 1. What is left are the hops and the velocity window, and with both
at their worst the score is 0.75: a review, which `Settle` does not act upon.
-/

namespace OfflinePay

open Tx Repository Settlement Rounding

variable {E : Externals}

/-! ## Limits -/

theorem truncate_of_nonneg {q : ℚ} (h : 0 ≤ q) : truncate q = ⌊q⌋ := if_pos h

/-- The limit for a trust score that is at most 1. -/
theorem creditLimit_le {x : ℚ} (h0 : 0 ≤ x) (h1 : x ≤ 1) : Token.creditLimit x ≤ 5000 := by
  have hscaled : 0 ≤ round64 (x * 4800) := round64_nonneg (by positivity)
  have hnonneg : 0 ≤ round64 (200 + round64 (x * 4800)) := round64_nonneg (by positivity)
  have hle : round64 (200 + round64 (x * 4800)) ≤ 5000 := by
    have hone : round64 (200 + round64 (1 * 4800)) = 5000 := by decide +kernel
    calc round64 (200 + round64 (x * 4800))
        ≤ round64 (200 + round64 (1 * 4800)) := round64_add_le le_rfl (round64_mono (by linarith))
      _ = 5000 := hone
  have hfloor : 0 ≤ ⌊round64 (200 + round64 (x * 4800))⌋ := Int.floor_nonneg.mpr hnonneg
  have hfloor' : ⌊round64 (200 + round64 (x * 4800))⌋ ≤ 5000 := by
    have := Int.floor_mono hle
    simpa using this
  rw [Token.creditLimit, truncate_of_nonneg hnonneg, Int64.le_iff_toInt_le,
    Int64.toInt_ofInt_of_le (by omega) (by omega)]
  simpa using hfloor'

/-- The best trust score is one of the devices', or zero. -/
theorem bestTrustScore_bounds {devices : List Device} (h : ∀ dev ∈ devices, dev.trustScore ≤ 1) :
    0 ≤ Token.bestTrustScore devices ∧ Token.bestTrustScore devices ≤ 1 := by
  have hfold : ∀ (l : List Device) (best : ℚ), 0 ≤ best → best ≤ 1 →
      (∀ dev ∈ l, dev.trustScore ≤ 1) →
      0 ≤ l.foldl (fun best dev => if best < dev.trustScore then dev.trustScore else best) best ∧
      l.foldl (fun best dev => if best < dev.trustScore then dev.trustScore else best) best ≤ 1 := by
    intro l
    induction l with
    | nil => exact fun best h0 h1 _ => ⟨h0, h1⟩
    | cons dev l ih =>
      intro best h0 h1 hl
      rw [List.foldl_cons]
      split
      · next hlt => exact ih _ (h0.trans hlt.le) (hl dev (by simp)) fun d hd => hl d (by simp [hd])
      · exact ih _ h0 h1 fun d hd => hl d (by simp [hd])
  exact hfold _ 0 le_rfl zero_le_one fun dev hdev => h dev (List.mem_filter.mp hdev).1

theorem limitOf_le (hE : E.Wired) {db : DB} {ownerID : String}
    (h : ∀ dev ∈ db.devices.rows, dev.trustScore ≤ 1) : Token.limitOf E db ownerID ≤ 5000 := by
  have hdevices : ∀ dev ∈ getDevicesByOwner db ownerID, dev.trustScore ≤ 1 :=
    fun dev hdev => h dev (List.mem_filter.mp hdev).1
  obtain ⟨h0, h1⟩ := bestTrustScore_bounds hdevices
  have hlimit := creditLimit_le h0 h1
  rw [← hE.creditLimit] at hlimit
  unfold Token.limitOf Token.computeOfflineCreditLimit
  dsimp only
  split_ifs
  · decide
  · decide
  · decide
  · exact hlimit

/-! ## The verdict -/

namespace Risk

/-- No more points than for the high threshold. -/
theorem Grades.Ordered.points_le {g : Grades} (h : g.Ordered) (x : ℤ) :
    g.points x ≤ round64 g.highPoints := by
  have hlow := round64_nonneg h.low_nonneg
  have hhigh := round64_mono h.points
  unfold Grades.points
  split_ifs <;> linarith

theorem hopPoints_le (x : ℤ) : hopPoints x ≤ round64 0.25 := by
  have hnonneg := round64_nonneg (show (0 : ℚ) ≤ 0.25 by norm_num)
  unfold hopPoints
  split_ifs
  · exact le_rfl
  · exact hnonneg

/-- The score of a trusted device with a covered payment, with everything else at its worst. -/
def ceiling : ℚ :=
  round64 (round64 (round64 (round64 (round64 (round64 (0 + trustPoints 1)
    + amountGrades.points 5000) + round64 0.25) + failureGrades.points 0)
    + round64 velocityGrades.highPoints) + driftPoints false)

theorem score_le_ceiling {r : Request} (hamount : r.amount ≤ 5000) (hfailures : r.recentFailures = 0)
    (count : Option ℕ) : (tally 1 r count false).1 ≤ ceiling := by
  rw [score_tally]
  refine round64_add_le ?_ le_rfl
  refine round64_add_le ?_ (velocityGrades_ordered.points_le _)
  refine round64_add_le ?_ (by rw [hfailures])
  refine round64_add_le ?_ (hopPoints_le _)
  exact round64_add_le le_rfl (amountGrades_ordered.points_mono (Int64.le_iff_toInt_le.1 hamount))

/-- A covered payment of a trusted device is not rejected, whatever the hops and the window. -/
theorem assess_ne_reject {device : Device} (htrust : device.trustScore = 1)
    (hgood : device.barred = false) {r : Request} (hamount : r.amount ≤ 5000)
    (hfailures : r.recentFailures = 0) (count : Option ℕ) :
    (assess (some device) r count false).action ≠ .reject := by
  have hceiling : ceiling < round64 0.8 := by decide +kernel
  have hscore := score_le_ceiling hamount hfailures count
  rw [(assess_of_not_barred hgood r count false).2, htrust, action, if_neg (by linarith)]
  split_ifs <;> decide

end Risk

/-! ## Runs -/

/-- The device is fully trusted, or it has less trust and no usable key, like the one that failure
records refer to. -/
def Device.Credible (E : Externals) (dev : Device) : Prop :=
  dev.trustScore = 1 ∨ (dev.trustScore ≤ 1 ∧ ∃ e, E.parsePEMToPublicKey dev.publicKey = .error e)

theorem Device.Credible.trust_le {dev : Device} (h : dev.Credible E) : dev.trustScore ≤ 1 := by
  rcases h with h | ⟨h, -⟩
  · exact h.le
  · exact h

/-- The device has passed the checks of `Settle`. -/
def Settlement.SettleCall.Trusted (call : SettleCall) : Prop :=
  ∀ signed device, call.pc = .token signed device →
    device.trustScore = 1 ∧ device.barred = false

namespace World

/-- Devices are credible, tokens are small, and a call that is about to be assessed has a trusted
device. -/
structure Trusting (w : World E) : Prop where
  devices : ∀ dev ∈ w.db.devices.rows, dev.Credible E
  tokens : ∀ tok ∈ w.db.offlineTokens.rows, tok.value ≤ 5000
  calls : ∀ call ∈ w.calls, call.Wf ∧ call.Trusted

theorem Trusting.callsWf {w : World E} (h : w.Trusting) : w.CallsWf := fun call hcall =>
  (h.calls call hcall).1

/-- Only the device check leads to the token check. -/
theorem trusted_step {call : SettleCall} {db : DB} (hdevices : ∀ dev ∈ db.devices.rows, dev.Credible E)
    (input : Input) (risk : E.RiskState) : (call.step E input db risk).1.Trusted := by
  have hwrite : ∀ fault body next, (∀ signed device, next ≠ .token signed device) →
      (call.write fault body next db).1.Trusted := by
    intro fault body next hnext signed device htoken
    rw [SettleCall.write_call] at htoken
    exact absurd htoken (hnext signed device)
  unfold SettleCall.step
  cases hpc : call.pc with
  | idempotency =>
    dsimp only
    split
    · rintro _ _ ⟨⟩
    · split <;> rintro _ _ ⟨⟩
  | attestation signed =>
    dsimp only
    split <;> rintro _ _ ⟨⟩
  | device signed =>
    dsimp only
    split
    · rintro _ _ ⟨⟩
    · next device hfound =>
      rintro _ _ ⟨⟩
      obtain ⟨hfind, hgood, hverifies⟩ := findDevice_ok hfound
      refine ⟨?_, hgood⟩
      rcases hdevices device (Table.mem_of_find? hfind) with htrust | ⟨-, e, hparse⟩
      · exact htrust
      · -- a device whose key does not parse signs nothing
        rw [Device.verifies, hparse] at hverifies
        cases hverifies
  | token signed device =>
    dsimp only
    split
    · rintro _ _ ⟨⟩
    · split <;> rintro _ _ ⟨⟩
  | saga =>
    dsimp only
    split
    · rintro _ _ ⟨⟩
    · intro signed device htoken
      unfold SettleCall.runSaga at htoken
      dsimp only at htoken
      split at htoken <;> cases htoken
  | saveIntent f recover => exact hwrite _ _ _ (by simp)
  | saveOutbox f recover => exact hwrite _ _ _ (by simp)
  | saveEvent f recover => exact hwrite _ _ _ (by cases recover <;> simp [SettleCall.afterSave])
  | lookup f =>
    dsimp only
    split <;> rintro _ _ ⟨⟩
  | record f current => exact hwrite _ _ _ (by simp)
  | returned status err => rintro _ _ ⟨⟩

theorem Trusting.step (hE : E.Wired) {w : World E} (h : w.Trusting) (hs : w.bank.Sound) {l : Label}
    (hservice : l.ByService) : (w.step l).Trusting where
  devices := by
    refine (w.step_devices l).forall h.devices (fun _ _ _ hdev => hdev) ?_ fun _ _ => .inl rfl
    rintro dev fault rfl
    exact .inl (by rw [hservice.2]; rfl)
  tokens := by
    intro tok htok
    have hfind := Table.find?_of_mem htok
    rcases ((step_refines h.callsWf l).1).tokens hs.counters with hcarried | ⟨tok', htxn, hissued⟩
    · obtain ⟨row, hrow, -, hvalue, -⟩ := hcarried.only _ tok hfind
      rw [hvalue]
      exact h.tokens row (Table.mem_of_find? hrow)
    · have hdb : Token.Issued w.db (w.step l).db tok' := hissued
      rw [hdb.offlineTokens] at htok
      rcases (Table.mem_insert hdb.fresh).mp htok with hold | rfl
      · exact h.tokens tok hold
      · obtain ⟨tok₁, hissues, rfl⟩ := issues_of_commits htxn
        exact Int64.le_trans hissues.le_limit (limitOf_le hE fun dev hdev => (h.devices dev hdev).trust_le)
  calls := by
    refine calls_step h.calls (fun i input call _ _ _ _ => trusted_step h.devices input w.risk) ?_
    rintro env hopCount _ _ ⟨⟩

end World

/-- For every initial state whose devices are fully trusted or have no usable key, and every run in
which devices are registered by the identity service: the risk engine refuses no payment. A call that
has passed the token checks goes on to its saga, whatever the number of hops and whatever Redis says.
-/
theorem risk_never_refuses (hE : E.Wired) (w : World E) (hi : w.Initial) (ls : List Label)
    (hdevices : ∀ dev ∈ w.db.devices.rows, dev.Credible E) (hservice : ∀ l ∈ ls, l.ByService)
    (i : ℕ) (call : SettleCall) (signed : SignedPaymentIntent) (device : Device) (input : Input)
    (o : Order) (hcall : (w.exec ls).calls[i]? = some call) (hpc : call.pc = .token signed device)
    (htoken : findToken E call.env call.hopCount signed.payload input (w.exec ls).db = .ok o) :
    ((w.exec ls).step (.settle i input)).calls[i]?
      = some { call with order := some o, pc := .saga } := by
  have hinv : (w.exec ls).Trusting ∧ (w.exec ls).bank.Sound := by
    refine Run.exec_invariant (I := fun w : World E => w.Trusting ∧ w.bank.Sound)
      (P := fun _ l => l.ByService) ?_ ⟨⟨hdevices, ?_, ?_⟩, hi.sound⟩ (Run.steps_of_forall_label w hservice)
    · rintro w l ⟨htrusting, hs⟩ hl
      exact ⟨htrusting.step hE hs hl, hs.step (World.step_refines htrusting.callsWf l).1⟩
    · intro tok htok
      rw [(hi.offlineTokens tok htok).2.1]
      decide
    · simp [hi.calls]
  obtain ⟨htrusting, -⟩ := hinv
  obtain ⟨htrust, hgood⟩ := (htrusting.calls call (List.mem_of_getElem? hcall)).2 signed device hpc
  -- the payment is covered by a token of at most 5000 units
  have hamount : signed.payload.amount ≤ 5000 := by
    obtain ⟨-, -, hpayload, hfound⟩ := SettleCall.findToken_ok htoken
    have hcovered := o.covered
    rw [hpayload] at hcovered
    exact Int64.le_trans hcovered (htrusting.tokens o.token (Table.mem_of_find? hfound))
  obtain ⟨count, hassess⟩ := hE.assess (w.exec ls).risk device signed.payload call.hopCount
  have haction : (E.assess (w.exec ls).risk device signed.payload call.hopCount).1.action ≠ .reject := by
    rw [hassess]
    exact Risk.assess_ne_reject htrust hgood hamount rfl count
  have hstep : (call.step E input (w.exec ls).db (w.exec ls).risk).1
      = { call with order := some o, pc := .saga } := by
    unfold SettleCall.step
    simp only [hpc, htoken, if_neg haction]
  rw [(World.step_settle hcall input).1, List.getElem?_set_self (List.getElem?_eq_some_iff.1 hcall).1,
    hstep]

/-- A payment of `alice`. -/
def rushed : SignedPaymentIntent :=
  PaymentIntentPayload.signedBy
    ⟨"T", "alice", "bob", 30, "USD", "N", 1000000000000, "phone", "K"⟩ "alice-key"

/-- The risk engine with a window that is always crowded. -/
def crowded : Externals :=
  (Externals.simple fun s => if s = "rushed" then some rushed else none).wire Unit fun s _ =>
    (some 100, s)

/-- The payment arrives over twenty hops, and has read its device. -/
def crowdedRun : List Label :=
  Label.setup ["K"] ++ .startSettle ⟨"", "rushed", "N", "", "T", ""⟩ 20 :: Label.settles 0 3

def crowdedWorld : World crowded := World.start (show Unit from ())

theorem risk_never_refuses_crowded :
    (((crowdedWorld.exec crowdedRun).step (.settle 0 { now := 1 })).calls[0]?).map SettleCall.pc
      = some .saga := by
  have hrun : (crowdedWorld.exec crowdedRun).calls[0]? = some
        { env := ⟨"", "rushed", "N", "", "T", ""⟩, hopCount := 20,
          pc := .token rushed ⟨"phone", "alice", "alice-key", 1, .active, 0, none⟩ } ∧
      (findToken crowded ⟨"", "rushed", "N", "", "T", ""⟩ 20 rushed.payload { now := 1 }
        (crowdedWorld.exec crowdedRun).db).isOk = true := by
    decide +kernel
  obtain ⟨hcall, hok⟩ := hrun
  have hservice : ∀ l ∈ crowdedRun, l.ByService := by
    simp [crowdedRun, Label.setup, Label.settles, Label.ByService, Identity.newDevice]
  have hdevices : ∀ dev ∈ crowdedWorld.db.devices.rows, dev.Credible crowded := by
    simp [crowdedWorld, World.start, DB.empty, Table.empty]
  cases htoken : findToken crowded ⟨"", "rushed", "N", "", "T", ""⟩ 20 rushed.payload { now := 1 }
      (crowdedWorld.exec crowdedRun).db with
  | error e =>
    rw [htoken] at hok
    cases hok
  | ok o =>
    have hstep := risk_never_refuses (Externals.wire_wired _ _ _) crowdedWorld (World.start_initial _)
      crowdedRun hdevices hservice 0 _ rushed _ _ o hcall rfl htoken
    exact congrArg (Option.map SettleCall.pc) hstep

end OfflinePay
