import OfflinePay.Settlement.Vetting
import OfflinePay.System.Bank
import OfflinePay.System.Devices

/-!
# Revocation

Reference: `internal/identity/service.go`, `RevokeDevice`; `internal/settlement/service.go`,
`Settle`; `internal/token/service.go`, `ComputeOfflineCreditLimit`.

A revocation is for good, whatever runs next to it. `Settle` reads the device once, so a revocation
takes effect on every call that has not read it yet: such a call never gets an order (`Awaits`), so
it moves no money and does not settle. A call that has read it goes on. An owner all of whose devices
are revoked has a limit of zero and gets no token until a device is registered for them.
-/

namespace OfflinePay

open Tx Repository Settlement

variable {E : Externals}

/-! ## Payments -/

/-- The envelope holds a payload of this device. -/
def NamesDevice (E : Externals) (deviceID : String) (env : EncryptedEnvelope) : Prop :=
  ∃ signed, openEnvelope E env = .ok signed ∧ signed.payload.deviceID = deviceID

namespace Settlement.SettleCall

/-- The call has no order; if it has not failed yet, it has still to read the device. -/
def Awaits (E : Externals) (deviceID : String) (call : SettleCall) : Prop :=
  call.order = none ∧
    match call.pc with
    | .idempotency => NamesDevice E deviceID call.env
    | .attestation signed | .device signed => signed.payload.deviceID = deviceID
    | .token _ _ | .saga => False
    | .returned status _ => status ≠ .settled
    | _ => True

/-- While the device is barred, a call that has still to read it never gets past that, and writes
no more than the record of its failure. -/
theorem Awaits.step {deviceID : String} {call : SettleCall} {db : DB} (h : call.Awaits E deviceID)
    (hbarred : db.Barred deviceID) (input : Input) (risk : E.RiskState) :
    (call.step E input db risk).1.Awaits E deviceID ∧
      ∀ o p, (call.step E input db risk).2.2.2 ≠ some (.phase o p) := by
  obtain ⟨horder, hpc⟩ := h
  -- a failure record goes on to the next one, or returns a status that is not `SETTLED`
  have hwrite : ∀ fault body next, { call with pc := next }.Awaits E deviceID →
      (call.write fault body next db).1.Awaits E deviceID ∧
        ∀ o p, (call.write fault body next db).2.2 ≠ some (.phase o p) := by
    intro fault body next hnext
    unfold SettleCall.write
    split
    · exact ⟨hnext, by simp⟩
    · exact ⟨hnext, by simp⟩
  unfold SettleCall.step
  cases hcall : call.pc with
  | idempotency =>
    simp only [hcall] at hpc
    obtain ⟨signed, hopen, hdevice⟩ := hpc
    dsimp only
    split
    · exact ⟨⟨horder, by simp⟩, by simp⟩
    · rw [hopen]
      exact ⟨⟨horder, hdevice⟩, by simp⟩
  | attestation signed =>
    simp only [hcall] at hpc
    dsimp only
    split
    · exact ⟨⟨horder, trivial⟩, by simp⟩
    · exact ⟨⟨horder, hpc⟩, by simp⟩
  | device signed =>
    simp only [hcall] at hpc
    dsimp only
    split
    · exact ⟨⟨horder, trivial⟩, by simp⟩
    · next device hfound =>
      obtain ⟨hfind, hgood, -⟩ := findDevice_ok hfound
      obtain ⟨dev, hdev, hbad⟩ := hbarred
      rw [hpc, hdev] at hfind
      obtain rfl := Option.some.inj hfind
      rw [hbad] at hgood
      cases hgood
  | token signed device => simp only [hcall] at hpc
  | saga => simp only [hcall] at hpc
  | saveIntent f recover => exact hwrite _ _ _ ⟨horder, trivial⟩
  | saveOutbox f recover => exact hwrite _ _ _ ⟨horder, trivial⟩
  | saveEvent f recover =>
    refine hwrite _ _ _ ⟨horder, ?_⟩
    cases recover
    · exact f.unsettled
    · trivial
  | lookup f =>
    dsimp only
    split
    · exact ⟨⟨horder, trivial⟩, by simp⟩
    · exact ⟨⟨horder, f.unsettled⟩, by simp⟩
  | record f current => exact hwrite _ _ _ ⟨horder, f.unsettled⟩
  | returned status err =>
    simp only [hcall] at hpc
    exact ⟨⟨horder, hpc⟩, by simp⟩

theorem Awaits.unsettled {deviceID : String} {call : SettleCall} (h : call.Awaits E deviceID)
    (err : Option GoError) : call.pc ≠ .returned .settled err := by
  intro hpc
  have := h.2
  simp [hpc] at this

end Settlement.SettleCall

namespace World

/-- The call is about the device, and has not read it in `w₀`, where it may not have begun. -/
def Unread (w₀ w : World E) (deviceID : String) (i : ℕ) : Prop :=
  ∃ call, w.calls[i]? = some call ∧ NamesDevice E deviceID call.env ∧
    ∀ call₀, w₀.calls[i]? = some call₀ → call₀.Awaits E deviceID

/-- The device is barred, and no call that had not read it before has an order. -/
structure Shut (w₀ : World E) (deviceID : String) (w : World E) : Prop where
  barred : w.db.Barred deviceID
  begun : ∀ i, w.calls.length ≤ i → w₀.calls[i]? = none
  awaits : ∀ i call, w.calls[i]? = some call → w₀.Unread w deviceID i → call.Awaits E deviceID

theorem shut_refl {w : World E} {deviceID : String} (h : w.db.Barred deviceID) :
    w.Shut deviceID w :=
  ⟨h, fun _ hi => List.getElem?_eq_none hi, fun _ _ hcall hunread => by
    obtain ⟨_, _, _, h⟩ := hunread
    exact h _ hcall⟩

/-- A saga transaction is written by a step of its call. -/
theorem wrote_of_commits {w : World E} {i : ℕ} {input : Input} {call : SettleCall} {o : Order}
    {p : Saga.Phase} (hcall : w.calls[i]? = some call)
    (h : w.commits (.settle i input) = some (.phase i o p)) :
    (call.step E input w.db w.risk).2.2.2 = some (.phase o p) := by
  simp only [commits, step, World.settle, hcall] at h
  split at h
  · simp at h
  · simp [commit] at h
  · next o' p' hwrote =>
    obtain ⟨rfl, rfl⟩ : o' = o ∧ p' = p := by simpa [commit] using h
    exact hwrote

theorem Shut.step {w₀ w : World E} {deviceID : String} (h : w₀.Shut deviceID w) {l : Label}
    (hservice : l.ByService) : w₀.Shut deviceID (w.step l) := by
  have hbarred := (w.step_devices l).barred hservice h.barred
  rcases w.step_calls l with ⟨i, input, call, rfl, hcall, hcalls⟩ | ⟨env, hop, hcalls⟩ | hcalls
  · refine ⟨hbarred, fun j hj => h.begun j (by simpa [hcalls] using hj), fun j call' hcall' hunread => ?_⟩
    obtain ⟨call₁, hcall₁, hnames, hfirst⟩ := hunread
    obtain rfl := Option.some.inj (hcall₁.symm.trans hcall')
    rw [hcalls] at hcall'
    by_cases hij : i = j
    · subst hij
      rw [List.getElem?_set_self (List.getElem?_eq_some_iff.1 hcall).1] at hcall'
      obtain rfl := Option.some.inj hcall'
      rw [(SettleCall.step_envelope _ _ _ _).1] at hnames
      exact ((h.awaits i call hcall ⟨call, hcall, hnames, hfirst⟩).step h.barred input w.risk).1
    · rw [List.getElem?_set_ne hij] at hcall'
      exact h.awaits j _ hcall' ⟨_, hcall', hnames, hfirst⟩
  · refine ⟨hbarred, fun j hj => h.begun j ?_, fun j call' hcall' hunread => ?_⟩
    · rw [hcalls, List.length_append, List.length_singleton] at hj
      omega
    · obtain ⟨call₁, hcall₁, hnames, hfirst⟩ := hunread
      obtain rfl := Option.some.inj (hcall₁.symm.trans hcall')
      rw [hcalls] at hcall'
      rcases lt_or_ge j w.calls.length with hlt | hge
      · rw [List.getElem?_append_left hlt] at hcall'
        exact h.awaits j _ hcall' ⟨_, hcall', hnames, hfirst⟩
      · -- the call has just begun
        rw [List.getElem?_append_right hge] at hcall'
        obtain rfl := List.mem_singleton.mp (List.mem_of_getElem? hcall')
        exact ⟨rfl, hnames⟩
  · refine ⟨hbarred, fun j hj => h.begun j (hcalls ▸ hj), fun j call' hcall' hunread => ?_⟩
    rw [Unread, hcalls] at hunread
    rw [hcalls] at hcall'
    exact h.awaits j call' hcall' hunread

end World

/-- For every state in which a device is revoked or compromised, and every run from it in which
devices are registered and changed by the identity service only: the device stays barred. And no
`Settle` call for a payload of the device that had not read the device by then, or began later, ever
commits a transaction of its saga or settles. -/
theorem revocation_final (w : World E) (deviceID : String) (ls : List Label)
    (hbarred : w.db.Barred deviceID) (hservice : ∀ l ∈ ls, l.ByService) :
    (w.exec ls).db.Barred deviceID ∧
      (∀ i call, (w.exec ls).calls[i]? = some call → w.Unread (w.exec ls) deviceID i →
        call.order = none ∧ ∀ err, call.pc ≠ .returned .settled err) ∧
      w.Steps (fun w' l => ∀ i o p, w.Unread w' deviceID i → w'.commits l ≠ some (.phase i o p))
        ls := by
  have hsteps : w.Steps (fun _ l => l.ByService) ls := Run.steps_of_forall_label w hservice
  have hshut : w.Shut deviceID (w.exec ls) :=
    Run.exec_invariant (fun _ _ h hl => h.step hl) (World.shut_refl hbarred) hsteps
  refine ⟨hshut.barred, fun i call hcall hunread => ?_, ?_⟩
  · have hawaits := hshut.awaits i call hcall hunread
    exact ⟨hawaits.1, hawaits.unsettled⟩
  · refine Run.steps_of_invariant (I := w.Shut deviceID) (fun w' l h hl => ⟨h.step hl, ?_⟩)
      (World.shut_refl hbarred) hsteps
    intro i o p hunread hcommit
    obtain ⟨input, rfl⟩ := World.madeBy_of_commits hcommit
    obtain ⟨call, hcall, -⟩ := id hunread
    exact ((h.awaits i call hcall hunread).step h.barred input w'.risk).2 o p
      (World.wrote_of_commits hcall hcommit)

/-- `alice` loses the phone between two payments. -/
def lostDecode : String → Option SignedPaymentIntent
  | "first" => some (PaymentIntentPayload.signedBy
      ⟨"T1", "alice", "bob", 30, "USD", "N1", 1000000000000, "phone", "K1"⟩ "alice-key")
  | "second" => some (PaymentIntentPayload.signedBy
      ⟨"T2", "alice", "bob", 30, "USD", "N2", 1000000000000, "phone", "K2"⟩ "alice-key")
  | _ => none

/-- Two tokens are issued, the first payment has read the device, and the phone is reported. -/
def lostWorld : World (.simple lostDecode) :=
  (World.seeded ()).exec (Label.setup ["K1", "K2"]
    ++ .startSettle ⟨"", "first", "N1", "", "T1", ""⟩ 0 :: Label.settles 0 3
    ++ [.updateDeviceStatus "phone" .compromised none 1])

/-- Then the second payment arrives, both are carried on, and `alice` asks for another token. -/
def lostRun : List Label :=
  .startSettle ⟨"", "second", "N2", "", "T2", ""⟩ 0 :: Label.settles 0 10 ++ Label.settles 1 10
    ++ [.issueToken "alice" 100 1000000000000 "K3" {} 1]

theorem lostRun_byService : ∀ l ∈ lostRun, l.ByService := by
  simp [lostRun, Label.settles, Label.ByService]

theorem revocation_final_lost : (lostWorld.exec lostRun).db.Barred "phone" ∧
    ∃ call, (lostWorld.exec lostRun).calls[1]? = some call ∧ call.order = none := by
  have hbarred : lostWorld.db.Barred "phone" :=
    ⟨⟨"phone", "alice", "alice-key", 1, .compromised, 0, some 1⟩, by decide +kernel, rfl⟩
  have hrun : ((lostWorld.exec lostRun).calls[1]?).map SettleCall.env
        = some ⟨"", "second", "N2", "", "T2", ""⟩ ∧ lostWorld.calls[1]? = none := by
    decide +kernel
  obtain ⟨hstays, hcalls, -⟩ := revocation_final lostWorld "phone" lostRun hbarred lostRun_byService
  obtain ⟨call, hcall, henv⟩ := Option.map_eq_some_iff.mp hrun.1
  have hunread : lostWorld.Unread (lostWorld.exec lostRun) "phone" 1 :=
    ⟨call, hcall, ⟨_, by rw [henv]; rfl, rfl⟩, fun call₀ h => by rw [hrun.2] at h; cases h⟩
  exact ⟨hstays, call, hcall, (hcalls 1 call hcall hunread).1⟩

/-- The payment that had read the device before the report is settled. -/
example : ((lostWorld.exec lostRun).calls.map SettleCall.pc).head? = some (.returned .settled none) := by
  decide +kernel

/-! ## Tokens -/

/-- The owner has devices, and all of them are revoked or compromised. -/
def DB.AllBarred (db : DB) (ownerID : String) : Prop :=
  (∃ dev ∈ db.devices.rows, dev.ownerID = ownerID) ∧
    ∀ dev ∈ db.devices.rows, dev.ownerID = ownerID → dev.barred = true

/-- A device of another owner changes nothing. -/
theorem DB.AllBarred.insert {db db' : DB} {ownerID : String} {dev : Device} (h : db.AllBarred ownerID)
    (free : db.devices.find? dev.deviceID = none) (howner : dev.ownerID ≠ ownerID)
    (hdb' : db'.devices = db.devices.insert dev) : db'.AllBarred ownerID := by
  obtain ⟨⟨dev₀, hdev₀, howner₀⟩, hall⟩ := h
  rw [AllBarred, hdb']
  refine ⟨⟨dev₀, (Table.mem_insert free).mpr (.inl hdev₀), howner₀⟩, fun dev' hdev' howner' => ?_⟩
  rcases (Table.mem_insert free).mp hdev' with hold | rfl
  · exact hall dev' hold howner'
  · exact absurd howner' howner

/-- A token that is issued has a value. -/
theorem World.Issues.value_pos {w : World E} {tok : OfflineToken} {l : Label} (h : w.Issues tok l) :
    0 < tok.value := by
  cases l with
  | issueToken ownerID value duration tokenID faults now =>
    exact (Token.issueToken_ok (Prod.ext h rfl)).value_pos
  | _ => exact absurd h not_false

end OfflinePay
