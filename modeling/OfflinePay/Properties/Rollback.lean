import OfflinePay.System.Calls

/-!
# A settlement that reports failure

A saga whose `PUBLISH` fails has moved money and has to take it back. The compensation of
`LEDGER_COMMIT` deletes the payment intent while the nonce of the same saga still references it, and
is refused. Only when the envelope carried another transaction id than the payload can it succeed.
After three refusals the saga is abandoned with the money moved.

`Undoable` is the state in which the compensation can commit. If every third try finds it, a call
that reports failure has left nothing behind.
-/

namespace OfflinePay

open Tx Repository Settlement

/-- No row but a ledger entry references the payment intent. -/
def DB.Unclaimed (db : DB) (txnID : String) : Prop :=
  (∀ row ∈ db.nonceRegistry.rows, row.txnID ≠ txnID) ∧
    (∀ event ∈ db.paymentEvents, event.txnID ≠ txnID) ∧
    (∀ row ∈ db.failureEvents.rows, row.txnID ≠ txnID) ∧
    ∀ op ∈ db.recoveryOperations.rows, op.txnID ≠ txnID

instance (db : DB) (txnID : String) : Decidable (db.Unclaimed txnID) :=
  inferInstanceAs (Decidable (_ ∧ _ ∧ _ ∧ _))

/-- The compensation of `LEDGER_COMMIT` can commit: the accounts can pay back, and nothing
references the payment intent any more. -/
def Settlement.Order.Undoable (o : Order) (db : DB) : Prop :=
  ∃ s ∈ db.accountBalances.find? o.payload.senderID,
    ∃ r ∈ db.accountBalances.find? o.payload.receiverID,
      0 ≤ s.availableBalance - o.changeAmount ∧ 0 ≤ s.reservedBalance + o.token.value ∧
      0 ≤ r.availableBalance - o.payload.amount ∧
      (db.paymentIntents.find? o.payload.txnID ≠ none → db.Unclaimed o.payload.txnID)

instance (o : Order) (db : DB) : Decidable (o.Undoable db) :=
  inferInstanceAs (Decidable (∃ s ∈ db.accountBalances.find? o.payload.senderID,
    ∃ r ∈ db.accountBalances.find? o.payload.receiverID, _ ∧ _ ∧ _ ∧ (_ → _)))

/-- In such a state it does commit. -/
theorem Settlement.Order.Undoable.commits {o : Order} {db : DB} (h : o.Undoable db)
    (input : Input) :
    ∃ db', undoLedger o input db = .ok ((), db') := by
  obtain ⟨s, hs, r, hr, hsa, hsr, hra, hfree⟩ := h
  have hs : db.accountBalances.find? o.payload.senderID = some s := hs
  have hr : db.accountBalances.find? o.payload.receiverID = some r := hr
  simp only [undoLedger, bind_ok, lockBalances_ok, deleteLedgerEntries, write_ok,
    deletePaymentIntent_ok]
  refine ⟨_, (s, r), db, ⟨hs, hr, rfl⟩, (), _, (updateBalance_ok (by simp [hs])).mpr ⟨hsa, hsr, rfl⟩,
    (), _, (updateBalance_ok ?_).mpr ⟨hra, r.reserved_check, rfl⟩, (), _, rfl, ?_, rfl⟩
  · exact mt (Table.find?_set_eq_none _ _ _).mp (by simp [hr])
  · intro hrow
    obtain ⟨hnonce, hevent, hfail, hop⟩ := hfree hrow
    -- the entries of the payment have just been deleted
    simp only [DB.referenced, Bool.or_eq_false_iff, List.any_eq_false, beq_iff_eq]
    refine ⟨⟨⟨⟨hnonce, fun e he => ?_⟩, hevent⟩, hfail⟩, hop⟩
    have hkept := (List.mem_filter.mp he).2
    simp only [Bool.not_eq_true', Bool.or_eq_false_iff, beq_eq_false_iff_ne] at hkept
    exact hkept.1

/-! ## Abandoned compensations -/

/-- The call is about to make its last try at the compensation of `LEDGER_COMMIT`. -/
def Settlement.SettleCall.lastTry? (call : SettleCall) : Option Order :=
  match call.pc, call.saga with
  | .saga, .compensating _ 3 3 _ => call.order
  | _, _ => none

/-- The saga of the call has not failed with a standing `LEDGER_COMMIT`. -/
def Settlement.SettleCall.Unwound (call : SettleCall) : Prop :=
  ∀ executed standing err, call.saga = .done executed standing (some err) → standing ≤ 2

/-- A call abandons its `LEDGER_COMMIT` only in a last try that is lost or that finds it not
undoable. -/
theorem Settlement.SettleCall.Unwound.step {E : Externals} {call : SettleCall} (hwf : call.Wf)
    (hun : call.Unwound) (input : Input) (db : DB) (risk : E.RiskState)
    (htry : ∀ o ∈ call.lastTry?, input.fault = none ∧ o.Undoable db) :
    (call.step E input db risk).1.Unwound := by
  intro executed standing err hdone
  rcases SettleCall.step_saga call input db risk with hsame | ⟨o, hpc, horder, hsaga⟩
  · exact hun executed standing err (hsame ▸ hdone)
  by_contra hlt
  obtain ⟨k, rfl⟩ : ∃ k, standing = k + 1 := ⟨standing - 1, by omega⟩
  have hcall : call.saga.Wf 4 ∧ call.saga.result? = none := by
    rw [SettleCall.Wf, hpc] at hwf
    exact hwf.2
  have hcomp : ∀ st ∈ steps o, st.compensate ≠ none := by simp [steps]
  obtain ⟨hlast, st, compensate, hst, hc, hno⟩ :=
    Saga.Pc.step_gave_up hcomp hcall.1 hcall.2 (hsaga ▸ hdone)
  -- three steps stood, so this was the compensation of the third
  have hk : k = 2 := by
    have hwf' := hcall.1
    rw [hlast] at hwf'
    obtain ⟨h₁, h₂, -⟩ := hwf'
    omega
  subst hk
  have htry' : call.lastTry? = some o := by
    rw [lastTry?, hpc, hlast]
    exact horder
  obtain ⟨hfault, hundo⟩ := htry o htry'
  obtain ⟨db', hok⟩ := hundo.commits input
  obtain rfl := Option.some.inj hst
  obtain rfl := Option.some.inj hc
  exact hno db' (withTx_ok.mpr ⟨hfault, hok⟩)

namespace World

variable {E : Externals}

/-- The last try at the compensation of a `LEDGER_COMMIT` that a move makes, if any. -/
def lastTry? (w : World E) : Label → Option (Order × Input)
  | .settle i input => (w.calls[i]?).bind fun call => call.lastTry?.map (·, input)
  | _ => none

/-- If the move is the last try at a compensation of `LEDGER_COMMIT`, then its transaction is not
lost and the payment is undoable. -/
def Completes (w : World E) (l : Label) : Prop :=
  ∀ x ∈ w.lastTry? l, x.2.fault = none ∧ x.1.Undoable w.db

instance (w : World E) (l : Label) : Decidable (w.Completes l) :=
  inferInstanceAs (Decidable (∀ x ∈ w.lastTry? l, _ ∧ _))

/-- Every last try of the run meets `Completes`. -/
abbrev AllComplete (w : World E) (ls : List Label) : Prop := Run.Steps step Completes w ls

/-- In runs that meet the condition no call abandons a `LEDGER_COMMIT`. -/
theorem unwound {w : World E} (hi : w.Initial) {ls : List Label} (hall : w.AllComplete ls) :
    ∀ call ∈ (w.exec ls).calls, call.Wf ∧ call.Unwound := by
  refine Run.exec_invariant (I := fun w : World E => ∀ call ∈ w.calls, call.Wf ∧ call.Unwound) ?_ ?_
    hall
  · intro w l hw hl
    refine calls_step hw ?_ fun env hop _ _ _ h => by simp at h
    rintro i input call rfl hcall hwf hun
    refine hun.step hwf input w.db w.risk fun o ho => hl (o, input) ?_
    simp [lastTry?, hcall, Option.mem_def.mp ho]
  · rw [hi.calls]
    simp

/-- A call that has returned without having settled, and without having abandoned a `LEDGER_COMMIT`,
has none standing. -/
theorem unsettled_of_returned {w : World E} {i : ℕ} {call : SettleCall}
    (hcall : w.calls[i]? = some call) (hwf : call.Wf) (hun : call.Unwound) {status : PaymentStatus}
    {err : Option GoError} (hpc : call.pc = .returned status err) (hs : status ≠ .settled) :
    ∀ pr ∈ w.bank.progress i, ¬pr.settled := by
  have hfailed : call.Failed := by
    rw [SettleCall.Wf, hpc] at hwf
    cases status <;> first | exact hwf | exact absurd rfl hs
  intro pr hpr hset
  rw [show w.bank.progress i = w.progress i from rfl, progress_of_call hcall] at hpr
  rcases hfailed with ⟨hnone, -⟩ | ⟨-, -, e, hres⟩
  · rw [hnone] at hpr
    exact absurd hpr (by simp)
  · obtain ⟨o, -, rfl⟩ := Option.map_eq_some_iff.mp hpr
    cases hsaga : call.saga with
    | done executed standing err =>
      rw [hsaga] at hres
      obtain rfl := Option.some.inj hres
      have hle := hun executed standing e hsaga
      rw [Progress.settled, hsaga] at hset
      exact absurd hset (not_lt.mpr hle)
    | _ => simp [hsaga, Saga.Pc.result?] at hres

/-- A payment whose envelope carries the payload's own transaction id is never undoable: the nonce
of its saga references the payment intent until after the compensation of `LEDGER_COMMIT`. -/
theorem not_undoable_of_own_id {w : World E} (hi : w.Initial) {ls : List Label}
    (hown : w.OwnRows ls) {i : ℕ} {pr : Progress} (hpr : (w.exec ls).bank.progress i = some pr)
    (hset : pr.settled) (hid : pr.order.env.txnID = pr.order.payload.txnID) :
    ¬pr.order.Undoable (w.exec ls).db := by
  rintro ⟨s, -, r, -, -, -, -, hfree⟩
  obtain ⟨row, hrow, htxn⟩ := (World.sound hi ls).nonces.registered i pr hpr hset.reserved
  have hclaim := hfree ((World.owners hi hown).row i pr hpr hset.owns)
  exact hclaim.1 row (Table.mem_of_find? hrow) (htxn.trans hid)

end World

/-- In every run whose last tries at compensating a `LEDGER_COMMIT` are not lost and find the
payment undoable: a call that returned anything but SETTLED has a zero net effect on every balance
and no ledger entry left; and if the run also keeps `OwnRow`, no payment intent that it created is
settled. -/
theorem failed_settlement_leaves_nothing {E : Externals} (w : World E) (hi : w.Initial)
    (ls : List Label) (hall : w.AllComplete ls) (i : ℕ) (call : SettleCall)
    (hcall : (w.exec ls).calls[i]? = some call) (status : PaymentStatus) (err : Option GoError)
    (hpc : call.pc = .returned status err) (hs : status ≠ .settled) :
    (∀ a, History.net (DB.available · a) i (w.exec ls).history = 0 ∧
        History.net (DB.reserved · a) i (w.exec ls).history = 0) ∧
      (∀ e, History.Wrote i e (w.exec ls).history → e ∉ (w.exec ls).db.ledgerEntries) ∧
      (w.OwnRows ls → ∀ txnID row, History.author txnID (w.exec ls).history = some i →
        (w.exec ls).db.paymentIntents.find? txnID = some row → row.status ≠ .settled) := by
  obtain ⟨hwf, hun⟩ := World.unwound hi hall call (List.mem_of_getElem? hcall)
  have hunset := World.unsettled_of_returned hcall hwf hun hpc hs
  obtain ⟨hn, he⟩ := World.calls_net hi ls
  have hb := (World.money hi ls).2.1
  have hzero : ∀ f, Bank.standing f ((w.exec ls).bank.progress i) = 0 := by
    intro f
    cases hpr : (w.exec ls).bank.progress i with
    | none => rfl
    | some pr => exact if_neg (hunset pr hpr)
  refine ⟨fun a => ?_, fun e hw => ?_, fun hown txnID row hauthor hrow => ?_⟩
  · obtain ⟨hav, hre⟩ := hn.balances hb i a
    exact ⟨hav.trans (hzero _), hre.trans (hzero _)⟩
  · obtain ⟨pr, hpr, -, hgone⟩ := he.own i e hw
    exact hgone (hunset pr hpr)
  · exact (World.authors hi hown).unsettled hunset hauthor hrow

/-! ## A failed payment that was paid -/

/-- `alice` pays 30 to `bob`. -/
def rollbackDecode : String → Option SignedPaymentIntent
  | "pay" => some (PaymentIntentPayload.signedBy
      ⟨"T", "alice", "bob", 30, "USD", "N", 1000000000000, "phone", "K"⟩ "alice-key")
  | _ => none

/-- The payment, with the given outer transaction id. `PUBLISH` fails, and so do the next `n` tries
at compensating `LEDGER_COMMIT`. -/
def rollbackRun (txnID : String) (n : ℕ) : List Label :=
  Label.setup ["K"] ++ [.startSettle ⟨"", "pay", "N", "", txnID, ""⟩ 0] ++ Label.settles 0 8
    ++ List.replicate (1 + n) (Label.settleFails 0) ++ Label.settles 0 12

/-- The error that the call reports. -/
def rollbackError : GoError := ⟨"saga aborted on step PUBLISH: driver: bad connection", false⟩

/-- `Settle` reports a failure, and `bob` has the money. -/
theorem failed_settlement_pays :
    (World.start (E := .simple rollbackDecode) ()).Initial ∧
    ((World.start (E := .simple rollbackDecode) ()).exec (rollbackRun "T" 0)).calls[0]?.map
      SettleCall.pc = some (.returned .failed (some rollbackError)) ∧
    History.net (DB.available · "bob") 0
      ((World.start (E := .simple rollbackDecode) ()).exec (rollbackRun "T" 0)).history ≠ 0 :=
  ⟨World.start_initial _, by decide +kernel⟩

/-- Under another outer id the third try commits, and nothing is left. -/
theorem failed_settlement_leaves_nothing_third_try :
    (World.start (E := .simple rollbackDecode) ()).AllComplete (rollbackRun "tok-res-K" 2) ∧
    (World.start (E := .simple rollbackDecode) ()).OwnRows (rollbackRun "tok-res-K" 2) ∧
    History.net (DB.available · "bob") 0
      ((World.start (E := .simple rollbackDecode) ()).exec (rollbackRun "tok-res-K" 2)).history
        = 0 := by
  obtain ⟨hall, hown, hreturned⟩ :
      (World.start (E := .simple rollbackDecode) ()).AllComplete (rollbackRun "tok-res-K" 2)
      ∧ (World.start (E := .simple rollbackDecode) ()).OwnRows (rollbackRun "tok-res-K" 2)
      ∧ ((World.start (E := .simple rollbackDecode) ()).exec
        (rollbackRun "tok-res-K" 2)).calls[0]?.map SettleCall.pc
          = some (.returned .failed (some rollbackError)) := by decide +kernel
  obtain ⟨call, hcall, hpc⟩ := Option.map_eq_some_iff.mp hreturned
  exact ⟨hall, hown, ((failed_settlement_leaves_nothing _ (World.start_initial _) _ hall 0 call hcall
    _ _ hpc (by decide)).1 "bob").1⟩

end OfflinePay
