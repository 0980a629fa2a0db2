import OfflinePay.System.Intents

/-!
# Runs without faults

`PUBLISH` writes rows that nothing in the database can refuse. When no transaction is lost it
commits, so a saga whose `LEDGER_COMMIT` has committed runs to its end, and only sagas that failed
before it are compensated. A run without faults therefore compensates no `LEDGER_COMMIT`, and its
sagas find their own rows.
-/

namespace OfflinePay

open Tx Repository Settlement

/-- Nothing fails in this move. -/
def Label.faultFree : Label → Bool
  | .createAccount _ _ fault _ | .registerDevice _ fault | .updateDeviceStatus _ _ fault _
  | .attestDevice _ fault | .release _ fault _ | .scan _ fault _ => fault.isNone
  | .issueToken _ _ _ _ faults _ => faults.limit.isNone && faults.reserve.isNone && !faults.lookup
      && !faults.device && faults.commit.isNone
  | .settle _ input => input.fault.isNone && input.readFault.isNone
  | .startSettle _ _ | .startRelease _ | .startScan _ => true

/-! ## Sagas that fail early -/

/-- A saga that failed did so before its `LEDGER_COMMIT` committed. -/
def Saga.Pc.FailsEarly : Saga.Pc → Prop
  | .compensating executed _ _ _ | .done executed _ (some _) => executed ≤ 2
  | _ => True

theorem Saga.Pc.FailsEarly.step {o : Order} {input : Input} {pc : Saga.Pc} (he : pc.FailsEarly)
    (hfault : input.fault = none)
    (hfit : 2 < pc.executed → Pg.varchar 100 o.payload.txnID = true) (db : DB) :
    (pc.step (createSagaState o.payload.txnID) (steps o) input.fault input db).1.FailsEarly := by
  match pc with
  | .create =>
    simp only [Saga.Pc.step]
    split
    · exact Nat.zero_le 2
    · trivial
  | .running k =>
    simp only [Saga.Pc.step]
    split
    · trivial
    · next st hst =>
      split
      · next e db' htx =>
        show k ≤ 2
        by_contra hk
        -- the only step after `LEDGER_COMMIT` is `PUBLISH`
        obtain rfl : k = 3 := by
          have hlt := (List.getElem?_eq_some_iff.mp hst).1
          rw [SettleCall.steps_length] at hlt
          omega
        obtain rfl := Option.some.inj hst
        obtain ⟨db₁, hok⟩ := publish_commits (hfit (not_le.mp hk)) input db
        rw [withTx_ok.mpr ⟨hfault, hok⟩] at htx
        exact absurd (Prod.mk.inj htx).1 (by simp)
      · trivial
  | .compensating executed 0 attempt err => exact he
  | .compensating executed (r + 1) attempt err =>
    simp only [Saga.Pc.step]
    split
    · exact he
    · split
      · exact he
      · split <;> exact he
  | .done executed standing err => exact he

/-- A saga with compensated steps failed. -/
theorem Saga.Pc.FailsEarly.executed_le {pc : Saga.Pc} (he : pc.FailsEarly) (hwf : pc.Wf 4)
    (hs : pc.standing < pc.executed) : pc.executed ≤ 2 := by
  match pc, he with
  | .create, _ | .running _, _ => exact absurd hs (lt_irrefl _)
  | .compensating .., he => exact he
  | .done _ _ none, _ =>
    obtain ⟨rfl, rfl⟩ := hwf
    exact absurd hs (lt_irrefl _)
  | .done _ _ (some _), he => exact he

namespace Bank

variable {b b' : Bank} {txn : Option Txn}

/-- The transaction id of a saga that has committed a step fits its column. -/
def Fits (b : Bank) : Prop :=
  ∀ i pr, b.progress i = some pr → 0 < pr.executed → Pg.varchar 100 pr.txnID = true

theorem Fits.step (hf : b.Fits) (h : Step b txn b') : b'.Fits := by
  intro i pr hpr hex
  obtain hpr | ⟨o, rfl⟩ | ⟨before, p, input, hbefore, ⟨hord, hadv⟩, hdb, -⟩ := h.progress_before hpr
  · exact hf i pr hpr hex
  · exact absurd hex (lt_irrefl 0)
  · cases hdb with
    | reserve hh => exact hh.fits
    | _ =>
      rw [Progress.txnID, hord]
      refine hf i before hbefore ?_
      simp only at hadv
      omega

/-- Sagas with compensated steps have not got to `LEDGER_COMMIT`. -/
def Early (b : Bank) : Prop :=
  ∀ i pr, b.progress i = some pr → pr.standing < pr.executed → pr.executed ≤ 2

theorem Step.compensated {i k : ℕ} {o : Order} (hc : b.Counters)
    (h : Step b (some (.phase i o (.compensation k))) b') (he : b'.Early) :
    ∃ pr, b.progress i = some pr ∧ pr.executed ≤ 2 ∧ k < pr.executed := by
  cases h.effect with
  | quiet hplain => exact absurd (hplain _ rfl) (by simp [Txn.plain])
  | phase before after hbefore horder hadv hdb hprogress =>
    obtain ⟨-, hst, hst', hex⟩ := hadv
    have hle := (hc i before hbefore).standing_le
    have hafter := he i after (progress_self hprogress) (by omega)
    exact ⟨before, hbefore, by omega, by omega⟩

/-- Between states without late compensations no `LEDGER_COMMIT` is compensated, and the
compensation of a `RESERVE` finds its own row. -/
theorem Step.early (hc : b.Counters) (h : Step b txn b') (he : b'.Early) :
    b.OwnRow txn ∧ ∀ i o, txn ≠ some (.ledgerUndo i o) := by
  constructor
  · rintro ⟨i, o⟩ hx
    obtain ⟨t, rfl, ht⟩ := Option.bind_eq_some_iff.mp hx
    unfold Txn.reserveUndo? at ht
    split at ht
    · obtain ⟨rfl, rfl⟩ := by simpa using ht
      obtain ⟨pr, hpr, hle, -⟩ := h.compensated hc he
      left
      intro pr' hpr'
      obtain rfl := Option.some.inj (hpr.symm.trans hpr')
      exact hle
    · simp at ht
  · rintro i o rfl
    obtain ⟨pr, hpr, hle, hlt⟩ := h.compensated hc he
    omega

end Bank

namespace World

variable {E : Externals} {w : World E}

/-- Nothing fails in the run. -/
abbrev FaultFree (w : World E) (ls : List Label) : Prop :=
  Steps (fun _ l => l.faultFree = true) w ls

theorem early_of_calls (hw : ∀ call ∈ w.calls, call.Wf ∧ call.saga.FailsEarly) : w.bank.Early := by
  intro i pr hpr hlt
  obtain ⟨call, hcall, hpr⟩ := Option.bind_eq_some_iff.mp hpr
  obtain ⟨o, horder, rfl⟩ := Option.map_eq_some_iff.mp hpr
  obtain ⟨hwf, he⟩ := hw call (List.mem_of_getElem? hcall)
  exact he.executed_le (hwf.saga (by simp [horder])) hlt

/-- A run without faults compensates no `LEDGER_COMMIT`, and its sagas find their own rows. -/
theorem FaultFree.early (hi : w.Initial) {ls : List Label} (hff : w.FaultFree ls) :
    Steps (fun w l => w.bank.OwnRow (w.commits l) ∧ ∀ i o, w.commits l ≠ some (.ledgerUndo i o))
      w ls := by
  refine Run.steps_of_invariant (I := fun w : World E => w.bank.Counters ∧ w.bank.Fits ∧
    ∀ call ∈ w.calls, call.Wf ∧ call.saga.FailsEarly) ?_ ?_ hff
  · rintro w l ⟨hc, hf, hw⟩ hl
    have h := (step_refines (fun call hcall => (hw call hcall).1) l).1
    have hw' : ∀ call ∈ (w.step l).calls, call.Wf ∧ call.saga.FailsEarly := by
      refine calls_step (J := fun call => call.saga.FailsEarly) hw ?_ fun env hop => trivial
      rintro i input call rfl hcall hwf he
      rcases SettleCall.step_saga call input w.db w.risk with hsame | ⟨o, hpc, horder, hsaga⟩
      · rw [hsame]
        exact he
      · rw [hsaga]
        have hfault : input.fault = none := by simp_all [Label.faultFree]
        refine he.step hfault (fun hlt => ?_) w.db
        refine hf i ⟨o, call.saga.executed, call.saga.standing⟩ ?_ (by simp only; omega)
        show w.progress i = _
        rw [progress_of_call hcall, horder, Option.map_some]
    exact ⟨⟨hc.step h, hf.step h, hw'⟩, h.early hc (early_of_calls hw')⟩
  · refine ⟨hi.sound.counters, fun i pr hpr => by simp [hi.progress] at hpr, ?_⟩
    rw [hi.calls]
    simp

theorem FaultFree.ownRows (hi : w.Initial) {ls : List Label} (hff : w.FaultFree ls) :
    w.OwnRows ls :=
  Run.steps_mono (fun _ _ h => h.1) (hff.early hi)

end World

end OfflinePay
