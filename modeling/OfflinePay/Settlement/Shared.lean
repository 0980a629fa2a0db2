import OfflinePay.Settlement.Solo
import OfflinePay.Settlement.Verdict

/-!
# A `Settle` call among others

`Shared` is one call together with what it has committed itself; between any two of its transactions
other operations may leave any database behind. `Opened` says that the call works on the payload of
its envelope and nothing else.
-/

namespace OfflinePay

open Settlement Repository

variable {E : Externals}

/-! ## The machine -/

namespace Settlement

variable (E) in
/-- A call, the database, the risk engine, and what the call has committed. -/
structure Shared extends Solo E where
  wrote : List Wrote

namespace Shared

variable (E) in
/-- A step of the call, or what other operations made of the database. -/
inductive Label where
  | step (input : Input)
  | other (db : DB) (risk : E.RiskState)

def start (env : EncryptedEnvelope) (hopCount : ℤ) (db : DB) (risk : E.RiskState) : Shared E :=
  { Solo.start env hopCount db risk with wrote := [] }

def move (s : Shared E) : Label E → Shared E
  | .step input => { s.toSolo.step input with wrote := (s.commits input).toList ++ s.wrote }
  | .other db risk => { s with db, risk }

abbrev exec (s : Shared E) (labels : List (Label E)) : Shared E := Run.exec move s labels

end Shared

end Settlement

/-! ## What the call works on -/

/-- The opened envelope of a call in validation. -/
def Settlement.Pc.signed? : Pc → Option SignedPaymentIntent
  | .attestation signed | .device signed | .token signed _ => some signed
  | _ => none

namespace Settlement.SettleCall

/-- The call works on the payload of its envelope. -/
structure Opened (E : Externals) (call : SettleCall) : Prop where
  signed : ∀ signed ∈ call.pc.signed?, openEnvelope E call.env = .ok signed
  order : ∀ o ∈ call.order, o.env = call.env ∧
    ∃ signed, openEnvelope E call.env = .ok signed ∧ signed.payload = o.payload

variable {call call' : SettleCall} {input : Input} {db : DB} {w : Option Wrote}

theorem Opened.past (h : call.Opened E) {pc : Pc} (hpc : pc.signed? = none) :
    { call with pc }.Opened E where
  signed signed hsigned := by
    rw [hpc] at hsigned
    cases hsigned
  order := h.order

theorem signed?_of_verdict {status : PaymentStatus} (h : call.verdict? = some status) :
    call.pc.signed? = none := by
  match hpc : call.pc with
  | .attestation _ | .device _ | .token _ _ =>
    rw [verdict?, hpc] at h
    cases h
  | .idempotency | .saga | .saveIntent _ _ | .saveOutbox _ _ | .saveEvent _ _ | .lookup _ | .record _ _
  | .returned _ _ => rfl

theorem Opened.went (h : call.Opened E) (hwent : Went E input db call call' w) :
    call'.Opened E := by
  cases hwent with
  | processed => exact h.past rfl
  | opened _ hopen => exact ⟨by rintro _ ⟨⟩; exact hopen, h.order⟩
  | attested hpc => exact ⟨by rintro _ ⟨⟩; exact h.signed _ (by rw [hpc]; rfl), h.order⟩
  | deviceFound hpc => exact ⟨by rintro _ ⟨⟩; exact h.signed _ (by rw [hpc]; rfl), h.order⟩
  | @begun signed device o hpc _ hfind =>
    obtain ⟨henv, -, hpayload, -⟩ := findToken_ok hfind
    refine ⟨nofun, ?_⟩
    rintro _ ⟨⟩
    exact ⟨henv, signed, h.signed _ (by rw [hpc]; rfl), hpayload.symm⟩
  | tokenRefused => exact h.past rfl
  | refused => exact h.past rfl
  | @saga o =>
    refine ⟨fun signed hsigned => ?_, h.order⟩
    rw [runSaga_call] at hsigned
    dsimp only at hsigned
    split at hsigned <;> cases hsigned
  | reported _ _ h' => exact h.past (signed?_of_verdict h')

/-! ## Refused calls -/

/-- A call without an order is quiet. -/
theorem Moved.quiet_of_order {db' : DB} (h : Moved input call db call' db' w)
    (horder : call.order = none) : db.Quiet db' := by
  cases h with
  | quiet _ hdb => exact hdb
  | begin hdb => exact hdb ▸ DB.Quiet.refl db
  | phase hsome => exact absurd (horder.symm.trans hsome) nofun

/-- A call that has failed without an order gets none. -/
theorem Went.order_eq_none (h : Went E input db call call' w) (horder : call.order = none)
    (hverdict : call.verdict? ≠ none) : call'.order = none := by
  cases h with
  | begun hpc => exact absurd (by rw [verdict?, hpc]) hverdict
  | saga _ hsome =>
    rw [horder] at hsome
    cases hsome
  | _ => exact horder

end Settlement.SettleCall

/-- A call that has failed before its saga is quiet to its end. -/
theorem Settlement.Solo.refused_quiet {s : Solo E} (hwf : s.call.Wf) (horder : s.call.order = none)
    (hverdict : s.call.verdict? ≠ none) (inputs : List Input) : s.db.Quiet (s.exec inputs).db := by
  refine (Solo.invariant (I := fun t : Solo E => s.db.Quiet t.db ∧ t.call.Wf ∧ t.call.order = none ∧
    t.call.verdict? ≠ none) ?_ ⟨DB.Quiet.refl s.db, hwf, horder, hverdict⟩ inputs).1
  rintro t input ⟨hdb, hwf, horder, hverdict⟩
  obtain ⟨hmoved, hwf'⟩ := Solo.moved hwf input
  have hwent : SettleCall.Went E input t.db t.call (t.step input).call (t.commits input) :=
    SettleCall.step_went hwf t.risk
  refine ⟨hdb.trans (hmoved.quiet_of_order horder), hwf', hwent.order_eq_none horder hverdict, ?_⟩
  exact fun hnone => hverdict (hwent.undecided hnone)

namespace Settlement.Shared

theorem went {s : Shared E} (hwf : s.call.Wf) (input : Input) :
    SettleCall.Went E input s.db s.call (s.move (.step input)).call (s.commits input) :=
  SettleCall.step_went hwf s.risk

end Settlement.Shared

end OfflinePay
