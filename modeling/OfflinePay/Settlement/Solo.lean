import OfflinePay.Saga.Execution
import OfflinePay.Settlement.Settle

/-!
# A `Settle` call that runs alone

`Solo` is one call and the database, with nothing in between its transactions, started from any
database. `returns` bounds the number of steps it takes.
-/

namespace OfflinePay.Settlement

open Tx Repository

variable {E : Externals}

/-! ## Relations that every step keeps -/

section Keeps

variable {K : Kinds} {R : DB → DB → Prop} [IsPreorder DB R]

theorem lockBalances_keeps (failed : String → GoError → GoError) (senderID receiverID : String) :
    Keeps R (lockBalances failed senderID receiverID) := by
  intro db bals db' h
  rw [(lockBalances_ok.mp h).2.2]
  exact Std.Refl.refl db'

/-- The payload of the outbox event of `saveFailedIntent`. -/
def failedJson (env : EncryptedEnvelope) (hopCount : ℤ) (f : Failure) : Json :=
  .obj [("txn_id", .str env.txnID), ("status", .str f.status.text), ("reason", .str f.reason),
    ("relay_hops", .num hopCount)]

/-- The relation is kept by all that a settlement writes, and it writes only the kinds `K`. -/
structure StatementsFor (K : Kinds) (R : DB → DB → Prop) : Prop
    extends toRecovery : Recovery.StatementsFor K R where
  reservedIntent : ∀ (o : Order) now, K.intent (o.reservedIntent now)
  failedIntent : ∀ env hopCount f now, K.intent (failedIntent env hopCount f now)
  settledStatus : K.status .settled
  settledEvent : K.event "IntentSettled" 1
  failedEvent : K.event "IntentFailed" 1
  settled : ∀ (o : Order) now, K.outbox "payment.settled" "PaymentSettled" (o.settledJson now)
  failed : ∀ env hopCount f, K.outbox "payment.failed" "PaymentFailed" (failedJson env hopCount f)

omit [IsPreorder DB R] in
/-- A relation that every statement keeps. -/
theorem StatementsFor.ofStatements {device : Device → Prop} (hR : Recovery.Statements R) :
    Settlement.StatementsFor { device } R :=
  { hR.toStatements.toFor { device } with
    insertFailure := hR.insertFailure
    insertOperation := hR.insertOperation
    diagnosed := fun _ _ _ => trivial
    diagnosedEvent := trivial
    reservedIntent := fun _ _ => trivial
    failedIntent := fun _ _ _ _ => trivial
    settledStatus := trivial
    settledEvent := trivial
    failedEvent := trivial
    settled := fun _ _ => trivial
    failed := fun _ _ _ => trivial }

/-- What every statement keeps, every action and compensation of the saga keeps. -/
theorem steps_keep (hR : Settlement.StatementsFor K R) (o : Order) (input : Input)
    (st : Saga.SagaStep Input DB) (hst : st ∈ steps o) :
    Keeps R (st.action input) ∧ ∀ compensate ∈ st.compensate, Keeps R (compensate input) := by
  simp only [steps, List.mem_cons, List.not_mem_nil, or_false] at hst
  rcases hst with rfl | rfl | rfl | rfl
  · refine ⟨?_, ?_⟩
    · exact keeps_bind (lockBalances_keeps _ _ _) fun _ => keeps_bind (keeps_check _ _) fun _ =>
        keeps_bind (keeps_mapError (hR.createPaymentIntent _ (hR.reservedIntent _ _))) fun _ =>
        keeps_mapError (hR.registerNonce _ _ _)
    · rintro _ ⟨⟩
      refine keeps_bind (hR.deleteNonce _) fun _ => keeps_bind (keeps_view _) fun status => ?_
      split
      · exact hR.deletePaymentIntent _
      · exact keeps_pure ()
  · refine ⟨?_, ?_⟩
    · exact keeps_bind (keeps_select _ _) fun _ => keeps_bind (keeps_check _ _) fun _ =>
        hR.updateToken _ _ _
    · rintro _ ⟨⟩
      refine keeps_bind (keeps_view _) fun status => ?_
      split
      · exact hR.updateToken _ _ _
      · exact keeps_pure ()
  · refine ⟨?_, ?_⟩
    · exact keeps_bind (hR.updateToken _ _ _) fun _ =>
        keeps_bind (lockBalances_keeps _ _ _) fun _ =>
        keeps_bind (hR.updateBalance _ _ _ _) fun _ =>
        keeps_bind (hR.updateBalance _ _ _ _) fun _ =>
        keeps_bind (hR.updatePaymentIntentStatus _ _ _ _ hR.settledStatus) fun _ =>
        keeps_bind (hR.createLedgerEntry _ _ _ _ _ _) fun _ =>
        keeps_bind (hR.createLedgerEntry _ _ _ _ _ _) fun _ => hR.createLedgerEntry _ _ _ _ _ _
    · rintro _ ⟨⟩
      exact keeps_bind (lockBalances_keeps _ _ _) fun _ =>
        keeps_bind (hR.updateBalance _ _ _ _) fun _ =>
        keeps_bind (hR.updateBalance _ _ _ _) fun _ =>
        keeps_bind (hR.deleteLedgerEntries _ _) fun _ => hR.deletePaymentIntent _
  · refine ⟨?_, ?_⟩
    · refine keeps_bind (hR.createAuditEvent _ _ _) fun _ =>
        keeps_bind (hR.createOutboxEvent _ _ _ (hR.settled _ _)) fun _ =>
        keeps_bind (keeps_view _) fun _ => ?_
      split
      · exact keeps_mapError (hR.createPaymentEvent _ _ _ _ _ hR.settledEvent)
      · exact keeps_pure ()
    · rintro _ ⟨⟩ db u db' h
      exact absurd h unpublish_ne_ok

theorem SettleCall.write_keeps {body : DBTx Unit} (hbody : Keeps R body)
    (call : SettleCall) (fault : Option GoError) (next : Pc) (db : DB) :
    R db (call.write fault body next db).2.1 := by
  have hk := keeps_withTx hbody fault db
  unfold write
  split <;> next h => simpa [h] using hk

/-- What every statement keeps, every step of a call keeps. -/
theorem SettleCall.step_keeps (hR : Settlement.StatementsFor K R) (call : SettleCall)
    (input : Input) (db : DB) (risk : E.RiskState) : R db (call.step E input db risk).2.1 := by
  have hrefl : R db db := Std.Refl.refl db
  unfold step
  match call.pc with
  | .idempotency =>
    dsimp only
    split
    · exact hrefl
    · split <;> exact hrefl
  | .attestation signed => dsimp only; split <;> exact hrefl
  | .device signed => dsimp only; split <;> exact hrefl
  | .token signed device =>
    dsimp only
    split
    · exact hrefl
    · split <;> exact hrefl
  | .saga =>
    dsimp only
    split
    · exact hrefl
    · next o _ =>
      exact Saga.Pc.step_keeps (keeps_check _ _) (steps_keep hR o input) input.fault call.saga db
  | .saveIntent f recover =>
    exact write_keeps (hR.createPaymentIntent _ (hR.failedIntent _ _ _ _)) call _ _ db
  | .saveOutbox f recover =>
    exact write_keeps (hR.createOutboxEvent _ _ _ (hR.failed _ _ _)) call _ _ db
  | .saveEvent f recover =>
    exact write_keeps (hR.createPaymentEvent _ _ _ _ _ hR.failedEvent) call _ _ db
  | .lookup f => dsimp only; split <;> exact hrefl
  | .record f current => exact write_keeps (hR.recordFailure _ _ _ _ _ _) call _ _ db
  | .returned status err => exact hrefl

end Keeps

/-- No step of a call touches a device. -/
theorem SettleCall.step_devices (call : SettleCall) (input : Input) (db : DB) (risk : E.RiskState) :
    db.SameDevices (call.step E input db risk).2.1 :=
  call.step_keeps (K := {}) (.ofStatements Recovery.sameDevices) input db risk

/-- A call keeps its envelope and its number of hops. -/
theorem SettleCall.step_envelope (call : SettleCall) (input : Input) (db : DB) (risk : E.RiskState) :
    (call.step E input db risk).1.env = call.env ∧
      (call.step E input db risk).1.hopCount = call.hopCount := by
  have hwrite : ∀ fault body next, (call.write fault body next db).1.env = call.env ∧
      (call.write fault body next db).1.hopCount = call.hopCount := by
    intro fault body next
    rw [write_call]
    exact ⟨rfl, rfl⟩
  unfold SettleCall.step
  cases call.pc with
  | saveIntent f recover => exact hwrite _ _ _
  | saveOutbox f recover => exact hwrite _ _ _
  | saveEvent f recover => exact hwrite _ _ _
  | record f current => exact hwrite _ _ _
  | _ =>
    dsimp only
    (repeat' split) <;> exact ⟨rfl, rfl⟩

/-! ## The machine -/

variable (E) in
/-- A call, the database and the risk engine. -/
structure Solo where
  call : SettleCall
  db : DB
  risk : E.RiskState

namespace Solo

/-- A call that is about to start. -/
def start (env : EncryptedEnvelope) (hopCount : ℤ) (db : DB) (risk : E.RiskState) : Solo E :=
  ⟨{ env, hopCount }, db, risk⟩

/-- The next step of the call. -/
def step (s : Solo E) (input : Input) : Solo E :=
  let r := s.call.step E input s.db s.risk
  ⟨r.1, r.2.1, r.2.2.1⟩

/-- What the next step commits. -/
def commits (s : Solo E) (input : Input) : Option Wrote := (s.call.step E input s.db s.risk).2.2.2

/-- The state after some steps. -/
abbrev exec (s : Solo E) (inputs : List Input) : Solo E := Run.exec step s inputs

/-- The status that the call has returned. -/
def status? (s : Solo E) : Option PaymentStatus :=
  match s.call.pc with
  | .returned status _ => some status
  | _ => none

/-- What every step keeps holds after any number of steps. -/
theorem invariant {I : Solo E → Prop} (hstep : ∀ s input, I s → I (s.step input)) {s : Solo E}
    (hs : I s) (inputs : List Input) : I (s.exec inputs) :=
  Run.exec_invariant (fun s input h _ => hstep s input h) hs (Run.steps_true s inputs)

/-- What one step of a well-formed call did. -/
theorem moved {s : Solo E} (hwf : s.call.Wf) (input : Input) :
    SettleCall.Moved input s.call s.db (s.step input).call (s.step input).db (s.commits input) ∧
      (s.step input).call.Wf := by
  have hstep : s.call.step E input s.db s.risk
      = ((s.step input).call, (s.step input).db, (s.step input).risk, s.commits input) := rfl
  exact SettleCall.step_cases hwf hstep

theorem wf_start (env : EncryptedEnvelope) (hopCount : ℤ) (db : DB) (risk : E.RiskState) :
    (start env hopCount db risk).call.Wf :=
  ⟨rfl, rfl⟩

theorem wf_exec {s : Solo E} (hwf : s.call.Wf) (inputs : List Input) : (s.exec inputs).call.Wf :=
  invariant (I := fun s => s.call.Wf) (fun _ input hwf => (moved hwf input).2) hwf inputs

end Solo

/-! ## How long a call takes -/

namespace SettleCall

/-- At most this many steps are left of a call. -/
def rank (call : SettleCall) : ℕ :=
  match call.pc with
  | .idempotency => 31
  | .attestation _ => 30
  | .device _ => 29
  | .token _ _ => 28
  | .saga => call.saga.rank 4 + 6
  | .saveIntent _ _ => 5
  | .saveOutbox _ _ => 4
  | .saveEvent _ _ => 3
  | .lookup _ => 2
  | .record _ _ => 1
  | .returned _ _ => 0

theorem rank_runSaga (call : SettleCall) (o : Order) (input : Input) (db : DB) :
    (call.runSaga o input db).1.rank ≤ call.saga.rank 4 + 6 - 1 := by
  have hsaga := call.saga.rank_step (createSagaState o.payload.txnID) (steps o) input.fault input db
  unfold runSaga
  generalize call.saga.step (createSagaState o.payload.txnID) (steps o) input.fault input db = r at hsaga ⊢
  obtain ⟨saga, db', phase⟩ := r
  change saga.rank 4 ≤ call.saga.rank 4 - 1 at hsaga
  dsimp only [rank]
  cases hresult : saga.result? with
  | none =>
    have hpos : saga.rank 4 ≠ 0 := fun h => Saga.Pc.result?_of_rank h hresult
    dsimp only
    omega
  | some result =>
    cases result with
    | none => exact Nat.zero_le _
    | some err => exact Nat.le_add_left 5 _

theorem rank_step {call : SettleCall} (hwf : call.Wf) (input : Input) (db : DB)
    (risk : E.RiskState) :
    (call.step E input db risk).1.rank ≤ call.rank - 1 := by
  have hwrite : ∀ fault body next,
      (call.write fault body next db).1.rank = ({ call with pc := next } : SettleCall).rank :=
    fun fault body next => by rw [write_call]
  rw [rank.eq_def call]
  unfold step
  unfold Wf at hwf
  match hpc : call.pc with
  | .idempotency =>
    dsimp only
    split
    · exact Nat.zero_le _
    · split
      · exact Nat.le_of_ble_eq_true rfl
      · exact le_refl _
  | .attestation signed =>
    dsimp only
    split
    · exact Nat.le_of_ble_eq_true rfl
    · exact le_refl _
  | .device signed =>
    dsimp only
    split
    · exact Nat.le_of_ble_eq_true rfl
    · exact le_refl _
  | .token signed device =>
    rw [hpc] at hwf
    dsimp only
    split
    · exact Nat.le_of_ble_eq_true rfl
    · split
      · exact Nat.le_of_ble_eq_true rfl
      · rw [rank, hwf.2]
        exact le_refl _
  | .saga =>
    rw [hpc] at hwf
    obtain ⟨o, horder⟩ := Option.ne_none_iff_exists'.mp hwf.1
    rw [horder]
    exact call.rank_runSaga o input db
  | .saveIntent f recover => exact (hwrite _ _ _).le
  | .saveOutbox f recover => exact (hwrite _ _ _).le
  | .saveEvent f recover =>
    cases recover with
    | true => exact (hwrite _ _ _).le
    | false => exact (hwrite _ _ _).le.trans (Nat.zero_le _)
  | .lookup f =>
    dsimp only
    split
    · exact le_refl _
    · exact Nat.zero_le _
  | .record f current => exact (hwrite _ _ _).le
  | .returned status err => exact le_refl _

end SettleCall

/-- Whatever fails, a call returns within 31 steps. -/
theorem Solo.returns (env : EncryptedEnvelope) (hopCount : ℤ) (db : DB) (risk : E.RiskState)
    {inputs : List Input} (hlen : 31 ≤ inputs.length) :
    ((start env hopCount db risk).exec inputs).status? ≠ none := by
  have hrank := Run.exec_measure (I := fun s : Solo E => s.call.Wf) (m := fun s => s.call.rank)
    (fun s input hwf => ⟨(moved hwf input).2, SettleCall.rank_step hwf input s.db s.risk⟩)
    (wf_start env hopCount db risk) inputs
  have hzero : ((start env hopCount db risk).exec inputs).call.rank = 0 := by
    change ((start env hopCount db risk).exec inputs).call.rank ≤ 31 - inputs.length at hrank
    omega
  intro hnone
  unfold status? at hnone
  split at hnone
  · cases hnone
  · next hpc =>
    unfold SettleCall.rank at hzero
    split at hzero
    all_goals first | exact absurd hzero (by omega) | next hreturned => exact hpc _ _ hreturned

end OfflinePay.Settlement
