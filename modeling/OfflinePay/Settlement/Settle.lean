import OfflinePay.Recovery.Manager
import OfflinePay.Settlement.Effects

/-!
# Settling an envelope

Reference: `internal/settlement/service.go`, `Service.Settle` and `saveFailedIntent`.

A `Settle` call is a machine as well: `Pc` is the next thing it asks the database, and
`SettleCall.step` does it. Checks that ask nothing of the database belong to the step before them.
Each step takes its own `Input`, so the clock moves and reads and writes can fail on their own.

`step_cases` says everything one step can do: it is quiet, it finishes validation with an order, or
it commits a phase of the saga of its order.
-/

namespace OfflinePay.Settlement

open Tx Repository

/-- What `Settle` reports when it did not settle. -/
structure Failure where
  status : PaymentStatus
  reason : String
  err : GoError
  unsettled : status ≠ .settled
deriving DecidableEq

/-- `StateRejected` with a reason and an error. -/
def Failure.rejected (reason : String) (err : GoError) : Failure :=
  ⟨.rejected, reason, err, by decide⟩

/-- The next thing a `Settle` call does. `recover` tells whether the failure goes to the recovery
manager, which is so for saga failures only. -/
inductive Pc where
  | idempotency
  | attestation (signed : SignedPaymentIntent)
  | device (signed : SignedPaymentIntent)
  | token (signed : SignedPaymentIntent) (device : Device)
  | saga
  | saveIntent (f : Failure) (recover : Bool)
  | saveOutbox (f : Failure) (recover : Bool)
  | saveEvent (f : Failure) (recover : Bool)
  | lookup (f : Failure)
  | record (f : Failure) (current : PaymentIntent)
  | returned (status : PaymentStatus) (err : Option GoError)
deriving DecidableEq

/-- `Settle` has returned. -/
def Pc.isReturned : Pc → Bool
  | .returned _ _ => true
  | _ => false

/-- A running or finished `Settle` call. -/
structure SettleCall where
  env : EncryptedEnvelope
  hopCount : ℤ
  order : Option Order := none
  saga : Saga.Pc := .create
  pc : Pc := .idempotency
deriving DecidableEq

/-- What a step wrote. -/
inductive Wrote where
  | phase (o : Order) (p : Saga.Phase)
  | note
deriving DecidableEq

variable (E : Externals)

/-! ## Validation -/

/-- Steps 2 and 3 of `Settle`: decrypt and unmarshal. -/
def openEnvelope (env : EncryptedEnvelope) : Except Failure SignedPaymentIntent :=
  match E.decryptECIES env.ephemeralPublicKey env.ciphertext env.iv env.authTag with
  | .error e => .error (.rejected "decryption_failure" (e.wrap "decryption failure: "))
  | .ok plaintext =>
    match E.unmarshalIntent plaintext with
    | .error e => .error (.rejected "malformed_json_payload" (e.wrap "malformed json payload: "))
    | .ok signed => .ok signed

/-- Step 1: the error for a transaction that is already processed. A failed read is taken for a new
transaction. -/
def alreadyProcessed (env : EncryptedEnvelope) (input : Input) (db : DB) : Option GoError :=
  match input.readFault, getPaymentIntent db env.txnID with
  | none, some existing =>
    if existing.status.isFinal then
      some ⟨"transaction already processed with status: " ++ existing.status.text, false⟩
    else none
  | _, _ => none

/-- Step 4: a failed read or a missing attestation is let through. -/
def checkAttestation (payload : PaymentIntentPayload) (input : Input) (db : DB) :
    Except Failure Unit :=
  match input.readFault, getDeviceAttestation db payload.deviceID with
  | none, some att =>
    if att.trustLevel = "UNTRUSTED" then
      .error (.rejected "device_attestation_untrusted"
        ⟨"device attestation verification failed: untrusted level", false⟩)
    else .ok ()
  | _, _ => .ok ()

/-- Steps 5 to 7 and the first check of step 8, on the device that was found. -/
def checkDevice (signed : SignedPaymentIntent) (device : Device) (now : Time) :
    Except Failure Device :=
  if device.barred then
    .error (.rejected "device_revoked_or_compromised"
      ⟨"device is revoked/compromised (status: " ++ device.status.text ++ ")", false⟩)
  else
    match E.parsePEMToPublicKey device.publicKey with
    | .error e => .error (.rejected "invalid_device_public_key" e)
    | .ok devicePub =>
      if !E.verify devicePub (getCanonicalPayloadString signed.payload) signed.deviceSignature then
        .error (.rejected "invalid_device_signature" ⟨"invalid device signature", false⟩)
      else if signed.payload.expiry < now then
        .error ⟨.expired, "transaction_expired", ⟨"transaction expired", false⟩, by decide⟩
      else if signed.payload.tokenID = "" then
        .error (.rejected "missing_offline_token"
          ⟨"offline transactions require a spending token", false⟩)
      else .ok device

/-- Steps 5 to 7. -/
def findDevice (signed : SignedPaymentIntent) (input : Input) (db : DB) : Except Failure Device :=
  match input.readFault, getDevice db signed.payload.deviceID with
  | some e, _ => .error (.rejected "device_not_found" (e.wrap "device not found: "))
  | none, none =>
    .error (.rejected "device_not_found" (GoError.errNoRows.wrap "device not found: "))
  | none, some device => checkDevice E signed device input.now

/-- The checks of step 8 on the token that was found. -/
def checkToken (env : EncryptedEnvelope) (hopCount : ℤ) (payload : PaymentIntentPayload)
    (token : OfflineToken) (token_eq : token.tokenID = payload.tokenID) (now : Time) :
    Except Failure Order :=
  if !E.verify E.bankPublicKey
      (canonicalTokenData token.tokenID token.ownerID token.value token.expiry)
      token.tokenSignature then
    .error (.rejected "invalid_token_signature" ⟨"invalid bank signature on token", false⟩)
  else if owner_eq : token.ownerID = payload.senderID then
    if token.expiry < now then
      .error (.rejected "token_expired" ⟨"spending token expired", false⟩)
    else if unconsumed : token.consumed = false then
      if covered : payload.amount ≤ token.value then
        .ok { env, hopCount, payload, token, token_eq, owner_eq, unconsumed, covered }
      else
        .error (.rejected "insufficient_token_value"
          ⟨"token value " ++ toString token.value.toInt ++ " is less than payment amount "
            ++ toString payload.amount.toInt, false⟩)
    else
      .error ⟨.duplicate, "token_already_consumed", ⟨"spending token already consumed", false⟩,
        by decide⟩
  else .error (.rejected "token_owner_mismatch" ⟨"token owner does not match sender", false⟩)

/-- Step 8. -/
def findToken (env : EncryptedEnvelope) (hopCount : ℤ) (payload : PaymentIntentPayload)
    (input : Input) (db : DB) : Except Failure Order :=
  match input.readFault, h : getToken db payload.tokenID with
  | some e, _ => .error (.rejected "token_not_found" (e.wrap "token not found: "))
  | none, none => .error (.rejected "token_not_found" (GoError.errNoRows.wrap "token not found: "))
  | none, some token =>
    checkToken E env hopCount payload token (Table.key_of_find? h) input.now

/-- `strings.Contains`. -/
def containsText (s sub : String) : Bool := Recovery.contains s.toList sub.toList

/-- The status, reason and error that a saga error is turned into. -/
def sagaFailure (err : GoError) : Failure :=
  if err.noRows || containsText err.text "nonce_reused" then
    ⟨.duplicate, "nonce_reused", err, by decide⟩
  else if containsText err.text "token state mismatch"
      || containsText err.text "insufficient reserved balance"
      || err.text == "token_already_consumed_concurrent" then
    ⟨.duplicate, "token_already_consumed", ⟨"spending token already consumed", false⟩, by decide⟩
  else if containsText err.text "duplicate key" || containsText err.text "unique constraint" then
    ⟨.duplicate, "transaction_already_processed", ⟨"transaction already processed", false⟩,
      by decide⟩
  else ⟨.failed, err.text, err, by decide⟩

/-! ## Failure records -/

/-- The row that `saveFailedIntent` inserts, under the envelope's own id. -/
def failedIntent (env : EncryptedEnvelope) (hopCount : ℤ) (f : Failure) (now : Time) :
    PaymentIntent where
  txnID := env.txnID
  senderID := "UNKNOWN"
  receiverID := "UNKNOWN"
  amount := 0
  currency := "USD"
  nonce := env.nonce
  expiry := now + 3600000000000
  status := f.status
  deviceID := "UNKNOWN"
  tokenID := "UNKNOWN"
  failureReason := some f.reason
  settledAt := none
  rejectedAt := none
  relayHops := hopCount
  signatureHash := ""
  createdAt := now
  updatedAt := now

/-- The failure that the recovery manager is told. -/
def failureEvent (f : Failure) (current : PaymentIntent) (now : Time) : Recovery.FailureEvent :=
  ⟨"", current.txnID, current.amount, f.reason, f.err.text, some now⟩

namespace SettleCall

/-- Go on after a failure record is complete. -/
def afterSave (f : Failure) (recover : Bool) : Pc :=
  if recover then .lookup f else .returned f.status (some f.err)

/-- Run a write whose error is ignored, and move on. -/
def write (call : SettleCall) (fault : Option GoError) (body : DBTx Unit) (next : Pc) (db : DB) :
    SettleCall × DB × Option Wrote :=
  match withTx fault body db with
  | (.ok (), db') => ({ call with pc := next }, db', some .note)
  | (.error _, db') => ({ call with pc := next }, db', none)

/-- The next transaction of the saga, and what `Settle` makes of its result. -/
def runSaga (call : SettleCall) (o : Order) (input : Input) (db : DB) :
    SettleCall × DB × Option Wrote :=
  let (saga, db', phase) :=
    call.saga.step (createSagaState o.payload.txnID) (steps o) input.fault input db
  let pc := match saga.result? with
    | none => .saga
    | some none => .returned .settled none
    | some (some err) => .saveIntent (sagaFailure err) true
  ({ call with saga, pc }, db', phase.map (Wrote.phase o))

/-- The next step of a `Settle` call. -/
def step (call : SettleCall) (input : Input) (db : DB) (risk : E.RiskState) :
    SettleCall × DB × E.RiskState × Option Wrote :=
  let goto := fun pc => ({ call with pc }, db, risk, none)
  let fail := fun f => goto (.saveIntent f false)
  match call.pc with
  | .idempotency =>
    match alreadyProcessed call.env input db with
    | some err => goto (.returned .duplicate (some err))
    | none =>
      match openEnvelope E call.env with
      | .error f => fail f
      | .ok signed => goto (.attestation signed)
  | .attestation signed =>
    match checkAttestation signed.payload input db with
    | .error f => fail f
    | .ok () => goto (.device signed)
  | .device signed =>
    match findDevice E signed input db with
    | .error f => fail f
    | .ok device => goto (.token signed device)
  | .token signed device =>
    match findToken E call.env call.hopCount signed.payload input db with
    | .error f => fail f
    | .ok o =>
      let (assessment, risk') := E.assess risk device signed.payload call.hopCount
      if assessment.action = .reject then
        ({ call with
          pc := .saveIntent (.rejected ("risk_rejection: " ++ assessment.reason)
            ⟨"transaction rejected by risk engine: " ++ assessment.reason, false⟩) false },
          db, risk', none)
      else ({ call with order := some o, pc := .saga }, db, risk', none)
  | .saga =>
    match call.order with
    | none => goto .saga
    | some o =>
      let (call', db', wrote) := call.runSaga o input db
      (call', db', risk, wrote)
  | .saveIntent f recover =>
    let (call', db', wrote) := call.write input.fault
      (createPaymentIntent (failedIntent call.env call.hopCount f input.now))
      (.saveOutbox f recover) db
    (call', db', risk, wrote)
  | .saveOutbox f recover =>
    let (call', db', wrote) := call.write input.fault
      (createOutboxEvent "payment.failed" "PaymentFailed"
        (.obj [("txn_id", .str call.env.txnID), ("status", .str f.status.text),
          ("reason", .str f.reason), ("relay_hops", .num call.hopCount)]))
      (.saveEvent f recover) db
    (call', db', risk, wrote)
  | .saveEvent f recover =>
    let (call', db', wrote) := call.write input.fault
      (createPaymentEvent call.env.txnID "IntentFailed" 1
        (.obj [("reason", .str f.reason), ("status", .str f.status.text),
          ("relay_hops", .num call.hopCount)]) input.now)
      (afterSave f recover) db
    (call', db', risk, wrote)
  | .lookup f =>
    match input.readFault, getPaymentIntent db call.env.txnID with
    | none, some current => goto (.record f current)
    | _, _ => goto (.returned f.status (some f.err))
  | .record f current =>
    let (call', db', wrote) := call.write input.fault
      (Recovery.recordFailure (Recovery.classify none) Recovery.defaultPolicy
        (failureEvent f current input.now) input.failureID input.recoveryID input.now)
      (.returned f.status (some f.err)) db
    (call', db', risk, wrote)
  | .returned status err => goto (.returned status err)

end SettleCall

/-! ## What one step can do -/

/-- What a committed saga transaction of an order did. -/
inductive PhaseEffect (o : Order) (input : Input) (db db' : DB) : Saga.Phase → Prop where
  | reserve (h : Reserved o db db') : PhaseEffect o input db db' (.action 0)
  | hold (h : Held o db db') : PhaseEffect o input db db' (.action 1)
  | commitLedger (h : Committed o input.now db db') : PhaseEffect o input db db' (.action 2)
  | publish (h : Published o input.readFault db db') : PhaseEffect o input db db' (.action 3)
  | unreserve (h : Unreserved o db db') : PhaseEffect o input db db' (.compensation 0)
  | unhold (h : Unheld o input.now db db') : PhaseEffect o input db db' (.compensation 1)
  | undoLedger (h : 0 < o.payload.amount → Undone o db db') :
      PhaseEffect o input db db' (.compensation 2)

/-- What a phase does to the counters of its saga. -/
def Advances (before after : Saga.Pc) : Saga.Phase → Prop
  | .action k => before.executed = k ∧ before.standing = k ∧ after.executed = k + 1 ∧
      after.standing = k + 1
  | .compensation k => before.standing = k + 1 ∧ after.standing = k ∧
      after.executed = before.executed

namespace SettleCall

/-- The call failed: before its saga, or in it. -/
def Failed (call : SettleCall) : Prop :=
  (call.order = none ∧ call.saga = .create) ∨
    (call.order ≠ none ∧ call.saga.Wf 4 ∧ ∃ err, call.saga.result? = some (some err))

/-- The order and the saga of a call fit its program counter. -/
def Wf (call : SettleCall) : Prop :=
  match call.pc with
  | .idempotency | .attestation _ | .device _ | .token _ _ =>
    call.order = none ∧ call.saga = .create
  | .saga => call.order ≠ none ∧ call.saga.Wf 4 ∧ call.saga.result? = none
  | .returned .settled _ => call.order ≠ none ∧ call.saga.Wf 4 ∧ call.saga.result? = some none
  | .saveIntent _ _ | .saveOutbox _ _ | .saveEvent _ _ | .lookup _ | .record _ _
  | .returned _ _ => call.Failed

/-- A call without an order has not started its saga. -/
theorem Wf.create {call : SettleCall} (hwf : call.Wf) (horder : call.order = none) :
    call.saga = .create := by
  have hfailed : call.Failed → call.saga = .create := by
    rintro (h | h)
    · exact h.2
    · exact absurd horder h.1
  unfold Wf at hwf
  split at hwf <;> first | exact hwf.2 | exact absurd horder hwf.1 | exact hfailed hwf

/-- The saga of a call with an order is well-formed. -/
theorem Wf.saga {call : SettleCall} (hwf : call.Wf) (horder : call.order ≠ none) :
    call.saga.Wf 4 := by
  have hfailed : call.Failed → call.saga.Wf 4 := by
    rintro (h | h)
    · exact absurd h.1 horder
    · exact h.2.1
  unfold Wf at hwf
  split at hwf <;> first | exact hwf.2.1 | exact absurd hwf.1 horder | exact hfailed hwf

/-- What one step of a call did. -/
inductive Moved (input : Input) (call : SettleCall) (db : DB) (call' : SettleCall) (db' : DB) :
    Option Wrote → Prop where
  | quiet {wrote : Option Wrote} (hwrote : wrote = none ∨ wrote = some .note)
      (hdb : db.Quiet db') (hnone : wrote = none → db' = db) (horder : call'.order = call.order)
      (hex : call'.saga.executed = call.saga.executed)
      (hst : call'.saga.standing = call.saga.standing) : Moved input call db call' db' wrote
  | begin {o : Order} (hdb : db' = db) (horder : call.order = none) (horder' : call'.order = some o)
      (hsaga : call'.saga = .create)
      (htoken : db.offlineTokens.find? o.payload.tokenID = some o.token) :
      Moved input call db call' db' none
  | phase {o : Order} {p : Saga.Phase} (horder : call.order = some o)
      (horder' : call'.order = some o) (hadv : Advances call.saga call'.saga p)
      (heffect : PhaseEffect o input db db' p) : Moved input call db call' db' (some (.phase o p))

theorem steps_length (o : Order) : (steps o).length = 4 := rfl

/-- A saga transaction of an order that commits has the effect of its phase. -/
theorem phaseEffect_of_moved {o : Order} {fault : Option GoError} {input : Input} {pc pc' : Saga.Pc}
    {db db' : DB} {p : Saga.Phase}
    (h : Saga.Pc.Moved (steps o) fault input pc db pc' db' (some p)) :
    PhaseEffect o input db db' p ∧ Advances pc pc' p := by
  cases h with
  | @action k st hst hfault hpc hpc' hs =>
    refine ⟨?_, by subst hpc hpc'; exact ⟨rfl, rfl, rfl, rfl⟩⟩
    match k, hst with
    | 0, rfl => exact .reserve (reserve_ok hs)
    | 1, rfl => exact .hold (@hold_ok o input db db' hs)
    | 2, rfl => exact .commitLedger (commitLedger_ok hs)
    | 3, rfl => exact .publish (publish_ok hs)
  | @compensation k st compensate executed attempt err hst hc hfault hpc hpc' hs =>
    refine ⟨?_, by subst hpc hpc'; exact ⟨rfl, rfl, rfl⟩⟩
    match k, hst with
    | 0, rfl =>
      cases hc
      exact .unreserve (@unreserve_ok o input db db' hs)
    | 1, rfl =>
      cases hc
      exact .unhold (unhold_ok hs)
    | 2, rfl =>
      cases hc
      exact .undoLedger fun ha => undoLedger_ok ha hs
    | 3, rfl =>
      cases hc
      exact absurd hs unpublish_ne_ok

theorem runSaga_cases {call call' : SettleCall} {o : Order} {input : Input} {db db' : DB}
    {wrote : Option Wrote} (horder : call.order = some o) (hwf : call.saga.Wf 4)
    (h : call.runSaga o input db = (call', db', wrote)) :
    Moved input call db call' db' wrote ∧ call'.Wf := by
  unfold runSaga at h
  generalize hstep : call.saga.step _ _ _ _ _ = r at h
  obtain ⟨saga, db₁, phase⟩ := r
  obtain ⟨rfl, rfl, rfl⟩ := by simpa only [Prod.mk.injEq] using h
  have htrack : ∀ s s', createSagaState o.payload.txnID s = .ok ((), s') → s' = s :=
    fun s s' hs => (check_ok.mp hs).2.symm
  have hcomp : ∀ st ∈ steps o, st.compensate ≠ none := by
    simp [steps]
  obtain ⟨hmoved, hwf'⟩ := Saga.Pc.step_cases htrack hcomp hwf hstep
  refine ⟨?_, ?_⟩
  · cases phase with
    | none =>
      cases hmoved with
      | idle hs hex hst =>
        exact .quiet (.inl rfl) (hs ▸ DB.Quiet.refl db) (fun _ => hs) rfl hex hst
    | some p =>
      obtain ⟨heffect, hadv⟩ := phaseEffect_of_moved hmoved
      exact .phase horder horder hadv heffect
  · -- the call goes on, returns, or saves its failure, by the result of the saga
    have hsome : call.order ≠ none := by simp [horder]
    match hres : saga.result? with
    | none => exact ⟨hsome, hwf', hres⟩
    | some none => exact ⟨hsome, hwf', hres⟩
    | some (some err) => exact .inr ⟨hsome, hwf', err, hres⟩

/-- A step that only moves the program counter. -/
theorem Moved.goto {input : Input} {call : SettleCall} {db : DB} (pc : Pc) :
    Moved input call db { call with pc } db none :=
  .quiet (.inl rfl) (DB.Quiet.refl db) (fun _ => rfl) rfl rfl rfl

/-- A write outside the saga is quiet, whether it commits or not. -/
theorem write_cases {call call' : SettleCall} {input : Input} {fault : Option GoError}
    {body : DBTx Unit} {next : Pc} {db db' : DB} {wrote : Option Wrote}
    (hbody : Keeps DB.Quiet body) (h : call.write fault body next db = (call', db', wrote)) :
    Moved input call db call' db' wrote ∧ call' = { call with pc := next } := by
  unfold write at h
  split at h
  · next db₁ htx =>
    obtain ⟨rfl, rfl, rfl⟩ := by simpa only [Prod.mk.injEq] using h
    obtain ⟨-, hok⟩ := withTx_ok.mp htx
    exact ⟨.quiet (.inr rfl) (hbody _ _ _ hok) (by simp) rfl rfl rfl, rfl⟩
  · next e db₁ htx =>
    obtain ⟨rfl, rfl, rfl⟩ := by simpa only [Prod.mk.injEq] using h
    obtain rfl := withTx_error htx
    exact ⟨.goto next, rfl⟩

variable {E}

/-- A call that returns a failure has failed. -/
theorem wf_returned {call : SettleCall} (h : call.Failed) (f : Failure) (err : Option GoError) :
    ({ call with pc := .returned f.status err } : SettleCall).Wf := by
  obtain ⟨status, -, -, hs⟩ := f
  cases status with
  | settled => exact absurd rfl hs
  | _ => exact h

theorem wf_afterSave {call : SettleCall} (h : call.Failed) (f : Failure) (recover : Bool) :
    ({ call with pc := afterSave f recover } : SettleCall).Wf := by
  cases recover with
  | true => exact h
  | false => exact wf_returned h f _

/-- Validation that succeeds found the token of the order. -/
theorem findToken_ok {env : EncryptedEnvelope} {hopCount : ℤ} {payload : PaymentIntentPayload}
    {input : Input} {db : DB} {o : Order} (h : findToken E env hopCount payload input db = .ok o) :
    o.env = env ∧ o.hopCount = hopCount ∧ o.payload = payload ∧
      db.offlineTokens.find? payload.tokenID = some o.token := by
  unfold findToken at h
  split at h
  · exact absurd h (by simp)
  · exact absurd h (by simp)
  · next token _ hfind =>
    unfold checkToken at h
    split_ifs at h
    obtain rfl := Except.ok.inj h
    exact ⟨rfl, rfl, rfl, hfind⟩

/-- A step that only moves the program counter. -/
theorem goto_cases {call call' : SettleCall} {input : Input} {db db' : DB}
    {risk risk' : E.RiskState} {wrote : Option Wrote} {pc : Pc}
    (h : ({ call with pc }, db, risk, none) = (call', db', risk', wrote))
    (hwf : ({ call with pc } : SettleCall).Wf) : Moved input call db call' db' wrote ∧ call'.Wf := by
  obtain ⟨rfl, rfl, rfl, rfl⟩ := by simpa only [Prod.mk.injEq] using h
  exact ⟨.goto pc, hwf⟩

/-- Everything one step of a call can do. -/
theorem step_cases {call call' : SettleCall} {input : Input} {db db' : DB}
    {risk risk' : E.RiskState} {wrote : Option Wrote} (hwf : call.Wf)
    (h : call.step E input db risk = (call', db', risk', wrote)) :
    Moved input call db call' db' wrote ∧ call'.Wf := by
  unfold step at h
  unfold Wf at hwf
  match hpc : call.pc with
  | .idempotency =>
    simp only [hpc] at h hwf
    split at h
    · exact goto_cases h (.inl hwf)
    · split at h
      · exact goto_cases h (.inl hwf)
      · exact goto_cases h hwf
  | .attestation signed =>
    simp only [hpc] at h hwf
    split at h
    · exact goto_cases h (.inl hwf)
    · exact goto_cases h hwf
  | .device signed =>
    simp only [hpc] at h hwf
    split at h
    · exact goto_cases h (.inl hwf)
    · exact goto_cases h hwf
  | .token signed device =>
    simp only [hpc] at h hwf
    split at h
    · exact goto_cases h (.inl hwf)
    · next o hfind =>
      split at h
      · exact goto_cases h (.inl hwf)
      · obtain ⟨rfl, rfl, rfl, rfl⟩ := by simpa only [Prod.mk.injEq] using h
        obtain ⟨-, -, hpayload, htoken⟩ := findToken_ok hfind
        refine ⟨.begin rfl hwf.1 rfl hwf.2 (hpayload ▸ htoken), by simp, ?_, ?_⟩
        · rw [hwf.2]
          exact Nat.zero_lt_succ 3
        · rw [hwf.2]
          rfl
  | .saga =>
    simp only [hpc] at h hwf
    obtain ⟨o, horder⟩ := Option.ne_none_iff_exists'.mp hwf.1
    rw [horder] at h
    obtain ⟨rfl, rfl, rfl, rfl⟩ := by simpa only [Prod.mk.injEq] using h
    exact runSaga_cases horder hwf.2.1 rfl
  | .saveIntent f recover =>
    simp only [hpc] at h hwf
    obtain ⟨rfl, rfl, rfl, rfl⟩ := by simpa only [Prod.mk.injEq] using h
    have hbody : Keeps DB.Quiet
        (createPaymentIntent (failedIntent call.env call.hopCount f input.now)) :=
      createPaymentIntent_quiet f.unsettled
    obtain ⟨hmoved, hcall⟩ := write_cases hbody rfl
    exact ⟨hmoved, hcall ▸ hwf⟩
  | .saveOutbox f recover =>
    simp only [hpc] at h hwf
    obtain ⟨rfl, rfl, rfl, rfl⟩ := by simpa only [Prod.mk.injEq] using h
    have hname : "PaymentFailed" ≠ "PaymentSettled" := by decide
    obtain ⟨hmoved, hcall⟩ := write_cases (createOutboxEvent_quiet hname _ _) rfl
    exact ⟨hmoved, hcall ▸ hwf⟩
  | .saveEvent f recover =>
    simp only [hpc] at h hwf
    obtain ⟨rfl, rfl, rfl, rfl⟩ := by simpa only [Prod.mk.injEq] using h
    have hname : "IntentFailed" ≠ "IntentSettled" := by decide
    obtain ⟨hmoved, hcall⟩ := write_cases (createPaymentEvent_quiet hname _ _ _ _) rfl
    exact ⟨hmoved, hcall ▸ wf_afterSave hwf f recover⟩
  | .lookup f =>
    simp only [hpc] at h hwf
    split at h
    · exact goto_cases h hwf
    · exact goto_cases h (wf_returned hwf f _)
  | .record f current =>
    simp only [hpc] at h hwf
    obtain ⟨rfl, rfl, rfl, rfl⟩ := by simpa only [Prod.mk.injEq] using h
    obtain ⟨hmoved, hcall⟩ := write_cases (Recovery.recordFailure_quiet _ _ _ _ _ _) rfl
    exact ⟨hmoved, hcall ▸ wf_returned hwf f _⟩
  | .returned status err =>
    simp only [hpc] at h
    obtain ⟨rfl, rfl, rfl, rfl⟩ := by simpa only [Prod.mk.injEq] using h
    rw [hpc] at hwf
    exact ⟨.goto _, hwf⟩

/-- A write leaves nothing of the call but its program counter changed. -/
theorem write_call (call : SettleCall) (fault : Option GoError) (body : DBTx Unit) (next : Pc)
    (db : DB) : (call.write fault body next db).1 = { call with pc := next } := by
  unfold write
  split <;> rfl

/-- A write commits its transaction or leaves the database as it is. -/
theorem write_db (call : SettleCall) (fault : Option GoError) (body : DBTx Unit) (next : Pc)
    (db : DB) : (call.write fault body next db).2.1 = (withTx fault body db).2 := by
  unfold write
  split <;> next htx => rw [htx]

/-- The saga of a call moves in the saga steps only, and the order stays once it is there. -/
theorem step_saga (call : SettleCall) (input : Input) (db : DB) (risk : E.RiskState) :
    (call.step E input db risk).1.saga = call.saga ∨ ∃ o, call.pc = .saga ∧ call.order = some o ∧
      (call.step E input db risk).1.saga
        = (call.saga.step (createSagaState o.payload.txnID) (steps o) input.fault input db).1 := by
  have hwrite : ∀ fault body next, (call.write fault body next db).1.saga = call.saga :=
    fun fault body next => by rw [write_call]
  unfold step
  match hpc : call.pc with
  | .idempotency =>
    dsimp only
    split
    · exact .inl rfl
    · split <;> exact .inl rfl
  | .attestation signed => dsimp only; split <;> exact .inl rfl
  | .device signed => dsimp only; split <;> exact .inl rfl
  | .token signed device =>
    dsimp only
    split
    · exact .inl rfl
    · split <;> exact .inl rfl
  | .saga =>
    dsimp only
    split
    · exact .inl rfl
    · next o ho => exact .inr ⟨o, rfl, ho, rfl⟩
  | .saveIntent f recover => exact .inl (hwrite _ _ _)
  | .saveOutbox f recover => exact .inl (hwrite _ _ _)
  | .saveEvent f recover => exact .inl (hwrite _ _ _)
  | .lookup f => dsimp only; split <;> exact .inl rfl
  | .record f current => exact .inl (hwrite _ _ _)
  | .returned status err => exact .inl rfl

end SettleCall

end OfflinePay.Settlement
