import OfflinePay.Settlement.Errors

/-!
# The verdict of a call

Reference: `internal/settlement/service.go`, `Service.Settle`.

The status that `Settle` returns is settled long before it returns: by the check that fails, or by
the saga step that fails, after which the call only compensates and writes its records. `verdict?`
is this status. `Went` lists the moves of the program counter, and `decides_duplicate` says what the
step met that made the verdict `DUPLICATE`.
-/

namespace OfflinePay.Settlement

open Tx Repository

namespace SettleCall

/-- The status that the call has returned or is going to return. -/
def verdict? (call : SettleCall) : Option PaymentStatus :=
  match call.pc with
  | .saveIntent f _ | .saveOutbox f _ | .saveEvent f _ | .lookup f | .record f _ => some f.status
  | .returned status _ => some status
  | .saga => call.saga.error?.map fun err => (sagaFailure err).status
  | _ => none

variable (E : Externals)

/-- Where one step of a call takes its program counter, and what it writes on the way. -/
inductive Went (input : Input) (db : DB) (call : SettleCall) :
    SettleCall → Option Wrote → Prop where
  | processed {err : GoError} (hpc : call.pc = .idempotency)
      (h : alreadyProcessed call.env input db = some err) :
      Went input db call { call with pc := .returned .duplicate (some err) } none
  | opened {signed : SignedPaymentIntent} (hpc : call.pc = .idempotency)
      (h : openEnvelope E call.env = .ok signed) :
      Went input db call { call with pc := .attestation signed } none
  | attested {signed : SignedPaymentIntent} (hpc : call.pc = .attestation signed) :
      Went input db call { call with pc := .device signed } none
  | deviceFound {signed : SignedPaymentIntent} {device : Device} (hpc : call.pc = .device signed) :
      Went input db call { call with pc := .token signed device } none
  | begun {signed : SignedPaymentIntent} {device : Device} {o : Order}
      (hpc : call.pc = .token signed device) (hsaga : call.saga = .create)
      (h : findToken E call.env call.hopCount signed.payload input db = .ok o) :
      Went input db call { call with order := some o, pc := .saga } none
  | tokenRefused {signed : SignedPaymentIntent} {device : Device} {f : Failure}
      (hpc : call.pc = .token signed device)
      (h : findToken E call.env call.hopCount signed.payload input db = .error f) :
      Went input db call { call with pc := .saveIntent f false } none
  | refused {f : Failure} (hpc : call.verdict? = none) (h : f.status ≠ .duplicate) :
      Went input db call { call with pc := .saveIntent f false } none
  | saga {o : Order} (hpc : call.pc = .saga) (horder : call.order = some o) :
      Went input db call (call.runSaga o input db).1 (call.runSaga o input db).2.2
  | reported {pc : Pc} {status : PaymentStatus} {wrote : Option Wrote}
      (h : call.verdict? = some status) (hpc : pc ≠ .saga)
      (h' : { call with pc }.verdict? = some status) : Went input db call { call with pc } wrote

variable {E} {call : SettleCall} {input : Input} {db : DB}

theorem rejected_ne_duplicate (reason : String) (err : GoError) :
    (Failure.rejected reason err).status ≠ .duplicate := nofun

theorem openEnvelope_error {env : EncryptedEnvelope} {f : Failure}
    (h : openEnvelope E env = .error f) : f.status ≠ .duplicate := by
  unfold openEnvelope at h
  split at h
  · obtain rfl := Except.error.inj h
    exact rejected_ne_duplicate _ _
  · split at h
    · obtain rfl := Except.error.inj h
      exact rejected_ne_duplicate _ _
    · cases h

theorem checkAttestation_error {payload : PaymentIntentPayload} {f : Failure}
    (h : checkAttestation payload input db = .error f) : f.status ≠ .duplicate := by
  unfold checkAttestation at h
  split at h
  · split_ifs at h
    obtain rfl := Except.error.inj h
    exact rejected_ne_duplicate _ _
  · cases h

theorem checkDevice_error {signed : SignedPaymentIntent} {device : Device} {now : Time}
    {f : Failure} (h : checkDevice E signed device now = .error f) : f.status ≠ .duplicate := by
  unfold checkDevice at h
  split at h
  · obtain rfl := Except.error.inj h
    exact rejected_ne_duplicate _ _
  · split at h
    · obtain rfl := Except.error.inj h
      exact rejected_ne_duplicate _ _
    · split_ifs at h
      all_goals obtain rfl := Except.error.inj h
      · exact rejected_ne_duplicate _ _
      · decide
      · exact rejected_ne_duplicate _ _

theorem findDevice_error {signed : SignedPaymentIntent} {f : Failure}
    (h : findDevice E signed input db = .error f) : f.status ≠ .duplicate := by
  unfold findDevice at h
  split at h
  · obtain rfl := Except.error.inj h
    exact rejected_ne_duplicate _ _
  · obtain rfl := Except.error.inj h
    exact rejected_ne_duplicate _ _
  · exact checkDevice_error h

/-- A token check takes a payment for a duplicate only if it read a consumed token. -/
theorem findToken_duplicate {env : EncryptedEnvelope} {hopCount : ℤ}
    {payload : PaymentIntentPayload}
    {f : Failure} (h : findToken E env hopCount payload input db = .error f)
    (hstatus : f.status = .duplicate) :
    input.readFault = none ∧ ∃ tok, db.offlineTokens.find? payload.tokenID = some tok ∧
      tok.consumed = true := by
  unfold findToken at h
  split at h
  · obtain rfl := Except.error.inj h
    exact absurd hstatus (rejected_ne_duplicate _ _)
  · obtain rfl := Except.error.inj h
    exact absurd hstatus (rejected_ne_duplicate _ _)
  · next tok hfault hfind =>
    refine ⟨hfault, tok, hfind, ?_⟩
    unfold checkToken at h
    split_ifs at h with _ _ _ hconsumed
    all_goals obtain rfl := Except.error.inj h
    · exact absurd hstatus (rejected_ne_duplicate _ _)
    · exact absurd hstatus (rejected_ne_duplicate _ _)
    · exact absurd hstatus (rejected_ne_duplicate _ _)
    · simpa using hconsumed
    · exact absurd hstatus (rejected_ne_duplicate _ _)

/-- A write moves the program counter as it is told. -/
theorem Went.write {fault : Option GoError} {body : DBTx Unit} {next : Pc} {status : PaymentStatus}
    (h : call.verdict? = some status) (hpc : next ≠ .saga)
    (h' : { call with pc := next }.verdict? = some status) :
    Went E input db call (call.write fault body next db).1 (call.write fault body next db).2.2 := by
  rw [write_call]
  exact .reported h hpc h'

theorem step_went (hwf : call.Wf) (risk : E.RiskState) :
    Went E input db call (call.step E input db risk).1 (call.step E input db risk).2.2.2 := by
  unfold step
  match hpc : call.pc with
  | .idempotency =>
    have hnone : call.verdict? = none := by rw [verdict?, hpc]
    dsimp only
    split
    · next h => exact .processed hpc h
    · split
      · next h => exact .refused hnone (openEnvelope_error h)
      · next h => exact .opened hpc h
  | .attestation signed =>
    have hnone : call.verdict? = none := by rw [verdict?, hpc]
    dsimp only
    split
    · next h => exact .refused hnone (checkAttestation_error h)
    · exact .attested hpc
  | .device signed =>
    have hnone : call.verdict? = none := by rw [verdict?, hpc]
    dsimp only
    split
    · next h => exact .refused hnone (findDevice_error h)
    · exact .deviceFound hpc
  | .token signed device =>
    have hnone : call.verdict? = none := by rw [verdict?, hpc]
    rw [Wf, hpc] at hwf
    dsimp only
    split
    · next h => exact .tokenRefused hpc h
    · next h =>
      split
      · exact .refused hnone (rejected_ne_duplicate _ _)
      · exact .begun hpc hwf.2 h
  | .saga =>
    rw [Wf, hpc] at hwf
    obtain ⟨o, horder⟩ := Option.ne_none_iff_exists'.mp hwf.1
    dsimp only
    rw [horder]
    exact .saga hpc horder
  | .saveIntent f recover => exact .write (by rw [verdict?, hpc]) nofun rfl
  | .saveOutbox f recover => exact .write (by rw [verdict?, hpc]) nofun rfl
  | .saveEvent f recover =>
    have hverdict : call.verdict? = some f.status := by rw [verdict?, hpc]
    cases recover with
    | true => exact .write hverdict nofun rfl
    | false => exact .write hverdict nofun rfl
  | .lookup f =>
    have hverdict : call.verdict? = some f.status := by rw [verdict?, hpc]
    dsimp only
    split
    · exact .reported hverdict nofun rfl
    · exact .reported hverdict nofun rfl
  | .record f current => exact .write (by rw [verdict?, hpc]) nofun rfl
  | .returned status err => exact .reported (by rw [verdict?, hpc]) nofun rfl

/-! ## What the saga makes of an error -/

/-- A saga error is told from the one text that is compared as a whole by its first letter. -/
theorem wrap_text_ne {p : String} {e : GoError} (hp : p.toList.head?.any (· ≠ 't') = true) :
    (e.wrap p).text ≠ "token_already_consumed_concurrent" := by
  intro h
  obtain ⟨c, hc, hne⟩ := (Option.any_eq_true _ _).mp hp
  have hhead := congrArg (fun s => s.toList.head?) h
  have hp' : p.toList ≠ [] := by
    rintro hnil
    rw [hnil] at hc
    cases hc
  rw [GoError.wrap, String.toList_append, List.head?_append_of_ne_nil _ hp', hc] at hhead
  rw [show c = 't' from Option.some.inj hhead] at hne
  exact absurd hne (by decide)

/-- What the saga of a call goes on with. -/
def nextSaga (call : SettleCall) (o : Order) (input : Input) (db : DB) : Saga.Pc :=
  (call.saga.step (createSagaState o.payload.txnID) (steps o) input.fault input db).1

theorem runSaga_call (o : Order) : (call.runSaga o input db).1 = { call with
    saga := call.nextSaga o input db
    pc := match (call.nextSaga o input db).result? with
      | none => .saga
      | some none => .returned .settled none
      | some (some err) => .saveIntent (sagaFailure err) true } :=
  rfl

theorem verdict?_runSaga {o : Order} {err : GoError}
    (h : (call.nextSaga o input db).error? = some err) :
    (call.runSaga o input db).1.verdict? = some (sagaFailure err).status := by
  rw [runSaga_call]
  generalize call.nextSaga o input db = saga at h
  match saga, h with
  | .compensating _ _ _ _, rfl => rfl
  | .done _ _ _, rfl => rfl

theorem error_of_verdict {o : Order} (h : (call.runSaga o input db).1.verdict? = some .duplicate) :
    ∃ err, (call.nextSaga o input db).error? = some err ∧ (sagaFailure err).status = .duplicate := by
  rw [runSaga_call] at h
  generalize call.nextSaga o input db = saga at h
  match saga, h with
  | .compensating _ _ _ err, h => exact ⟨err, rfl, Option.some.inj h⟩
  | .done _ _ (some err), h => exact ⟨err, rfl, Option.some.inj h⟩

/-! ## The step that decides -/

/-- A call does not change its mind. -/
theorem Went.keeps_verdict {call' : SettleCall} {wrote : Option Wrote} {status : PaymentStatus}
    (hwent : Went E input db call call' wrote) (h : call.verdict? = some status) :
    call'.verdict? = some status := by
  cases hwent with
  | processed hpc | opened hpc | attested hpc | deviceFound hpc | begun hpc | tokenRefused hpc =>
    rw [verdict?, hpc] at h
    cases h
  | refused hnone =>
    rw [hnone] at h
    cases h
  | saga hpc =>
    rw [verdict?, hpc] at h
    obtain ⟨err, herr, rfl⟩ := Option.map_eq_some_iff.mp h
    exact verdict?_runSaga (Saga.Pc.error?_step herr)
  | reported hstatus _ h' =>
    rw [hstatus] at h
    exact h'.trans h

theorem Went.undecided {call' : SettleCall} {wrote : Option Wrote}
    (hwent : Went E input db call call' wrote) (h : call'.verdict? = none) :
    call.verdict? = none := by
  by_contra hsome
  obtain ⟨status, hstatus⟩ := Option.ne_none_iff_exists'.mp hsome
  rw [hwent.keeps_verdict hstatus] at h
  cases h

/-- What a step met that takes the payment for a duplicate. -/
inductive Decides (input : Input) (db : DB) (call : SettleCall) : Prop where
  | processed {err : GoError} (hpc : call.pc = .idempotency)
      (h : alreadyProcessed call.env input db = some err)
  | consumed {signed : SignedPaymentIntent} {device : Device} {tok : OfflineToken}
      (hpc : call.pc = .token signed device) (hfault : input.readFault = none)
      (htok : db.offlineTokens.find? signed.payload.tokenID = some tok) (h : tok.consumed = true)
  | fault {o : Order} {e : GoError} (hpc : call.pc = .saga) (horder : call.order = some o)
      (hfault : input.fault = some e) (hlooks : e.looksDuplicate = true)
  | reserve {o : Order} {e : GoError} (hpc : call.pc = .saga) (horder : call.order = some o)
      (hsaga : call.saga = .running 0) (hfault : input.fault = none)
      (h : Settlement.reserve o input db = .error e) (hlooks : e.looksDuplicate = true)
  | hold {o : Order} {e : GoError} (hpc : call.pc = .saga) (horder : call.order = some o)
      (hsaga : call.saga = .running 1) (hfault : input.fault = none)
      (h : Settlement.hold o input db = .error e)
  | commitLedger {o : Order} {e : GoError} (hpc : call.pc = .saga) (horder : call.order = some o)
      (hsaga : call.saga = .running 2) (hfault : input.fault = none)
      (h : Settlement.commitLedger o input db = .error e) (hlooks : e.looksDuplicate = true)

/-- The saga is aborted by an error that looks like a duplicate exactly if the step's error does. -/
theorem aborted_looksDuplicate {o : Order} {k : ℕ} {st : Saga.SagaStep Input DB}
    (hst : (steps o)[k]? = some st) (e : GoError) :
    (sagaFailure (e.wrap ("saga aborted on step " ++ st.name ++ ": "))).status = .duplicate ↔
      e.looksDuplicate = true := by
  have hname : ∀ phrase ∈ duplicatePhrases, containsText ("saga aborted on step " ++ st.name) phrase = false := by
    match k, hst with
    | 0, rfl | 1, rfl | 2, rfl | 3, rfl =>
      exact containsText_of_spells (.append .literal .literal) (by decide +kernel)
  have hhead : ("saga aborted on step " ++ st.name ++ ": ").toList.head?.any (· ≠ 't') = true := by
    rw [String.toList_append, String.toList_append]
    rfl
  rw [sagaFailure_status (wrap_text_ne hhead), looksDuplicate_wrap hname]

theorem Went.decides {call' : SettleCall} {wrote : Option Wrote}
    (hwent : Went E input db call call' wrote) (hnone : call.verdict? = none)
    (h : call'.verdict? = some .duplicate) : Decides input db call := by
  cases hwent with
  | processed hpc hprocessed => exact .processed hpc hprocessed
  | opened | attested | deviceFound => cases h
  | begun _ hsaga =>
    rw [verdict?, hsaga] at h
    cases h
  | tokenRefused hpc htoken =>
    obtain ⟨hfault, tok, htok, hconsumed⟩ := findToken_duplicate htoken (Option.some.inj h)
    exact .consumed hpc hfault htok hconsumed
  | refused _ hne => exact absurd (Option.some.inj h) hne
  | reported hstatus =>
    rw [hstatus] at hnone
    cases hnone
  | @saga o hpc horder =>
    rw [verdict?, hpc, Option.map_eq_none_iff] at hnone
    obtain ⟨err, herr, hdup⟩ := error_of_verdict h
    obtain ⟨-, e, _, htx, rfl⟩ | ⟨k, st, e, _, hsaga, hst, htx, rfl⟩ :=
      Saga.Pc.error_of_step hnone herr
    · -- the tracking row
      rw [sagaFailure_status (wrap_text_ne rfl),
        show "failed to create saga tracking state: " = "failed to create saga tracking state" ++ ": " from rfl,
        looksDuplicate_wrap (containsText_of_spells .literal (by decide +kernel))] at hdup
      obtain hfault | ⟨-, hcreate⟩ := error_of_withTx htx
      · exact .fault hpc horder hfault hdup
      · rw [createSagaState_duplicate hcreate] at hdup
        cases hdup
    · rw [aborted_looksDuplicate hst] at hdup
      obtain hfault | ⟨hfault, haction⟩ := error_of_withTx htx
      · exact .fault hpc horder hfault hdup
      · match k, hst, hsaga, haction with
        | 0, rfl, hsaga, haction => exact .reserve hpc horder hsaga hfault haction hdup
        | 1, rfl, hsaga, haction => exact .hold hpc horder hsaga hfault haction
        | 2, rfl, hsaga, haction => exact .commitLedger hpc horder hsaga hfault haction hdup
        | 3, rfl, hsaga, haction =>
          rw [publish_duplicate haction] at hdup
          cases hdup

end SettleCall

end OfflinePay.Settlement
