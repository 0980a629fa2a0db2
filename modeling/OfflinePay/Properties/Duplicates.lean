import OfflinePay.Settlement.Shared
import OfflinePay.System.World

/-!
# What DUPLICATE means

`Settle` takes a payment for a duplicate by what its saga's error looks like, and so takes a missing
account, a missing token, an intent that a nonce cannot refer to, and every error met while the
nonce is registered for one. Apart from these, `DUPLICATE` is right: before the call decided,
another operation had committed an intent under one of its ids, its nonce, or a status of its token
other than `ISSUED`.

The call runs among others (`Settlement.Shared`).
-/

namespace OfflinePay

open Settlement Repository

variable {E : Externals}

/-! ## What makes a payment a duplicate -/

/-- There is an intent under the envelope's or the payload's id, or the payload's nonce. -/
def DB.Knows (db : DB) (env : EncryptedEnvelope) (payload : PaymentIntentPayload) : Prop :=
  db.paymentIntents.find? env.txnID ≠ none ∨ db.paymentIntents.find? payload.txnID ≠ none ∨
    db.nonceRegistry.find? payload.nonce ≠ none

instance (db : DB) (env : EncryptedEnvelope) (payload : PaymentIntentPayload) :
    Decidable (db.Knows env payload) :=
  inferInstanceAs (Decidable (_ ∨ _ ∨ _))

/-- The token of the payload has another status than `ISSUED`. -/
def DB.Spent (db : DB) (payload : PaymentIntentPayload) : Prop :=
  ∃ tok ∈ db.offlineTokens.find? payload.tokenID, tok.status ≠ .issued

instance (db : DB) (payload : PaymentIntentPayload) : Decidable (db.Spent payload) :=
  inferInstanceAs (Decidable (∃ tok ∈ db.offlineTokens.find? payload.tokenID, _))

namespace Settlement.Shared

/-- Another operation made the payment a duplicate: the call has committed nothing, and there is an
intent or the nonce; or it has committed nothing but its reservation, and the token is not `ISSUED`.
-/
def Foreign (s : Shared E) : Prop :=
  (s.wrote = [] ∧ s.db.paymentIntents.find? s.call.env.txnID ≠ none) ∨
    ∃ signed, openEnvelope E s.call.env = .ok signed ∧
      ((s.wrote = [] ∧ s.db.Knows s.call.env signed.payload) ∨
        ((∀ w ∈ s.wrote, ∃ o, w = .phase o (.action 0)) ∧ s.db.Spent signed.payload))

/-- The next step of the call meets a database error, or a row that it looks for is not there. -/
def Amiss (s : Shared E) (input : Input) : Prop :=
  match s.call.pc, s.call.order with
  | .idempotency, _ => input.readFault ≠ none ∨ s.db.paymentIntents.find? s.call.env.txnID = none
  | .token signed _, _ =>
    input.readFault ≠ none ∨ s.db.offlineTokens.find? signed.payload.tokenID = none
  | .saga, some o => input.fault ≠ none ∨
    match s.call.saga with
    | .running 0 =>
      o.MissesAccount s.db ∨ (o.env.txnID ≠ o.payload.txnID ∧ ¬s.db.Knows o.env o.payload)
    | .running 1 => o.MissesToken s.db
    | .running 2 => o.MissesToken s.db ∨ o.MissesAccount s.db
    | _ => False
  | _, _ => False

/-- The step that made the verdict `DUPLICATE` was right. -/
structure Justified (s : Shared E) (input : Input) : Prop where
  undecided : s.call.verdict? = none
  decides : (s.move (.step input)).call.verdict? = some .duplicate
  foreign : s.Foreign
  not_amiss : ¬s.Amiss input

end Settlement.Shared

/-! ## When the verdict is right -/

instance (o : Order) (db : DB) : Decidable (o.MissesAccount db) :=
  inferInstanceAs (Decidable (_ ∨ _))

instance (o : Order) (db : DB) : Decidable (o.MissesToken db) :=
  inferInstanceAs (Decidable (_ = none))

/-- The sender's reserved balance covers the token. -/
def Settlement.Order.Covered (o : Order) (db : DB) : Prop :=
  ∀ bal ∈ db.accountBalances.find? o.payload.senderID, o.token.value ≤ bal.reservedBalance

instance (o : Order) (db : DB) : Decidable (o.Covered db) :=
  inferInstanceAs (Decidable (∀ bal ∈ db.accountBalances.find? o.payload.senderID, _))

/-- The next step of the saga finds the rows it looks for, and `RESERVE` takes the payment for a
duplicate only if it is one. -/
def Settlement.Order.Found (o : Order) (db : DB) : Saga.Pc → Prop
  | .running 0 => ¬o.MissesAccount db ∧
    (db.Knows o.env o.payload ∨ o.env.txnID = o.payload.txnID ∧ (db.Spent o.payload ∨ o.Covered db))
  | .running 1 => ¬o.MissesToken db
  | .running 2 => ¬o.MissesToken db ∧ ¬o.MissesAccount db
  | _ => True

instance (o : Order) (db : DB) : ∀ pc, Decidable (o.Found db pc)
  | .running 0 => inferInstanceAs (Decidable (_ ∧ _))
  | .running 1 => inferInstanceAs (Decidable (¬_))
  | .running 2 => inferInstanceAs (Decidable (_ ∧ _))
  | .running (_ + 3) => inferInstanceAs (Decidable True)
  | .create => inferInstanceAs (Decidable True)
  | .compensating _ _ _ _ => inferInstanceAs (Decidable True)
  | .done _ _ _ => inferInstanceAs (Decidable True)

namespace Settlement.Shared

/-- A consumed token that the call reads is not `ISSUED`, no error of a saga transaction looks like
a duplicate, and the saga finds the rows it looks for. The error of a transaction is what the step
made of it: a connection that is lost while the nonce is registered comes with `nonce_reused`. -/
def Sound (s : Shared E) : Label E → Prop
  | .other _ _ => True
  | .step input =>
    match s.call.pc, s.call.order with
    | .token signed _, _ =>
      ∀ tok ∈ s.db.offlineTokens.find? signed.payload.tokenID, tok.consumed = true →
        tok.status ≠ .issued ∨ s.db.Knows s.call.env signed.payload
    | .saga, some o =>
      match input.fault with
      | some e => s.call.saga.error? = none → e.looksDuplicate = false
      | none => o.Found s.db s.call.saga
    | _, _ => True

instance (s : Shared E) : ∀ label, Decidable (s.Sound label)
  | .other _ _ => inferInstanceAs (Decidable True)
  | .step input =>
    match s, input with
    | ⟨⟨⟨_, _, _, _, .token _ _⟩, _, _⟩, _⟩, _ =>
      inferInstanceAs (Decidable (∀ _ ∈ Table.find? _ _, _ → _ ∨ _))
    | ⟨⟨⟨_, _, some _, _, .saga⟩, _, _⟩, _⟩, ⟨_, some _, _, _, _⟩ =>
      inferInstanceAs (Decidable (_ → _))
    | ⟨⟨⟨_, _, some o, _, .saga⟩, db, _⟩, _⟩, ⟨_, none, _, _, _⟩ =>
      inferInstanceAs (Decidable (o.Found db _))
    | ⟨⟨⟨_, _, none, _, .saga⟩, _, _⟩, _⟩, _
    | ⟨⟨⟨_, _, _, _, .idempotency⟩, _, _⟩, _⟩, _
    | ⟨⟨⟨_, _, _, _, .attestation _⟩, _, _⟩, _⟩, _
    | ⟨⟨⟨_, _, _, _, .device _⟩, _, _⟩, _⟩, _
    | ⟨⟨⟨_, _, _, _, .saveIntent _ _⟩, _, _⟩, _⟩, _
    | ⟨⟨⟨_, _, _, _, .saveOutbox _ _⟩, _, _⟩, _⟩, _
    | ⟨⟨⟨_, _, _, _, .saveEvent _ _⟩, _, _⟩, _⟩, _
    | ⟨⟨⟨_, _, _, _, .lookup _⟩, _, _⟩, _⟩, _
    | ⟨⟨⟨_, _, _, _, .record _ _⟩, _, _⟩, _⟩, _
    | ⟨⟨⟨_, _, _, _, .returned _ _⟩, _, _⟩, _⟩, _ => inferInstanceAs (Decidable True)

end Settlement.Shared

/-! ## What the call has committed -/

namespace Settlement.SettleCall

variable {call call' : SettleCall} {input : Input} {db : DB} {w : Option Wrote}

/-- As long as it has not failed, a call commits nothing but the steps of its saga, in turn. -/
theorem Went.wrote (hwent : Went E input db call call' w) (hverdict : call'.verdict? = none) :
    (w = none ∧ call'.saga.executed = call.saga.executed) ∨
      ∃ o k, w = some (.phase o (.action k)) ∧ call.saga.executed = k ∧
        call'.saga.executed = k + 1 := by
  have hcall := hwent.undecided hverdict
  cases hwent with
  | processed | tokenRefused | refused => cases hverdict
  | opened | attested | deviceFound | begun => exact .inl ⟨rfl, rfl⟩
  | reported hstatus =>
    rw [hstatus] at hcall
    cases hcall
  | @saga o hpc =>
    rw [verdict?, hpc, Option.map_eq_none_iff] at hcall
    obtain ⟨k, hphase, hk, hk'⟩ | ⟨hphase, hk⟩ := Saga.Pc.step_forward
      (createSagaState o.payload.txnID) (steps o) input.fault input db hcall
    · exact .inr ⟨o, k, congrArg (Option.map (Wrote.phase o)) hphase, hk, hk'⟩
    · exact .inl ⟨congrArg (Option.map (Wrote.phase o)) hphase, hk⟩

end Settlement.SettleCall

namespace Settlement.Shared

/-- What every run of the call keeps. -/
structure Consistent (s : Shared E) : Prop where
  wf : s.call.Wf
  opened : s.call.Opened E
  wrote : s.call.verdict? = none →
    ∀ w ∈ s.wrote, ∃ o k, w = .phase o (.action k) ∧ k < s.call.saga.executed

theorem Consistent.step {s : Shared E} (h : s.Consistent) (input : Input) :
    (s.move (.step input)).Consistent where
  wf := (Solo.moved h.wf input).2
  opened := h.opened.went (went h.wf input)
  wrote hverdict w hw := by
    have hwent := went h.wf input
    have hold := h.wrote (hwent.undecided hverdict)
    change w ∈ (s.commits input).toList ++ s.wrote at hw
    obtain ⟨hnone, hsame⟩ | ⟨o, k, hphase, hk, hnext⟩ := hwent.wrote hverdict
    · rw [hnone] at hw
      rw [hsame]
      exact hold w hw
    · rw [hphase] at hw
      rw [hnext]
      obtain rfl | hw := List.mem_cons.mp hw
      · exact ⟨o, k, rfl, Nat.lt_succ_self k⟩
      · obtain ⟨o', k', rfl, hk'⟩ := hold w hw
        exact ⟨o', k', rfl, by omega⟩

theorem Consistent.move {s : Shared E} (h : s.Consistent) : ∀ l, (s.move l).Consistent
  | .step input => h.step input
  | .other _ _ => ⟨h.wf, h.opened, h.wrote⟩

theorem consistent_start (env : EncryptedEnvelope) (hopCount : ℤ) (db : DB) (risk : E.RiskState) :
    (start env hopCount db risk).Consistent where
  wf := Solo.wf_start env hopCount db risk
  opened := ⟨by rintro _ ⟨⟩, by rintro _ ⟨⟩⟩
  wrote _ _ hw := absurd hw List.not_mem_nil

/-- Before `RESERVE` the call has committed nothing. -/
theorem Consistent.wrote_nil {s : Shared E} (h : s.Consistent) (hnone : s.call.verdict? = none)
    (hex : s.call.saga.executed = 0) : s.wrote = [] := by
  refine List.eq_nil_iff_forall_not_mem.mpr fun w hw => ?_
  obtain ⟨_, k, -, hk⟩ := h.wrote hnone w hw
  omega

/-- Before `CONSUME_TOKEN` the call has committed nothing but its reservation. -/
theorem Consistent.wrote_reservation {s : Shared E} (h : s.Consistent)
    (hnone : s.call.verdict? = none) (hex : s.call.saga.executed ≤ 1) :
    ∀ w ∈ s.wrote, ∃ o, w = .phase o (.action 0) := by
  intro w hw
  obtain ⟨o, k, rfl, hk⟩ := h.wrote hnone w hw
  obtain rfl : k = 0 := by omega
  exact ⟨o, rfl⟩

/-- `RESERVE` that finds its accounts takes the payment for a duplicate only if it is one. -/
theorem duplicate_of_reserve {o : Order} {input : Input} {db : DB} {e : GoError}
    (hfound : o.Found db (.running 0)) (h : reserve o input db = .error e)
    (hlooks : e.looksDuplicate = true) : db.Knows o.env o.payload ∨ db.Spent o.payload := by
  obtain ⟨haccounts, hknows | ⟨hsame, hspent | hcovered⟩⟩ := hfound
  · exact .inl hknows
  · exact .inr hspent
  · obtain hmisses | ⟨bal, hbal, hlt⟩ | hintent | hnonce | ⟨hne, -⟩ := reserve_duplicate h hlooks
    · exact absurd hmisses haccounts
    · exact absurd (hcovered bal hbal) hlt
    · exact .inl (.inr (.inl hintent))
    · exact .inl (.inr (.inr hnonce))
    · exact absurd hsame hne

theorem alreadyProcessed_some {env : EncryptedEnvelope} {input : Input} {db : DB} {err : GoError}
    (h : alreadyProcessed env input db = some err) :
    input.readFault = none ∧ db.paymentIntents.find? env.txnID ≠ none := by
  unfold alreadyProcessed at h
  split at h
  · next hfault hfind =>
    exact ⟨hfault, fun hnone => Option.some_ne_none _ (hfind.symm.trans hnone)⟩
  · cases h

/-- The step that makes the verdict `DUPLICATE` is right. -/
theorem Consistent.justified {s : Shared E} (h : s.Consistent) {input : Input}
    (hsound : s.Sound (.step input)) (hnone : s.call.verdict? = none)
    (hdup : (s.move (.step input)).call.verdict? = some .duplicate) : s.Justified input := by
  suffices hright : s.Foreign ∧ ¬s.Amiss input from ⟨hnone, hdup, hright.1, hright.2⟩
  have hwf := h.wf
  cases (went h.wf input).decides hnone hdup with
  | processed hpc hprocessed =>
    simp only [Amiss, hpc]
    obtain ⟨hfault, hrow⟩ := alreadyProcessed_some hprocessed
    rw [SettleCall.Wf, hpc] at hwf
    have hwrote := h.wrote_nil hnone (by rw [hwf.2]; rfl)
    exact ⟨.inl ⟨hwrote, hrow⟩, fun hamiss => hamiss.elim (absurd hfault) hrow⟩
  | @consumed signed device tok hpc hfault htok hconsumed =>
    simp only [Sound, hpc] at hsound
    simp only [Amiss, hpc]
    rw [SettleCall.Wf, hpc] at hwf
    have hex : s.call.saga.executed = 0 := by rw [hwf.2]; rfl
    have hopen := h.opened.signed signed (by rw [hpc]; rfl)
    refine ⟨.inr ⟨signed, hopen, ?_⟩, fun hamiss => hamiss.elim (absurd hfault) ?_⟩
    · obtain hstatus | hknows := hsound tok htok hconsumed
      · exact .inr ⟨h.wrote_reservation hnone (by omega), tok, htok, hstatus⟩
      · exact .inl ⟨h.wrote_nil hnone hex, hknows⟩
    · intro hmisses
      rw [hmisses] at htok
      cases htok
  | fault hpc horder hfault hlooks =>
    simp only [Sound, hpc, horder, hfault] at hsound
    rw [SettleCall.verdict?, hpc, Option.map_eq_none_iff] at hnone
    rw [hsound hnone] at hlooks
    cases hlooks
  | @reserve o e hpc horder hsaga hfault herror hlooks =>
    simp only [Sound, hpc, horder, hfault, hsaga] at hsound
    simp only [Amiss, hpc, horder, hfault, hsaga]
    have hex : s.call.saga.executed = 0 := by rw [hsaga]; rfl
    obtain ⟨henv, signed, hopen, hpayload⟩ := h.opened.order o horder
    refine ⟨.inr ⟨signed, hopen, ?_⟩, ?_⟩
    · rw [← henv, hpayload]
      obtain hknows | hspent := duplicate_of_reserve hsound herror hlooks
      · exact .inl ⟨h.wrote_nil hnone hex, hknows⟩
      · exact .inr ⟨h.wrote_reservation hnone (by omega), hspent⟩
    · rintro (hne | hmisses | ⟨hne, hunknown⟩)
      · exact hne rfl
      · exact hsound.1 hmisses
      · exact hsound.2.elim hunknown fun hsame => hne hsame.1
  | @hold o e hpc horder hsaga hfault herror =>
    simp only [Sound, hpc, horder, hfault, hsaga] at hsound
    simp only [Amiss, hpc, horder, hfault, hsaga]
    obtain ⟨-, signed, hopen, hpayload⟩ := h.opened.order o horder
    refine ⟨.inr ⟨signed, hopen, .inr ⟨?_, ?_⟩⟩, fun hamiss => hamiss.elim (absurd rfl) hsound⟩
    · exact h.wrote_reservation hnone (by rw [hsaga]; exact le_refl 1)
    · rw [hpayload]
      obtain hmisses | hspent := hold_error herror
      · exact absurd hmisses hsound
      · exact hspent
  | commitLedger hpc horder hsaga hfault herror hlooks =>
    simp only [Sound, hpc, horder, hfault, hsaga] at hsound
    exact absurd (commitLedger_duplicate herror hlooks) (not_or.mpr hsound)

/-- For every envelope, every database and whatever other operations commit in between: if the steps
of a call are sound and its verdict is `DUPLICATE`, then the step that made it so found what another
operation had committed, and met no database error and no missing row. -/
theorem duplicate_justified (env : EncryptedEnvelope) (hopCount : ℤ) (db : DB) (risk : E.RiskState)
    (labels : List (Label E)) (hsound : Run.Steps move Sound (start env hopCount db risk) labels)
    (hdup : ((start env hopCount db risk).exec labels).call.verdict? = some .duplicate) :
    ∃ before input after, labels = before ++ .step input :: after ∧
      ((start env hopCount db risk).exec before).Justified input := by
  have hstart : (start env hopCount db risk).call.verdict? ≠ some .duplicate := nofun
  obtain ⟨before, label, after, rfl, hbefore, hlabel, -⟩ := Run.exists_last_step
    (J := fun s : Shared E => s.call.verdict? = some .duplicate) hstart hdup
  have hconsistent : ((start env hopCount db risk).exec before).Consistent :=
    Run.exec_invariant (fun _ label h _ => h.move label) (consistent_start env hopCount db risk)
      (Run.steps_true _ _)
  have hlabelSound := (Run.steps_append.mp hsound).2.1
  cases label with
  | other db risk => exact absurd hlabel hbefore
  | step input =>
    refine ⟨before, input, after, rfl, hconsistent.justified hlabelSound ?_ hlabel⟩
    -- any other verdict would have stayed
    by_contra hsome
    obtain ⟨status, hstatus⟩ := Option.ne_none_iff_exists'.mp hsome
    have hkept := (went hconsistent.wf input).keeps_verdict hstatus
    exact hbefore (hstatus.trans (hkept.symm.trans hlabel))

end Settlement.Shared

/-! ## A payment to nobody -/

/-- Payments of `alice` with one token: two to `bob`, and one to `carol`, who has no account. -/
def rivalDecode : String → Option SignedPaymentIntent
  | "one" => some (payload "T1" "bob" "N1" |>.signedBy "alice-key")
  | "two" => some (payload "T2" "bob" "N2" |>.signedBy "alice-key")
  | "stray" => some (payload "T3" "carol" "N3" |>.signedBy "alice-key")
  | _ => none
where
  payload (txnID receiverID nonce : String) : PaymentIntentPayload :=
    ⟨txnID, "alice", receiverID, 30, "USD", nonce, 1000000000000, "phone", "K"⟩

/-- `alice` holds the token, and the first payment has got as far as its first `n` steps. -/
def rivalDB (n : ℕ) : DB :=
  ((World.start (E := .simple rivalDecode) ()).exec (Label.setup ["K"]
    ++ [.startSettle ⟨"", "one", "N1", "", "T1", ""⟩ 0] ++ Label.settles 0 n)).db

/-- The second payment stands before `RESERVE` when the first puts the token on hold. -/
theorem duplicate_justified_held :
    ∃ before input after,
      List.replicate 5 (.step { now := 1 }) ++ [.other (rivalDB 7) ()]
        ++ List.replicate 2 (.step { now := 1 }) = before ++ .step input :: after ∧
      ((Settlement.Shared.start (E := .simple rivalDecode) ⟨"", "two", "N2", "", "T2", ""⟩ 0 (rivalDB 0)
        ()).exec before).Justified input :=
  Settlement.Shared.duplicate_justified _ _ _ _ _ (by decide +kernel) (by decide +kernel)

/-- The call alone, with no database error, on the payment to `carol`: `DUPLICATE`, though the token
is `ISSUED` and there is neither an intent nor the nonce. -/
theorem stray_duplicate :
    ((Settlement.Shared.start (E := .simple rivalDecode) ⟨"", "stray", "N3", "", "T3", ""⟩ 0 (rivalDB 0)
      ()).exec (List.replicate 12 (.step { now := 1 }))).call.pc
      = .returned .duplicate (some ⟨"saga aborted on step RESERVE: failed to lock balance for account carol: "
        ++ "sql: no rows in result set", true⟩) ∧
    (rivalDB 0).accountBalances.find? "carol" = none ∧
    ¬(rivalDB 0).Knows ⟨"", "stray", "N3", "", "T3", ""⟩ (rivalDecode.payload "T3" "carol" "N3") ∧
    ¬(rivalDB 0).Spent (rivalDecode.payload "T3" "carol" "N3") := by
  decide +kernel

end OfflinePay
