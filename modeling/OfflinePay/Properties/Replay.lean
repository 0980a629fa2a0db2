import OfflinePay.System.Intents

/-!
# No double spend, no replay

In every run the value of a token leaves the reserved balance at most once, and no two committed and
uncompensated `LEDGER_COMMIT`s share a nonce. For the transaction id this needs `OwnRow`: the
compensation of `RESERVE` deletes a reserved payment intent by transaction id, and after the
compensation of `LEDGER_COMMIT` that may be the row of another saga, which then loses its claim on
the id.
-/

namespace OfflinePay

open Settlement

namespace History

/-- The value of each token was moved out of the reserved balance at most once. -/
def SpentOnce (h : List Commit) : Prop :=
  ∀ tokenID, moved tokenID h ≤ 1

/-- The committed and uncompensated `LEDGER_COMMIT`s have pairwise distinct nonces. -/
def DistinctNonces (h : List Commit) : Prop :=
  (live h).Pairwise fun x y => x.2.payload.nonce ≠ y.2.payload.nonce

/-- The committed and uncompensated `LEDGER_COMMIT`s have pairwise distinct transaction ids. -/
def DistinctTxnIDs (h : List Commit) : Prop :=
  (live h).Pairwise fun x y => x.2.payload.txnID ≠ y.2.payload.txnID

instance (h : List Commit) : Decidable (DistinctTxnIDs h) :=
  inferInstanceAs (Decidable (List.Pairwise _ _))

end History

namespace Bank

variable {b : Bank}

theorem Tokens.moved_le (ht : b.Tokens) (tokenID : String) :
    History.moved tokenID b.history ≤ 1 := by
  cases hrow : b.db.offlineTokens.find? tokenID with
  | none => simp [(ht.unknown tokenID hrow).moved]
  | some row =>
    rw [← Table.key_of_find? hrow]
    cases ht.state tokenID row hrow with
    | spent _ _ htally => simp [htally.moved]
    | issued _ _ _ _ _ htally => simp [htally.moved]
    | held _ _ _ _ _ _ _ _ _ _ htally => simp [htally.moved]
    | consumed _ _ _ _ _ _ _ _ _ htally => simp [htally.moved]
    | released _ _ _ _ _ htally => simp [htally.moved]
    | stranded _ _ _ _ _ htally => simp [htally.moved]

/-- A property that separates settled sagas separates the live payments. -/
theorem Live.pairwise (hl : b.Live) {r : Order → Order → Prop}
    (h : ∀ i j pr pr', b.progress i = some pr → b.progress j = some pr' → pr.settled →
      pr'.settled → i ≠ j → r pr.order pr'.order) :
    (History.live b.history).Pairwise fun x y => r x.2 y.2 := by
  refine hl.nodup.pairwise_of_forall_ne fun x hx y hy hne => ?_
  obtain ⟨i, o⟩ := x
  obtain ⟨j, o'⟩ := y
  obtain ⟨pr, hpr, rfl, hset⟩ := (hl.mem_iff i o).mp hx
  obtain ⟨pr', hpr', rfl, hset'⟩ := (hl.mem_iff j o').mp hy
  refine h i j pr pr' hpr hpr' hset hset' ?_
  rintro rfl
  obtain rfl := Option.some.inj (hpr.symm.trans hpr')
  exact hne rfl

end Bank

/-- Every run spends each token at most once and never settles a nonce twice; a run that keeps
`OwnRow` never settles a transaction id twice either. -/
theorem no_double_spend_no_replay {E : Externals} (w : World E) (hi : w.Initial) (ls : List Label) :
    History.SpentOnce (w.exec ls).history ∧ History.DistinctNonces (w.exec ls).history ∧
      (w.OwnRows ls → History.DistinctTxnIDs (w.exec ls).history) := by
  have hs := World.sound hi ls
  refine ⟨hs.tokens.moved_le, ?_, fun hown => ?_⟩
  · refine hs.live.pairwise (r := fun o o' => o.payload.nonce ≠ o'.payload.nonce) ?_
    intro i j pr pr' hpr hpr' hset hset' hij heq
    exact hij (hs.nonces.unique i j pr pr' hpr hpr' hset.reserved hset'.reserved heq)
  · have ho := World.owners hi hown
    refine hs.live.pairwise (r := fun o o' => o.payload.txnID ≠ o'.payload.txnID) ?_
    intro i j pr pr' hpr hpr' hset hset' hij heq
    exact hij (ho.unique i j pr pr' hpr hpr' hset.owns hset'.owns heq)

/-! ## A transaction id that is settled twice -/

/-- Three payments of `alice` to `bob` under one transaction id, with their own tokens and nonces.
-/
def replayDecode : String → Option SignedPaymentIntent
  | "A" => some (replayPayload "N1" "K1" |>.signedBy "alice-key")
  | "B" => some (replayPayload "N2" "K2" |>.signedBy "alice-key")
  | "C" => some (replayPayload "N3" "K3" |>.signedBy "alice-key")
  | _ => none
where
  replayPayload (nonce tokenID : String) : PaymentIntentPayload :=
    ⟨"T", "alice", "bob", 30, "USD", nonce, 1000000000000, "phone", tokenID⟩

/-- The envelopes of the three payments. Their outer transaction ids are altered to the placeholder
rows of the tokens, which exist and are not final. -/
def replayCalls : List Label :=
  [.startSettle ⟨"", "A", "N1", "", "tok-res-K1", ""⟩ 0,
    .startSettle ⟨"", "B", "N2", "", "tok-res-K2", ""⟩ 0,
    .startSettle ⟨"", "C", "N3", "", "tok-res-K3", ""⟩ 0]

/-- The first payment fails in `PUBLISH` and compensates `LEDGER_COMMIT`, which deletes its intent.
The second reserves the id. The first goes on to compensate `RESERVE` and deletes the intent of the
second. The third reserves the id, and both the second and the third commit. -/
def replayRun : List Label :=
  Label.setup ["K1", "K2", "K3"] ++ replayCalls ++ Label.settles 0 8 ++ [Label.settleFails 0]
    ++ Label.settles 0 1 ++ Label.settles 1 7 ++ Label.settles 0 2 ++ Label.settles 2 8
    ++ Label.settles 1 1

/-- Two `LEDGER_COMMIT`s under one transaction id are committed and uncompensated. -/
theorem txn_id_settled_twice :
    (World.start (E := .simple replayDecode) ()).Initial ∧
      ¬History.DistinctTxnIDs ((World.start (E := .simple replayDecode) ()).exec replayRun).history :=
  ⟨World.start_initial _, by decide +kernel⟩

/-- The three payments one after the other: the first settles, and keeps the id. -/
theorem no_double_spend_no_replay_sequential :
    (World.start (E := .simple replayDecode) ()).OwnRows
        (Label.setup ["K1", "K2", "K3"] ++ replayCalls ++ Label.settles 0 10 ++ Label.settles 1 7) ∧
      History.DistinctTxnIDs ((World.start (E := .simple replayDecode) ()).exec
        (Label.setup ["K1", "K2", "K3"] ++ replayCalls ++ Label.settles 0 10
          ++ Label.settles 1 7)).history := by
  have hown : (World.start (E := .simple replayDecode) ()).OwnRows
      (Label.setup ["K1", "K2", "K3"] ++ replayCalls ++ Label.settles 0 10
        ++ Label.settles 1 7) := by decide +kernel
  exact ⟨hown, (no_double_spend_no_replay _ (World.start_initial _) _).2.2 hown⟩

end OfflinePay
