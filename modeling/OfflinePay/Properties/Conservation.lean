import OfflinePay.System.Money

/-!
# Conservation of money

`LEDGER_COMMIT` reads both balances before it writes either. When the sender is the receiver its
second write overwrites the first: the amount is credited, and neither the token's value nor the
amount is debited. The total is exact in every state in which no such payment is live, and in no
other.
-/

namespace OfflinePay

open Settlement

/-- No committed and uncompensated `LEDGER_COMMIT` of the history pays its own sender. -/
def History.NoSelfPayment (h : List Commit) : Prop := ∀ x ∈ live h, ¬x.2.self

instance (h : List Commit) : Decidable (History.NoSelfPayment h) :=
  inferInstanceAs (Decidable (∀ x ∈ History.live h, ¬x.2.self))

namespace Bank

variable {b : Bank}

/-- Live payments are about positive amounts. -/
theorem Sound.amount_pos (hs : b.Sound) {x : ℕ × Order} (h : x ∈ History.live b.history) :
    0 < x.2.payload.amount := by
  obtain ⟨i, o⟩ := x
  obtain ⟨pr, hpr, rfl, hset⟩ := (hs.live.mem_iff i o).mp h
  have hwf := hs.counters i pr hpr
  exact hwf.amount_pos (lt_of_lt_of_le hset hwf.standing_le)

/-- Live payments create a nonnegative amount each, so they create nothing together only if none of
them does. -/
theorem Sound.minted_sum (hs : b.Sound) :
    ((History.live b.history).map fun x => x.2.minted).sum = 0 ↔
      History.NoSelfPayment b.history := by
  have hnonneg : ∀ m ∈ (History.live b.history).map (fun x => x.2.minted), 0 ≤ m := by
    intro m hm
    obtain ⟨x, hx, rfl⟩ := List.mem_map.mp hm
    have hpos := Checked.toInt_pos (hs.amount_pos hx)
    rw [Order.minted]
    split <;> omega
  constructor
  · intro h x hx hself
    exact (Order.minted_ne_zero (hs.amount_pos hx)).mpr hself
      (List.all_zero_of_le_zero_le_of_sum_eq_zero hnonneg h (List.mem_map_of_mem hx))
  · intro h
    refine List.sum_eq_zero fun m hm => ?_
    obtain ⟨x, hx, rfl⟩ := List.mem_map.mp hm
    exact not_ne_iff.mp fun hne => h x hx ((Order.minted_ne_zero (hs.amount_pos hx)).mp hne)

end Bank

/-- In every state the money in the bank is the sum of the opening balances exactly if no live
payment goes to its own sender; and a committed transaction conserves money exactly if it is not the
`LEDGER_COMMIT` of such a payment or its compensation. -/
theorem money_conserved_iff {E : Externals} (w : World E) (hi : w.Initial) (ls : List Label) :
    ((w.exec ls).db.totalMoney = History.deposits (w.exec ls).history ↔
        History.NoSelfPayment (w.exec ls).history) ∧
      ∀ c ∈ (w.exec ls).history, c.Conserves ↔ ¬c.txn.paysSelf := by
  obtain ⟨hs, hb, hl, -⟩ := World.money hi ls
  refine ⟨?_, hb.conserves⟩
  have htotal := hb.total
  rw [hl] at htotal
  exact (Eq.congr_left htotal).trans (add_eq_left.trans hs.minted_sum)

/-! ## A payment to oneself -/

/-- `alice` pays 30 to `bob`, and 30 to herself. -/
def selfPayDecode : String → Option SignedPaymentIntent
  | "pay bob" => some (payload "T1" "bob" "N1" "K1" |>.signedBy "alice-key")
  | "pay alice" => some (payload "T2" "alice" "N2" "K2" |>.signedBy "alice-key")
  | _ => none
where
  payload (txnID receiverID nonce tokenID : String) : PaymentIntentPayload :=
    ⟨txnID, "alice", receiverID, 30, "USD", nonce, 1000000000000, "phone", tokenID⟩

/-- One payment, settled without a fault. -/
def selfPayRun (ciphertext txnID : String) : List Label :=
  Label.setup ["K1", "K2"] ++ [.startSettle ⟨"", ciphertext, "", "", txnID, ""⟩ 0]
    ++ Label.settles 0 10

/-- Paying oneself 30 makes 1030 out of 1000. -/
theorem self_payment_mints :
    (World.start (E := .simple selfPayDecode) ()).Initial ∧
      ((World.start (E := .simple selfPayDecode) ()).exec
        (selfPayRun "pay alice" "T2")).db.totalMoney ≠
      History.deposits ((World.start (E := .simple selfPayDecode) ()).exec
        (selfPayRun "pay alice" "T2")).history :=
  ⟨World.start_initial _, by decide +kernel⟩

/-- Paying somebody else keeps the total. -/
theorem money_conserved_iff_pay_bob :
    ((World.start (E := .simple selfPayDecode) ()).exec (selfPayRun "pay bob" "T1")).db.totalMoney
      = History.deposits ((World.start (E := .simple selfPayDecode) ()).exec
          (selfPayRun "pay bob" "T1")).history :=
  (money_conserved_iff _ (World.start_initial _) _).1.mpr (by decide +kernel)

end OfflinePay
