import OfflinePay.System.Ledger
import OfflinePay.System.Reserved

/-!
# The ledger explains the balances

As long as every saga keeps its own payment intent, the ledger accounts for every balance. When the
compensation of a `RESERVE` has deleted the intent of another saga, two payments can stand under one
transaction id; the compensation of either `LEDGER_COMMIT` then deletes the entries of both.
-/

namespace OfflinePay

open Settlement

namespace DB

/-- The sum of the entries of one direction of an account. -/
def posted (db : DB) (accountID : String) (direction : Direction) : ℤ :=
  ((db.ledgerEntries.filter fun e => e.accountID == accountID && e.direction == direction).map
    fun e => e.amount.toInt).sum

theorem flow_single (db : DB) (a : String) :
    db.flow (fun _ => true) (Pi.single a 1) = db.posted a .debit - db.posted a .credit := by
  unfold flow posted
  induction db.ledgerEntries with
  | nil => rfl
  | cons e es ih =>
    simp only [List.filter_true, List.map_cons, List.sum_cons] at ih ⊢
    rw [ih]
    by_cases ha : e.accountID = a
    · cases hd : e.direction <;> simp [ha, hd, LedgerEntry.debited] <;> ring
    · simp [ha]

end DB

/-! ## Resolved tokens -/

/-- The token that a committed transaction released. -/
def Txn.release? : Txn → Option String
  | .release tok => some tok.tokenID
  | _ => none

/-- A release of the token has committed, or a `LEDGER_COMMIT` of it has and is not compensated. -/
def History.Resolved (tokenID : String) (h : List Commit) : Prop :=
  (∃ c ∈ h, c.txn.release? = some tokenID) ∨ ∃ x ∈ live h, x.2.payload.tokenID = tokenID

instance (tokenID : String) (h : List Commit) : Decidable (History.Resolved tokenID h) :=
  inferInstanceAs (Decidable (_ ∨ _))

namespace Bank

variable {b : Bank}

/-- The value of a token is out as often as it has been released or is being paid to somebody else.
-/
theorem LiveTotal.out_eq (hl : b.LiveTotal) (tokenID : String) :
    History.out tokenID b.history
      = ((History.live b.history).map fun x =>
          if x.2.payload.tokenID = tokenID ∧ ¬x.2.self then (1 : ℤ) else 0).sum
        + (b.history.map fun c => if c.txn.release? = some tokenID then (1 : ℤ) else 0).sum := by
  have hsplit : ∀ t : Txn, t.out tokenID
      = t.settled (fun o => if o.payload.tokenID = tokenID ∧ ¬o.self then 1 else 0)
        + if t.release? = some tokenID then 1 else 0 := by
    intro t
    cases t with
    | release tok => simp [Txn.out, Txn.settled, Txn.release?]
    | phase i o p =>
      unfold Txn.out Txn.settled
      split <;> simp_all [Txn.release?]
      split_ifs <;> rfl
    | _ => simp [Txn.out, Txn.settled, Txn.release?]
  rw [← hl fun o => if o.payload.tokenID = tokenID ∧ ¬o.self then 1 else 0, History.total, History.out,
    History.total, ← List.sum_map_add]
  exact congrArg List.sum (List.map_congr_left fun c _ => hsplit c.txn)

/-- The value of a token is out if and only if the token is resolved. -/
theorem Ledger.out_iff (hs : b.Sound) (ht : b.LiveTotal) (hl : b.Ledger) (tokenID : String) :
    History.out tokenID b.history = 1 ↔ History.Resolved tokenID b.history := by
  have heq := ht.out_eq tokenID
  have hother : ∀ x ∈ History.live b.history, ¬x.2.self := by
    rintro ⟨i, o⟩ hx
    obtain ⟨pr, hpr, rfl, hset⟩ := (hs.live.mem_iff i o).mp hx
    exact (hl.payments i pr hpr hset).1
  have hind : ∀ {α : Type} (l : List α) (p : α → Prop) [DecidablePred p],
      (∀ n ∈ l.map fun x => if p x then (1 : ℤ) else 0, 0 ≤ n) := by
    intro α l p _ n hn
    obtain ⟨x, -, rfl⟩ := List.mem_map.mp hn
    split <;> decide
  have hpos : ∀ {α : Type} (l : List α) (p : α → Prop) [DecidablePred p], (∃ x ∈ l, p x) →
      1 ≤ (l.map fun x => if p x then (1 : ℤ) else 0).sum := by
    rintro α l p _ ⟨x, hx, hp⟩
    exact List.single_le_sum (hind l p) 1 (List.mem_map.mpr ⟨x, hx, if_pos hp⟩)
  constructor
  · intro hout
    by_contra hres
    rw [History.Resolved, not_or] at hres
    rw [List.sum_eq_zero, List.sum_eq_zero] at heq
    · omega
    · intro n hn
      obtain ⟨c, hc, rfl⟩ := List.mem_map.mp hn
      exact if_neg fun hrel => hres.1 ⟨c, hc, hrel⟩
    · intro n hn
      obtain ⟨x, hx, rfl⟩ := List.mem_map.mp hn
      exact if_neg fun htok => hres.2 ⟨x, hx, htok.1⟩
  · intro hres
    have hlive := List.sum_nonneg (hind (History.live b.history) fun x =>
      x.2.payload.tokenID = tokenID ∧ ¬x.2.self)
    have hrel := List.sum_nonneg (hind b.history fun c => c.txn.release? = some tokenID)
    have hcases := hs.out_cases tokenID
    rcases hres with hres | ⟨x, hx, htok⟩
    · have hone := hpos b.history (fun c => c.txn.release? = some tokenID) hres
      omega
    · have hone := hpos (History.live b.history)
        (fun x => x.2.payload.tokenID = tokenID ∧ ¬x.2.self) ⟨x, hx, htok, hother x hx⟩
      omega

theorem Ledger.balance (hl : b.Ledger) {row : AccountBalance}
    (hrow : row ∈ b.db.accountBalances.rows) : row.availableBalance.toInt
      = History.opening row.accountID b.history + b.db.posted row.accountID .credit
        - b.db.posted row.accountID .debit := by
  have hav := hl.available row.accountID
  rw [DB.available_of_find? (Table.find?_of_mem hrow), DB.flow_single] at hav
  rw [hav]
  ring

theorem Ledger.reservation (hs : b.Sound) (ht : b.LiveTotal) (hl : b.Ledger) {tok : OfflineToken}
    (htok : tok ∈ b.db.offlineTokens.rows) : b.db.imbalance (reservationTxnID tok.tokenID)
      = if History.Resolved tok.tokenID b.history then 0 else tok.value.toInt := by
  have hrow := Table.find?_of_mem htok
  by_cases hv : 0 < tok.value
  · rw [hl.imbalance_token hrow hv]
    split
    · next hres => rw [(hl.out_iff hs ht tok.tokenID).mpr hres, sub_self, mul_zero]
    · next hres =>
      have hne := mt (hl.out_iff hs ht tok.tokenID).mp hres
      rw [(hs.out_cases tok.tokenID).resolve_right hne, sub_zero, mul_one]
  · -- a token without value has no entries of its own
    have hzero : tok.value.toInt = 0 := by
      have hle := Int64.lt_iff_toInt_lt.not.mp hv
      have hge := (hs.tokens.state _ tok hrow).value_nonneg
      rw [Int64.toInt_zero] at hle
      omega
    rw [hzero, ite_self, hl.imbalance_payment]
    intro tokenID row hrow' hv' heq
    rw [reservationTxnID_inj] at heq
    rw [← heq, hrow, Option.some.injEq] at hrow'
    exact hv (hrow' ▸ hv')

end Bank

/-- In every run in which sagas find their own rows and payments go between two accounts: every
available balance is the opening balance plus the credits minus the debits; the entries of every
transaction id other than a reservation cancel out; and those of a reservation add up to the value
of the token, as a debit, until the token is resolved, and cancel out then. -/
theorem ledger_explains_balances {E : Externals} (w : World E) (hi : w.Initial) (ls : List Label)
    (hown : w.OwnRows ls) (hother : w.PaysOthers ls) :
    let db := (w.exec ls).db
    let history := (w.exec ls).history
    (∀ row ∈ db.accountBalances.rows, row.availableBalance.toInt
      = History.opening row.accountID history + db.posted row.accountID .credit
        - db.posted row.accountID .debit) ∧
    (∀ txnID, (∀ tok ∈ db.offlineTokens.rows, txnID ≠ reservationTxnID tok.tokenID) →
      db.imbalance txnID = 0) ∧
    ∀ tok ∈ db.offlineTokens.rows, db.imbalance (reservationTxnID tok.tokenID)
      = if History.Resolved tok.tokenID history then 0 else tok.value.toInt := by
  obtain ⟨hs, -, ht, -⟩ := World.money hi ls
  have hl := World.ledger hi hown hother
  refine ⟨fun row hrow => hl.balance hrow, fun txnID hne => ?_, fun tok htok => ?_⟩
  · exact hl.imbalance_payment fun tokenID row hrow _ heq =>
      hne row (Table.mem_of_find? hrow) (by rw [Table.key_of_find? hrow, heq])
  · exact hl.reservation hs ht htok

/-! ## Entries that go with another payment -/

/-- Three payments of 30 by `alice` to `bob` under one transaction id, and one under another. -/
def ledgerDecode : String → Option SignedPaymentIntent
  | "A" => some (ledgerPayload "T" "N1" "K1" |>.signedBy "alice-key")
  | "B" => some (ledgerPayload "T" "N2" "K2" |>.signedBy "alice-key")
  | "C" => some (ledgerPayload "T" "N3" "K3" |>.signedBy "alice-key")
  | "D" => some (ledgerPayload "U" "N1" "K1" |>.signedBy "alice-key")
  | _ => none
where
  ledgerPayload (txnID nonce tokenID : String) : PaymentIntentPayload :=
    ⟨txnID, "alice", "bob", 30, "USD", nonce, 1000000000000, "phone", tokenID⟩

/-- The first payment is compensated up to its `RESERVE`. The second reserves the same id and loses
its intent when the `RESERVE` of the first is compensated. The third reserves the id; the second and
the third commit. The `PUBLISH` of the third is lost, and its `LEDGER_COMMIT` is compensated. -/
def ledgerRun : List Label :=
  Label.setup ["K1", "K2", "K3"]
    ++ [.startSettle ⟨"", "A", "N1", "", "tok-res-K1", ""⟩ 0,
      .startSettle ⟨"", "B", "N2", "", "tok-res-K2", ""⟩ 0,
      .startSettle ⟨"", "C", "N3", "", "tok-res-K3", ""⟩ 0]
    ++ Label.settles 0 8 ++ [Label.settleFails 0] ++ Label.settles 0 1 ++ Label.settles 1 7
    ++ Label.settles 0 2 ++ Label.settles 2 8 ++ Label.settles 1 1 ++ [Label.settleFails 2]
    ++ Label.settles 2 1

/-- `bob` has 30 and no entry. -/
theorem entries_of_another_payment_deleted :
    (World.start (E := .simple ledgerDecode) ()).Initial ∧
    (World.start (E := .simple ledgerDecode) ()).PaysOthers ledgerRun ∧
    ((World.start (E := .simple ledgerDecode) ()).exec ledgerRun).db.available "bob" = 30 ∧
    History.opening "bob" ((World.start (E := .simple ledgerDecode) ()).exec ledgerRun).history
      + ((World.start (E := .simple ledgerDecode) ()).exec ledgerRun).db.posted "bob" .credit
      - ((World.start (E := .simple ledgerDecode) ()).exec ledgerRun).db.posted "bob" .debit = 0 :=
  ⟨World.start_initial _, by decide +kernel⟩

/-- One payment, settled. -/
def ledgerPaid : List Label :=
  Label.setup ["K1"] ++ [.startSettle ⟨"", "D", "N1", "", "U", ""⟩ 0] ++ Label.settles 0 10

theorem ledger_explains_balances_paid :
    ((World.start (E := .simple ledgerDecode) ()).exec ledgerPaid).db.imbalance "U" = 0 :=
  (ledger_explains_balances _ (World.start_initial _) ledgerPaid (by decide +kernel)
    (by decide +kernel)).2.1 "U" (by decide +kernel)

end OfflinePay
