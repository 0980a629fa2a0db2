import OfflinePay.Settlement.Errors
import OfflinePay.System.Reserved

/-!
# Reserved funds and outstanding tokens

Every reserved balance is the value of the owner's outstanding tokens plus the value that is
stranded. So the reservation always suffices, and it is exact as long as no token has been stranded.
-/

namespace OfflinePay

open Tx Repository Settlement

/-- Every reserved balance is the value of the account's tokens that are issued or on hold. -/
def DB.ReservedExact (db : DB) : Prop :=
  ∀ row ∈ db.accountBalances.rows, row.reservedBalance.toInt = db.outstanding row.accountID

instance (db : DB) : Decidable db.ReservedExact :=
  inferInstanceAs (Decidable (∀ row ∈ db.accountBalances.rows, _ = _))

/-- In every state the reserved balances are exact if and only if no transaction so far has stranded
the value of a token. -/
theorem reserved_exact_iff {E : Externals} (w : World E) (hi : w.Initial) (ls : List Label) :
    (w.exec ls).db.ReservedExact ↔
      ∀ tokenID, ¬History.Stranded tokenID (w.exec ls).history := by
  obtain ⟨hs, -, -, hb⟩ := World.money hi ls
  constructor
  · intro hexact tokenID hst
    obtain ⟨a, hpos⟩ := hs.stuck_pos hst
    have hsplit := hb.reserved_eq hs a
    cases hrow : (w.exec ls).db.accountBalances.find? a with
    | none =>
      -- without an account there is nothing reserved
      have hzero : (w.exec ls).bank.db.reserved a = 0 := by
        rw [DB.reserved, show (w.exec ls).bank.db.accountBalances.find? a = none from hrow]
      have hout := hs.outstanding_nonneg a
      omega
    | some row =>
      obtain rfl := Table.key_of_find? hrow
      have hrow' : (w.exec ls).bank.db.reserved row.accountID = row.reservedBalance.toInt :=
        DB.reserved_of_find? hrow
      have heq : row.reservedBalance.toInt = (w.exec ls).bank.db.outstanding row.accountID :=
        hexact row (Table.mem_of_find? hrow)
      omega
  · intro hnone row hrow
    have hsplit := hb.reserved_eq hs row.accountID
    rw [Bank.stuck_eq_zero hnone, add_zero] at hsplit
    exact (DB.reserved_of_find? (Table.find?_of_mem hrow)).symm.trans hsplit

/-! ## A saga that strands a token -/

/-- `alice` pays 30 to `bob`. -/
def reservationDecode : String → Option SignedPaymentIntent
  | "pay" => some (PaymentIntentPayload.signedBy
      ⟨"T", "alice", "bob", 30, "USD", "N", 1000000000000, "phone", "K"⟩ "alice-key")
  | _ => none

/-- The payment, with the given outcome of its `LEDGER_COMMIT`, run to its end. -/
def reservationRun (ledgerCommit : Label) : List Label :=
  Label.setup ["K"] ++ [.startSettle ⟨"", "pay", "N", "", "T", ""⟩ 0] ++ Label.settles 0 7
    ++ [ledgerCommit] ++ Label.settles 0 10

/-- `LEDGER_COMMIT` is lost once. When the call has returned, the token is invalidated and its value
is still reserved. -/
theorem held_token_stranded :
    (World.start (E := .simple reservationDecode) ()).Initial ∧
    (((World.start (E := .simple reservationDecode) ()).exec
      (reservationRun (Label.settleFails 0))).calls.map fun call => call.pc.isReturned) = [true] ∧
    ¬((World.start (E := .simple reservationDecode) ()).exec
      (reservationRun (Label.settleFails 0))).db.ReservedExact :=
  ⟨World.start_initial _, by decide +kernel⟩

/-- Without a fault nothing is stranded. -/
theorem reserved_exact_iff_settled :
    ((World.start (E := .simple reservationDecode) ()).exec
      (reservationRun (.settle 0 { now := 1 }))).db.ReservedExact ∧
    ∀ tokenID, ¬History.Stranded tokenID ((World.start (E := .simple reservationDecode) ()).exec
      (reservationRun (.settle 0 { now := 1 }))).history := by
  have hexact : ((World.start (E := .simple reservationDecode) ()).exec
      (reservationRun (.settle 0 { now := 1 }))).db.ReservedExact := by decide +kernel
  exact ⟨hexact, (reserved_exact_iff _ (World.start_initial _) _).mp hexact⟩

/-! ## Errors that cannot happen -/

/-- The first three characters of an error text, by which the errors below can be told apart. -/
def GoError.tag (e : GoError) : List Char := e.text.toList.take 3

theorem GoError.tag_append {p : String} (h : 3 ≤ p.toList.length) (s : String) (noRows : Bool) :
    GoError.tag ⟨p ++ s, noRows⟩ = p.toList.take 3 := by
  rw [GoError.tag, String.toList_append, List.take_append_of_le_length h]

theorem Settlement.insufficientReserved_tag (reserved value : Int64) :
    (insufficientReserved reserved value).tag = ['i', 'n', 's'] := by
  delta insufficientReserved
  rw [String.append_assoc, String.append_assoc, GoError.tag_append (by decide)]
  decide

theorem Token.inconsistentReserved_tag (ownerID : String) (reserved value : Int64) :
    (inconsistentReserved ownerID reserved value).tag = ['i', 'n', 'c'] := by
  delta inconsistentReserved
  rw [String.append_assoc, String.append_assoc, String.append_assoc, String.append_assoc,
    GoError.tag_append (by decide)]
  decide

/-- The error of the `CHECK` clause on `reserved_balance`. -/
def reservedCheck : GoError :=
  Pg.checkViolation "account_balances" "account_balances_reserved_balance_check"

section Errors

variable {db : DB} {e : GoError}

theorem updateBalance_error {accountID : String} {available reserved : Int64} {now : Time}
    (h : updateBalance accountID available reserved now db = .error e) :
    e.tag = ['p', 'q', ':'] ∧ (e = reservedCheck → ¬0 ≤ reserved) := by
  unfold updateBalance at h
  split at h
  · simp at h
  · split_ifs at h with h₁ h₂
    all_goals obtain rfl := Except.error.inj h
    · exact ⟨by decide, fun _ => h₂⟩
    · exact ⟨by decide, fun h => absurd h (by decide)⟩

theorem updateToken_error {target : TokenStatus} {update : OfflineToken → OfflineToken}
    {tokenID : String} (h : updateToken target update tokenID db = .error e) :
    e.noRows = true ∨ e.tag = ['i', 'n', 'v'] := by
  simp only [updateToken, bind_error, select_error, check_error, write_ne_error, and_false,
    exists_false, or_false] at h
  rcases h with ⟨-, rfl⟩ | ⟨tok, _, -, -, rfl⟩
  · exact .inl rfl
  · right
    simp only [String.append_assoc]
    exact GoError.tag_append (by decide) _ _

theorem createLedgerEntry_error {txnID accountID : String} {direction : Direction} {amount : Int64}
    {entryType : EntryType} {balanceAfter : Int64}
    (h : createLedgerEntry txnID accountID direction amount entryType balanceAfter db = .error e) :
    e.tag = ['p', 'q', ':'] ∧ e ≠ reservedCheck := by
  unfold createLedgerEntry at h
  split_ifs at h
  all_goals
    obtain rfl := Except.error.inj h
    exact ⟨by decide, by decide⟩

/-- A reservation that covers the token passes the check of `RESERVE`. -/
theorem reserve_ne_insufficient {o : Order} {input : Input}
    (hcov : ∀ bal, db.accountBalances.find? o.payload.senderID = some bal →
      o.token.value ≤ bal.reservedBalance) (r v : Int64) :
    reserve o input db ≠ .error (insufficientReserved r v) := by
  intro h
  have htag := insufficientReserved_tag r v
  simp only [reserve, bind_error, lockBalances_ok, check_ok, check_error, mapError_error] at h
  rcases h with h | ⟨bals, _, ⟨hs, -, rfl⟩, ⟨hlt, -⟩ | ⟨_, _, -, ⟨e, -, h⟩ | ⟨_, _, -, e, -, h⟩⟩⟩
  · obtain ⟨accountID, -, -, he⟩ := lockBalances_error h
    exact absurd (congrArg GoError.noRows he) Bool.false_ne_true
  · exact hlt (hcov _ hs)
  · rw [← h, GoError.wrap, GoError.tag_append (by decide)] at htag
    exact absurd htag (by decide)
  · rw [← h, GoError.wrap, GoError.tag_append (by decide)] at htag
    exact absurd htag (by decide)

/-- A reservation that covers the token passes the `CHECK` in `LEDGER_COMMIT`. -/
theorem commitLedger_ne_check {o : Order} {input : Input} (hv : 0 ≤ o.token.value)
    (hcov : ∀ bal, db.accountBalances.find? o.payload.senderID = some bal →
      o.token.value ≤ bal.reservedBalance) : commitLedger o input db ≠ .error reservedCheck := by
  intro h
  simp only [commitLedger, bind_error, lockBalances_ok] at h
  rcases h with h | ⟨_, db₁, hcons, h | ⟨bals, _, ⟨hs, -, rfl⟩, h | ⟨_, _, -, h | ⟨_, _, -, h |
    ⟨_, _, -, h | ⟨_, _, -, h | ⟨_, _, -, h⟩⟩⟩⟩⟩⟩⟩
  · rcases updateToken_error h with h | h
    · exact absurd h (by decide)
    · exact absurd h (by decide)
  · obtain ⟨accountID, -, -, he⟩ := lockBalances_error h
    exact absurd he (by decide)
  · -- the sender's new reserved balance
    obtain ⟨row, -, -, rfl⟩ := updateToken_ok.mp hcons
    refine (updateBalance_error h).2 rfl ?_
    have hle := Checked.toInt_le (hcov bals.1 hs)
    rw [Int64.le_iff_toInt_le, Checked.toInt_sub bals.1.reserved_check hv, Int64.toInt_zero]
    omega
  · exact (updateBalance_error h).2 rfl bals.2.reserved_check
  · exact write_ne_error h
  · exact (createLedgerEntry_error h).2 rfl
  · exact (createLedgerEntry_error h).2 rfl
  · exact (createLedgerEntry_error h).2 rfl

/-- A reservation that covers the token passes the check of `ReleaseExpiredTokens`. -/
theorem releaseExpired_ne_inconsistent {tok : OfflineToken} {now : Time}
    (hcov : ∀ bal, db.accountBalances.find? tok.ownerID = some bal →
      tok.value ≤ bal.reservedBalance) (ownerID : String) (r v : Int64) :
    Token.releaseExpired tok now db ≠ .error (Token.inconsistentReserved ownerID r v) := by
  intro h
  have htag := Token.inconsistentReserved_tag ownerID r v
  obtain h | ⟨locked, _, hlock, h⟩ := bind_error.mp h
  · exact absurd (congrArg GoError.noRows (select_error.mp h).2).symm Bool.false_ne_true
  obtain ⟨-, rfl⟩ := getTokenForUpdate_ok.mp hlock
  split at h
  · exact pure_ne_error h
  simp only [bind_error, getBalanceForUpdate_ok, check_ok, check_error, pure_ne_error, and_false,
    exists_false, or_false] at h
  rcases h with h | ⟨bal, _, ⟨hbal, rfl⟩, ⟨hlt, -⟩ | ⟨_, _, -, h | ⟨_, _, -, h | ⟨_, _, -, h |
    ⟨_, _, -, h⟩⟩⟩⟩⟩
  · exact absurd (congrArg GoError.noRows (select_error.mp h).2).symm Bool.false_ne_true
  · exact hlt (hcov bal hbal)
  · exact absurd (htag.symm.trans (updateBalance_error h).1) (by decide)
  · rcases updateToken_error h with h | h
    · exact absurd h Bool.false_ne_true
    · exact absurd (htag.symm.trans h) (by decide)
  · exact absurd (htag.symm.trans (createLedgerEntry_error h).1) (by decide)
  · exact write_ne_error h

end Errors

/-- In every state each reserved balance is at least the value of the owner's tokens that are issued
or on hold. So no transaction about such a token can fail for want of reserved funds: not `RESERVE`,
not `LEDGER_COMMIT`, and not a release. -/
theorem reservation_suffices {E : Externals} (w : World E) (hi : w.Initial) (ls : List Label) :
    let db := (w.exec ls).db
    (∀ row ∈ db.accountBalances.rows, db.outstanding row.accountID ≤ row.reservedBalance.toInt) ∧
    (∀ call ∈ (w.exec ls).calls, ∀ o ∈ call.order, ∀ row,
      db.offlineTokens.find? o.payload.tokenID = some row → row.outstanding = true → ∀ input,
        (∀ reserved value, reserve o input db ≠ .error (insufficientReserved reserved value)) ∧
          commitLedger o input db ≠ .error reservedCheck) ∧
    (∀ pass ∈ (w.exec ls).passes, ∀ tok ∈ pass, ∀ row,
      db.offlineTokens.find? tok.tokenID = some row → row.outstanding = true →
        ∀ now ownerID reserved value, Token.releaseExpired tok now db
          ≠ .error (Token.inconsistentReserved ownerID reserved value)) := by
  obtain ⟨hs, -, -, hb⟩ := World.money hi ls
  refine ⟨fun row hrow => hb.outstanding_le hs hrow, fun call hcall o ho row hrow hout input => ?_,
    fun pass hpass tok htok row hrow hout now ownerID reserved value => ?_⟩
  · obtain ⟨i, hi⟩ := List.mem_iff_getElem?.mp hcall
    have hpr : (w.exec ls).bank.progress i = some ⟨o, _, _⟩ :=
      (World.progress_of_call hi).trans (by rw [ho, Option.map_some])
    obtain ⟨row', hrow', -, hv, howner⟩ := hs.tokens.orders i _ hpr
    obtain rfl : row = row' := Option.some.inj (hrow.symm.trans hrow')
    have hcov : ∀ bal, (w.exec ls).db.accountBalances.find? o.payload.senderID = some bal →
        o.token.value ≤ bal.reservedBalance := by
      intro bal hbal
      rw [← o.owner_eq, ← howner] at hbal
      exact hv ▸ hb.covers hs hrow hout hbal
    have hnn : 0 ≤ o.token.value := by
      have h := (hs.tokens.state _ row hrow).value_nonneg
      rw [← hv, Int64.le_iff_toInt_le, Int64.toInt_zero]
      exact h
    exact ⟨reserve_ne_insufficient hcov, commitLedger_ne_check hnn hcov⟩
  · obtain ⟨row', hrow', -, hv, howner⟩ := hs.tokens.snapshots tok ⟨pass, hpass, htok⟩
    obtain rfl : row = row' := Option.some.inj (hrow.symm.trans hrow')
    refine releaseExpired_ne_inconsistent (fun bal hbal => ?_) ownerID reserved value
    rw [← howner] at hbal
    exact hv ▸ hb.covers hs hrow hout hbal

/-- After a payment of 30 out of a token of 100, with a second token outstanding. -/
theorem reservation_suffices_settled :
    let w := (World.start (E := .simple reservationDecode) ()).exec
      (Label.setup ["J", "K"] ++ [.startSettle ⟨"", "pay", "N", "", "T", ""⟩ 0] ++ Label.settles 0 18)
    w.db.outstanding "alice" = 100 ∧ ∀ row ∈ w.db.accountBalances.rows,
      w.db.outstanding row.accountID ≤ row.reservedBalance.toInt :=
  ⟨by decide +kernel, (reservation_suffices _ (World.start_initial _) _).1⟩

end OfflinePay
