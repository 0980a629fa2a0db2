import OfflinePay.System.TokenBank

/-!
# The services refine an atomic bank of tokens

Reference: `internal/settlement/service.go`, `Settle`; `internal/token/service.go`, `IssueToken` and
`ReleaseExpiredTokens`; `internal/saga/saga.go`; `internal/repository/repository.go`, `CreateAccount`.

However the calls, the passes and the faults of a run interleave, the transactions that it committed
are, in their order, a run of `TokenBank`: each one is an operation that the abstract bank allows in
the state it is in, or changes nothing there. A payment is one operation, although the saga commits
it in four transactions, and it happens at the `LEDGER_COMMIT`.
-/

namespace OfflinePay

open Settlement

variable {E : Externals}

namespace Bank

variable {b b' : Bank} {txn : Option Txn}

/-- The operations of a history. -/
def ops (b : Bank) : List (TokenBank.Op String String) := b.history.filterMap Commit.op?

theorem Step.ops (h : Step b txn b') :
    b'.ops = b.ops ++ (txn.bind fun t => Commit.op? ⟨t, b.db, b'.db⟩).toList := by
  rw [Bank.ops, Bank.ops, h.history, List.filterMap_append]
  cases txn with
  | none => simp
  | some t => cases hop : Commit.op? ⟨t, b.db, b'.db⟩ <;> simp [hop]

/-- The run of the abstract bank goes on with the run of the system. -/
theorem Step.runs (hs : b.Sound) (h : Step b txn b') {a : TokenBank String String}
    (hruns : TokenBank.Runs a b.ops b.shown) : TokenBank.Runs a b'.ops b'.shown := by
  have hfollows := h.shown hs
  rw [h.ops]
  cases hop : txn.bind fun t => Commit.op? ⟨t, b.db, b'.db⟩ with
  | none =>
    rw [hop] at hfollows
    have hsame : b'.shown = b.shown := hfollows
    rw [hsame, Option.toList_none, List.append_nil]
    exact hruns
  | some op =>
    rw [hop] at hfollows
    exact hruns.snoc hfollows

end Bank

/-- No account is open, and the tokens that are there stand for nothing. -/
def TokenBank.unopened (tokens : Table OfflineToken.tokenID) : TokenBank String String where
  balance _ := none
  coins k := (tokens.find? k).map fun _ => .closed

theorem World.Initial.shown {w : World E} (hi : w.Initial) :
    w.bank.shown = .unopened w.db.offlineTokens := by
  have hhistory : w.bank.history = [] := hi.history
  have hcoin : w.bank.coin = fun k => (w.db.offlineTokens.find? k).map fun _ => .closed := by
    funext k
    cases hfind : w.db.offlineTokens.find? k with
    | none => exact Bank.coin_unknown hfind
    | some row =>
      have hspent := hi.offlineTokens row (Table.mem_of_find? hfind)
      refine Bank.coin_closed hfind (fun hu => absurd (hspent.1.symm.trans hu.2) (by simp)) ?_ ?_
      · rw [Bank.payer, hhistory]
        rfl
      · rw [hhistory]
        simp [History.Stranded]
  rw [Bank.shown, hcoin]
  simp only [World.bank, hi.accountBalances]
  rfl

/-- After every run, with any interleaving and any faults, the committed transactions are in their
order a run of the abstract bank from the state without accounts. It ends in the available balances
of the database, and what its tokens set aside for an account is the reserved balance. -/
theorem refines_token_bank (w : World E) (hi : w.Initial) (ls : List Label) :
    TokenBank.Runs (.unopened w.db.offlineTokens) ((w.exec ls).history.filterMap Commit.op?)
      (w.exec ls).bank.shown ∧
    ∀ x, (w.exec ls).db.reserved x = (w.exec ls).bank.held x := by
  have hruns := (World.bank_invariant (P := fun _ _ => True)
    (I := fun b => b.Sound ∧ TokenBank.Runs (.unopened w.db.offlineTokens) b.ops b.shown)
    (fun w l hI _ h => ⟨hI.1.step h, h.runs hI.1 hI.2⟩) hi.callsWf
    ⟨hi.sound, by
      rw [hi.shown, Bank.ops, show w.bank.history = [] from hi.history]
      exact .nil⟩ (Run.steps_true w ls)).1.2
  obtain ⟨hs, -, -, hbacked⟩ := World.money hi ls
  exact ⟨hruns, hbacked.held_eq hs⟩

/-- Two payments of `alice` to `bob`, each with a token of its own. -/
def twoPaymentsDecode : String → Option SignedPaymentIntent
  | "one" => some (PaymentIntentPayload.signedBy
      ⟨"T", "alice", "bob", 30, "USD", "N", 1000000000000, "phone", "K"⟩ "alice-key")
  | "two" => some (PaymentIntentPayload.signedBy
      ⟨"U", "alice", "bob", 20, "USD", "M", 1000000000000, "phone", "L"⟩ "alice-key")
  | _ => none

/-- The calls take turns. The `PUBLISH` of the first payment is lost, and the payment is taken back
after the second one has been committed. -/
def twoPaymentsRun : List Label :=
  Label.setup ["K", "L"]
    ++ [.startSettle ⟨"", "one", "N", "", "tok-res-K", ""⟩ 0,
      .startSettle ⟨"", "two", "M", "", "U", ""⟩ 0]
    ++ Label.settles 0 8 ++ Label.settles 1 8 ++ [Label.settleFails 0] ++ Label.settles 0 12

theorem refines_token_bank_two :
    ∃ a, TokenBank.Runs (.unopened .empty) [.openAccount "alice" 1000, .openAccount "bob" 0,
        .issue "K" "alice" 100, .issue "L" "alice" 100, .pay "K" "bob" 30, .pay "L" "bob" 20,
        .revert "K"] a ∧
      a.balance "alice" = some 880 ∧ a.balance "bob" = some 20 := by
  obtain ⟨hops, halice, hbob⟩ :
      ((World.start (E := .simple twoPaymentsDecode) ()).exec twoPaymentsRun).history.filterMap
        Commit.op? = [.openAccount "alice" 1000, .openAccount "bob" 0, .issue "K" "alice" 100,
          .issue "L" "alice" 100, .pay "K" "bob" 30, .pay "L" "bob" 20, .revert "K"] ∧
      (((World.start (E := .simple twoPaymentsDecode) ()).exec
        twoPaymentsRun).db.accountBalances.find? "alice").map (·.availableBalance.toInt) = some 880 ∧
      (((World.start (E := .simple twoPaymentsDecode) ()).exec
        twoPaymentsRun).db.accountBalances.find? "bob").map (·.availableBalance.toInt) = some 20 := by
    decide +kernel
  have hruns := (refines_token_bank (World.start (E := .simple twoPaymentsDecode) ())
    (World.start_initial _) twoPaymentsRun).1
  generalize World.exec (World.start (E := .simple twoPaymentsDecode) ()) twoPaymentsRun = w
    at hops halice hbob hruns
  rw [hops] at hruns
  exact ⟨w.bank.shown, hruns, halice, hbob⟩

end OfflinePay
