import Mathlib.Data.String.Basic
import OfflinePay.System.RowLocks

/-!
# Lock cycles

All transactions lock accounts in alphabetical order, `LEDGER_COMMIT` and the release of an expired
token lock the token first. `RESERVE` gets at the token only after the accounts, through the foreign
key of its payment intent. Without that one lock all requests can be ranked, and nobody waits for a
transaction that waits for something of a lower rank. With it, a `RESERVE` and a `LEDGER_COMMIT` or
a release of the same token can each hold what the other one needs next.
-/

namespace OfflinePay

open Settlement

namespace DbTxn

/-- The token of a transaction, as it was read. -/
def token? : DbTxn → Option OfflineToken
  | reserve o | unreserve o | hold o | unhold o | commitLedger o | undoLedger o _ => some o.token
  | issueToken _ _ _ => none
  | releaseExpired tok => some tok

/-- All transactions on a token read the same owner. -/
def OneOwner {ι : Type} (ts : ι → DbTxn) : Prop :=
  ∀ i j tok tok', (ts i).token? = some tok → (ts j).token? = some tok' →
    tok.tokenID = tok'.tokenID → tok.ownerID = tok'.ownerID

/-! ## The lock order -/

/-- Where a request stands in the lock order. -/
def level (q : Lock.Request Row) : ℕ :=
  match q.row, q.mode with
  | .account _, _ => 1
  | .token _, .insert => 2
  | .token _, .keyShare => 5
  | .token _, _ => 0
  | .device _, _ => 4
  | .intent _, .insert => 3
  | .intent _, .keyShare => 9
  | .intent _, _ => 8
  | .nonce _, _ => 6
  | .entry _, _ => 7

/-- The order of the rows of one level: entries by number, accounts by name. -/
def within (q : Lock.Request Row) : ℕ ×ₗ String :=
  match q.row with
  | .account a => toLex (0, a)
  | .entry id => toLex (id, "")
  | _ => toLex (0, "")

def rank (q : Lock.Request Row) : ℕ ×ₗ (ℕ ×ₗ String) := toLex (level q, within q)

/-- The highest level of a request that waits for a lock. -/
def ceiling (h : Lock.Request Row) : ℕ :=
  match h.row, h.mode with
  | .account _, _ => 1
  | .token _, .insert => 2
  | .token _, .keyShare => 0
  | .token _, _ => 5
  | .device _, _ => 4
  | .intent _, .insert => 3
  | .intent _, .keyShare => 8
  | .intent _, .noKeyUpdate => 8
  | .intent _, _ => 9
  | .nonce _, _ => 6
  | .entry _, _ => 7

variable {key : Option String}

variable {ι : Type} [Fintype ι] [DecidableEq ι] {ts : ι → DbTxn}

end DbTxn

/-- In every state the calls and the release passes agree on who owns a token. -/
theorem World.oneOwner {E : Externals} {w : World E} (hi : w.Initial) (ls : List Label) {ι : Type}
    {ts : ι → DbTxn} (hts : ∀ i tok, (ts i).token? = some tok →
      (∃ j pr, (w.exec ls).progress j = some pr ∧ pr.order.token = tok) ∨
        ∃ pass ∈ (w.exec ls).passes, tok ∈ pass) : DbTxn.OneOwner ts := by
  have hs := (World.sound hi ls).tokens
  -- every token that is read is a row that keeps its owner
  have hrow : ∀ i tok, (ts i).token? = some tok →
      ∃ row, (w.exec ls).db.offlineTokens.find? tok.tokenID = some row ∧ row.ownerID = tok.ownerID := by
    intro i tok htok
    rcases hts i tok htok with ⟨j, pr, hpr, rfl⟩ | hpass
    · obtain ⟨row, hfind, hsame⟩ := hs.orders j pr hpr
      exact ⟨row, by rwa [pr.order.token_eq], hsame.2.2⟩
    · obtain ⟨row, hfind, hsame⟩ := hs.snapshots tok hpass
      exact ⟨row, hfind, hsame.2.2⟩
  intro i j tok tok' htok htok' hid
  obtain ⟨row, hfind, howner⟩ := hrow i tok htok
  obtain ⟨row', hfind', howner'⟩ := hrow j tok' htok'
  rw [hid, hfind'] at hfind
  rw [← howner, ← howner', Option.some.inj hfind]

end OfflinePay
