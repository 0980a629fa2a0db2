import OfflinePay.System.Bank

/-!
# Reading the history

What the committed transactions of a run add up to. Each notion is a sum or a count over the
history, so that one more transaction changes it by what that transaction contributes.
-/

namespace OfflinePay

open Settlement

/-! ## Single transactions -/

namespace Txn

/-- A committed `LEDGER_COMMIT`, the third step of the saga. -/
@[match_pattern]
abbrev ledgerCommit (i : ℕ) (o : Order) : Txn := .phase i o (.action 2)

/-- A committed compensation of `LEDGER_COMMIT`. -/
@[match_pattern]
abbrev ledgerUndo (i : ℕ) (o : Order) : Txn := .phase i o (.compensation 2)

/-- The call and the order of a committed compensation of `RESERVE`. -/
def reserveUndo? : Txn → Option (ℕ × Order)
  | .phase i o (.compensation 0) => some (i, o)
  | _ => none

/-- The transaction takes the value of this token out of its owner's reserved balance: a
`LEDGER_COMMIT` or a release. -/
def movesOut (tokenID : String) : Txn → Bool
  | ledgerCommit _ o => o.payload.tokenID == tokenID
  | .release tok => tok.tokenID == tokenID
  | _ => false

/-- How often the transaction takes the value of this token out of the reserved balances, counting a
compensation as minus one. A payment to oneself ends up taking nothing out. -/
def out (tokenID : String) : Txn → ℤ
  | ledgerCommit _ o => if o.payload.tokenID = tokenID ∧ ¬o.self then 1 else 0
  | ledgerUndo _ o => if o.payload.tokenID = tokenID ∧ ¬o.self then -1 else 0
  | .release tok => if tok.tokenID = tokenID then 1 else 0
  | _ => 0

/-- The opening balance that the transaction gives this account. -/
def opening (accountID : String) : Txn → ℤ
  | .createAccount id balance => if id = accountID then balance.toInt else 0
  | _ => 0

/-- The money that the transaction brings into the bank. -/
def deposit : Txn → ℤ
  | .createAccount _ balance => balance.toInt
  | _ => 0

end Txn

/-- The transaction leaves the value of this token in the reserved balance for good, while the token
stops being outstanding: a token is invalidated on hold, a `LEDGER_COMMIT` is compensated, or a
`LEDGER_COMMIT` pays the sender. -/
def Commit.Strands (tokenID : String) (c : Commit) : Prop :=
  match c.txn with
  | .ledgerCommit _ o => o.payload.tokenID = tokenID ∧ o.self
  | .ledgerUndo _ o => o.payload.tokenID = tokenID
  | .phase _ o (.compensation 1) => o.payload.tokenID = tokenID ∧
      (c.before.offlineTokens.find? tokenID).map OfflineToken.status = some .held
  | _ => False

/-! ## Whole histories -/

namespace History

/-- The sum of a quantity over the committed transactions. -/
def total (f : Txn → ℤ) (h : List Commit) : ℤ := (h.map fun c => f c.txn).sum

/-- How many transactions took the value of this token out of the reserved balance. -/
def moved (tokenID : String) (h : List Commit) : ℕ := h.countP fun c => c.txn.movesOut tokenID

/-- How often the value of this token is out of the reserved balances. -/
def out (tokenID : String) (h : List Commit) : ℤ := total (Txn.out tokenID) h

/-- Some transaction stranded the value of this token. -/
def Stranded (tokenID : String) (h : List Commit) : Prop := ∃ c ∈ h, c.Strands tokenID

/-- The opening balance of an account. -/
def opening (accountID : String) (h : List Commit) : ℤ := total (Txn.opening accountID) h

/-- All opening balances. -/
def deposits (h : List Commit) : ℤ := total Txn.deposit h

/-- What one more transaction does to the committed and uncompensated `LEDGER_COMMIT`s. -/
def track (live : List (ℕ × Order)) : Txn → List (ℕ × Order)
  | .ledgerCommit i o => live ++ [(i, o)]
  | .ledgerUndo i o => live.erase (i, o)
  | _ => live

/-- The committed and uncompensated `LEDGER_COMMIT`s, each with the index of its call. -/
def live (h : List Commit) : List (ℕ × Order) := h.foldl (fun l c => track l c.txn) []

section Append

variable (h : List Commit) (c : Commit)

@[simp]
theorem total_append (f : Txn → ℤ) : total f (h ++ [c]) = total f h + f c.txn := by
  simp [total]

@[simp]
theorem moved_append (tokenID : String) :
    moved tokenID (h ++ [c]) = moved tokenID h + if c.txn.movesOut tokenID then 1 else 0 := by
  simp [moved, List.countP_append, List.countP_singleton]

@[simp]
theorem out_append (tokenID : String) :
    out tokenID (h ++ [c]) = out tokenID h + c.txn.out tokenID :=
  total_append h c _

@[simp]
theorem stranded_append (tokenID : String) :
    Stranded tokenID (h ++ [c]) ↔ Stranded tokenID h ∨ c.Strands tokenID := by
  simp [Stranded, or_and_right, exists_or]

@[simp]
theorem live_append : live (h ++ [c]) = track (live h) c.txn := by
  simp [live]

end Append

end History

end OfflinePay
