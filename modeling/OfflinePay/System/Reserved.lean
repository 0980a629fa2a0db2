import OfflinePay.System.Money
import OfflinePay.Validator.Audit

/-!
# Reserved balances

A reserved balance is the value of the owner's tokens that is not out. That value is outstanding, or
it is stuck: three kinds of transaction strand the value of a token. The compensation of
`CONSUME_TOKEN` invalidates a token on hold and moves no balance; the compensation of
`LEDGER_COMMIT` gives the reservation back but leaves the token consumed; and a payment to oneself
consumes the token but leaves the reservation. Nothing releases it afterwards.
-/

namespace OfflinePay

namespace Bank

variable {b : Bank} {row : OfflineToken}

theorem TokenState.value_nonneg (h : b.TokenState row) : 0 ≤ row.value.toInt := by
  cases h with
  | spent hrow => simp [hrow.2.1]
  | issued hv => exact (Checked.toInt_pos hv).le
  | held _ _ hv => exact (Checked.toInt_pos hv).le
  | consumed _ _ hv => exact (Checked.toInt_pos hv).le
  | released hv => exact (Checked.toInt_pos hv).le
  | stranded hv => exact (Checked.toInt_pos hv).le

/-- A token with stranded value has value. -/
theorem TokenState.value_pos (h : b.TokenState row)
    (hst : History.Stranded row.tokenID b.history) : 0 < row.value := by
  cases h with
  | spent _ _ ht => exact (ht.stranded.mp hst).elim
  | issued hv => exact hv
  | held _ _ hv => exact hv
  | consumed _ _ hv => exact hv
  | released hv => exact hv
  | stranded hv => exact hv

open Classical in
/-- What is not out of a token's value is outstanding or stranded. -/
theorem TokenState.value_split (h : b.TokenState row) :
    row.value.toInt * (1 - History.out row.tokenID b.history)
      = (if row.outstanding = true then row.value.toInt else 0)
        + if History.Stranded row.tokenID b.history then row.value.toInt else 0 := by
  cases h with
  | spent hrow hnone ht => simp [hrow.2.1]
  | issued hv hs hc hr hnone ht => simp [OfflineToken.outstanding, hs, ht.out, ht.stranded]
  | held i pr hv hs hc hr hpr htok hex hst ht =>
    simp [OfflineToken.outstanding, hs, ht.out, ht.stranded]
  | consumed i pr hv hs hc hr hpr htok hex ht =>
    by_cases hself : pr.order.self ∨ ¬pr.settled
    · simp [OfflineToken.outstanding, hs, ht.out, ht.stranded, hself]
    · simp [OfflineToken.outstanding, hs, ht.out, ht.stranded, hself]
  | released hv hs hc hr hnone ht => simp [OfflineToken.outstanding, hs, ht.out, ht.stranded]
  | stranded hv hs hc hr hnone ht => simp [OfflineToken.outstanding, hs, ht.out, ht.stranded]

open Classical in
/-- The value that is stranded in the reserved balance of an account. -/
noncomputable def stuck (b : Bank) (a : String) : ℤ :=
  b.db.offlineTokens.sum fun row =>
    if row.ownerID = a ∧ History.Stranded row.tokenID b.history then row.value.toInt else 0

open Classical in
/-- The reserved balance is what is outstanding plus what is stranded. -/
theorem Backed.reserved_eq (hs : b.Sound) (hb : b.Backed) (a : String) :
    b.db.reserved a = b.db.outstanding a + b.stuck a := by
  rw [hb a, DB.outstanding, stuck, Table.sum, Table.sum, Table.sum, ← List.sum_map_add]
  congr 1
  refine List.map_congr_left fun row hrow => ?_
  have hstate := hs.tokens.state _ row (Table.find?_of_mem hrow)
  by_cases ha : row.ownerID = a
  · rw [backing, if_pos ha, hstate.value_split]
    exact congrArg₂ _ (if_congr (by simp [ha]) rfl rfl) (if_congr (by simp [ha]) rfl rfl)
  · simp [backing, ha]

/-- The values of some of the tokens are nonnegative. -/
theorem Sound.values_nonneg (hs : b.Sound) (p : OfflineToken → Prop) [DecidablePred p] :
    ∀ x ∈ b.db.offlineTokens.rows.map fun row => if p row then row.value.toInt else 0, 0 ≤ x := by
  intro x hx
  obtain ⟨row, hrow, rfl⟩ := List.mem_map.mp hx
  split
  · exact (hs.tokens.state _ row (Table.find?_of_mem hrow)).value_nonneg
  · exact le_refl 0

open Classical in
theorem Sound.stuck_nonneg (hs : b.Sound) (a : String) : 0 ≤ b.stuck a :=
  List.sum_nonneg (hs.values_nonneg _)

theorem Sound.outstanding_nonneg (hs : b.Sound) (a : String) : 0 ≤ b.db.outstanding a :=
  List.sum_nonneg (hs.values_nonneg _)

open Classical in
/-- A token with stranded value sticks in the reserved balance of its owner. -/
theorem Sound.stuck_pos (hs : b.Sound) {tokenID : String}
    (hst : History.Stranded tokenID b.history) : ∃ a, 0 < b.stuck a := by
  cases hrow : b.db.offlineTokens.find? tokenID with
  | none => exact ((hs.tokens.unknown tokenID hrow).stranded.mp hst).elim
  | some row =>
    obtain rfl := Table.key_of_find? hrow
    have hpos := (hs.tokens.state _ row hrow).value_pos hst
    refine ⟨row.ownerID, lt_of_lt_of_le (Checked.toInt_pos hpos) ?_⟩
    refine List.single_le_sum (hs.values_nonneg _) _ ?_
    exact List.mem_map.mpr ⟨row, Table.mem_of_find? hrow, by simp [hst]⟩

theorem stuck_eq_zero (h : ∀ tokenID, ¬History.Stranded tokenID b.history) (a : String) :
    b.stuck a = 0 := by
  refine List.sum_eq_zero fun x hx => ?_
  obtain ⟨row, -, rfl⟩ := List.mem_map.mp hx
  simp [h row.tokenID]

/-- The reservation of an owner covers the outstanding tokens. -/
theorem Backed.outstanding_le (hs : b.Sound) (hb : b.Backed) {bal : AccountBalance}
    (hbal : bal ∈ b.db.accountBalances.rows) :
    b.db.outstanding bal.accountID ≤ bal.reservedBalance.toInt := by
  have hsplit := hb.reserved_eq hs bal.accountID
  have hstuck := hs.stuck_nonneg bal.accountID
  rw [DB.reserved_of_find? (Table.find?_of_mem hbal)] at hsplit
  omega

/-- The reservation of an owner covers each outstanding token. -/
theorem Backed.covers (hs : b.Sound) (hb : b.Backed) {tokenID : String}
    (hrow : b.db.offlineTokens.find? tokenID = some row) (hout : row.outstanding = true)
    {bal : AccountBalance} (hbal : b.db.accountBalances.find? row.ownerID = some bal) :
    row.value ≤ bal.reservedBalance := by
  have hone : row.value.toInt ≤ b.db.outstanding row.ownerID := by
    refine List.single_le_sum (hs.values_nonneg _) _ ?_
    exact List.mem_map.mpr ⟨row, Table.mem_of_find? hrow, by simp [hout]⟩
  have hall := hb.outstanding_le hs (Table.mem_of_find? hbal)
  rw [Table.key_of_find? hbal] at hall
  exact Int64.le_iff_toInt_le.mpr (hone.trans hall)

end Bank

end OfflinePay
