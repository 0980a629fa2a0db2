import Mathlib.Tactic

/-!
# Exact 64-bit arithmetic under sign checks

Sums and differences of non-negative 64-bit integers wrap around only into the negative range. A
result that passes a `0 ≤ ·` check is therefore the exact one. These are the lemmas by which a
stored, checked amount is read as an unbounded integer.
-/

namespace OfflinePay.Checked

theorem toInt_nonneg {a : Int64} (h : 0 ≤ a) : 0 ≤ a.toInt := by
  simpa using Int64.le_iff_toInt_le.mp h

theorem toInt_pos {a : Int64} (h : 0 < a) : 0 < a.toInt := by
  simpa using Int64.lt_iff_toInt_lt.mp h

theorem toInt_le {a b : Int64} (h : a ≤ b) : a.toInt ≤ b.toInt := Int64.le_iff_toInt_le.mp h

/-- A difference of non-negative amounts never wraps. -/
theorem toInt_sub {a b : Int64} (ha : 0 ≤ a) (hb : 0 ≤ b) :
    (a - b).toInt = a.toInt - b.toInt := by
  have h1 := toInt_nonneg ha
  have h2 := toInt_nonneg hb
  have h3 := a.toInt_lt
  have h4 := b.toInt_lt
  rw [Int64.toInt_sub, Int.bmod_eq_of_le] <;> omega

/-- What is left of a number of 64 bits: from `2 ^ 63` on it is negative. -/
theorem bmod_size {n : ℤ} (h₀ : 0 ≤ n) (h₁ : n < 2 ^ 64) :
    n.bmod (2 ^ 64) = if n < 2 ^ 63 then n else n - 2 ^ 64 := by
  rw [Int.bmod_def, Int.emod_eq_of_lt h₀ (by omega)]
  norm_num

/-- A sum of non-negative amounts that is itself non-negative did not wrap. -/
theorem toInt_add {a b : Int64} (ha : 0 ≤ a) (hb : 0 ≤ b) (h : 0 ≤ a + b) :
    (a + b).toInt = a.toInt + b.toInt := by
  have h1 := toInt_nonneg ha
  have h2 := toInt_nonneg hb
  have h3 := a.toInt_lt
  have h4 := b.toInt_lt
  have h5 := toInt_nonneg h
  rw [Int64.toInt_add, bmod_size (by omega) (by omega)] at h5 ⊢
  -- a wrapped sum would lie below zero
  split_ifs at h5 ⊢ with hlt
  · rfl
  · omega

/-- A sum of non-negative amounts that fits does not wrap. -/
theorem nonneg_add {a b : Int64} (ha : 0 ≤ a) (hb : 0 ≤ b)
    (h : a.toInt + b.toInt ≤ Int64.maxValue.toInt) : 0 ≤ a + b := by
  have ha' := toInt_nonneg ha
  have hb' := toInt_nonneg hb
  have hmax : Int64.maxValue.toInt = 2 ^ 63 - 1 := by decide
  rw [Int64.le_iff_toInt_le, Int64.toInt_add, bmod_size (by omega) (by omega), Int64.toInt_zero,
    if_pos (by omega)]
  omega

/-! ## Doubling -/

/-- A positive amount that is doubled until it wraps becomes negative at once. -/
theorem exists_doubling_neg {c : ℤ} (hpos : 0 < c) (hfits : c < 2 ^ 63) {n : ℕ}
    (h : 2 ^ 63 ≤ c * 2 ^ n) : ∃ k ≤ n, (Int64.ofInt (c * 2 ^ k)).toInt < 0 := by
  induction n with
  | zero => omega
  | succ n ih =>
    by_cases hn : 2 ^ 63 ≤ c * 2 ^ n
    · obtain ⟨k, hk, hneg⟩ := ih hn
      exact ⟨k, Nat.le_succ_of_le hk, hneg⟩
    · refine ⟨n + 1, le_refl _, ?_⟩
      have hdouble : c * 2 ^ (n + 1) = 2 * (c * 2 ^ n) := by ring
      rw [Int64.toInt_ofInt, show Int64.size = 2 ^ 64 from rfl, bmod_size (by omega) (by omega)]
      split_ifs <;> omega

end OfflinePay.Checked
