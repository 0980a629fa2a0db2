import Mathlib.Data.Int.Log
import Mathlib.Data.Rat.Floor
import Mathlib.Tactic

/-!
# Rounding to double precision

`round64 q` is the double nearest to the rational `q`, ties to the even significand: 53 bits of
precision and no exponent below `-1074`. The exponent is not bounded above, so the value is that of
the hardware for every result that does not overflow.

A sum or a product of doubles is `round64` of the exact sum or product. What a program can rely on is
that rounding is monotone (`round64_mono`) and leaves the doubles alone (`round64_of_double`): the
order of two exact values is never turned round, and a computed value stays on its side of any
double.
-/

namespace OfflinePay.Rounding

/-! ## To an integer -/

/-- The nearest integer, ties to the even one. -/
def roundEven (q : ℚ) : ℤ :=
  let k := ⌊q⌋
  if q - k < 1 / 2 then k else if 1 / 2 < q - k then k + 1 else k + k % 2

theorem roundEven_bounds (q : ℚ) : ⌊q⌋ ≤ roundEven q ∧ roundEven q ≤ ⌊q⌋ + 1 := by
  unfold roundEven
  dsimp only
  split_ifs <;> omega

@[simp]
theorem roundEven_intCast (k : ℤ) : roundEven (k : ℚ) = k := by
  simp [roundEven]

theorem roundEven_mono {a b : ℚ} (h : a ≤ b) : roundEven a ≤ roundEven b := by
  rcases (Int.floor_mono h).lt_or_eq with hlt | heq
  · have ha := (roundEven_bounds a).2
    have hb := (roundEven_bounds b).1
    omega
  · -- the same floor: the distance from it decides
    unfold roundEven
    dsimp only
    rw [heq]
    have hmod : 0 ≤ ⌊b⌋ % 2 ∧ ⌊b⌋ % 2 < 2 := by omega
    split_ifs <;> first | omega | (exfalso; linarith)

theorem roundEven_neg (q : ℚ) : roundEven (-q) = -roundEven q := by
  by_cases hint : (⌊q⌋ : ℚ) = q
  · rw [← hint, ← Int.cast_neg, roundEven_intCast, roundEven_intCast]
  · have hlt : (⌊q⌋ : ℚ) < q := lt_of_le_of_ne (Int.floor_le q) hint
    have hfloor : ⌊-q⌋ = -⌊q⌋ - 1 := by
      rw [Int.floor_eq_iff]
      push_cast
      constructor <;> linarith [Int.lt_floor_add_one q]
    unfold roundEven
    dsimp only
    rw [hfloor]
    push_cast
    split_ifs <;> first | omega | (exfalso; linarith)

/-- A value that does not pass an integer is not rounded past it. -/
theorem roundEven_le_of_le {q : ℚ} {k : ℤ} (h : q ≤ k) : roundEven q ≤ k := by
  simpa using roundEven_mono h

theorem le_roundEven_of_le {q : ℚ} {k : ℤ} (h : (k : ℚ) ≤ q) : k ≤ roundEven q := by
  simpa using roundEven_mono h

/-! ## To a double -/

/-- The exponent of the last place of the doubles around `q`. -/
def lastPlace (q : ℚ) : ℤ := max (Int.log 2 |q| - 52) (-1074)

/-- The double nearest to `q`, ties to even. -/
def round64 (q : ℚ) : ℚ := roundEven (q / 2 ^ lastPlace q) * 2 ^ lastPlace q

/-- The values of doubles. -/
def IsDouble (x : ℚ) : Prop := ∃ m e : ℤ, |m| < 2 ^ 53 ∧ -1074 ≤ e ∧ x = m * 2 ^ e

theorem lastPlace_neg (q : ℚ) : lastPlace (-q) = lastPlace q := by
  rw [lastPlace, lastPlace, abs_neg]

theorem round64_neg (q : ℚ) : round64 (-q) = -round64 q := by
  rw [round64, lastPlace_neg, neg_div, roundEven_neg, round64]
  push_cast
  ring

@[simp]
theorem round64_zero : round64 0 = 0 := by
  have h : roundEven (0 : ℚ) = 0 := by simpa using roundEven_intCast 0
  rw [round64, zero_div, h]
  simp

theorem two_zpow_pos (e : ℤ) : (0 : ℚ) < 2 ^ e := zpow_pos two_pos e

/-- A multiple of the last place is not passed. -/
theorem round64_le_of_le_mul {q : ℚ} {k : ℤ} (h : q ≤ k * 2 ^ lastPlace q) :
    round64 q ≤ k * 2 ^ lastPlace q := by
  have hpos := two_zpow_pos (lastPlace q)
  have hk : q / 2 ^ lastPlace q ≤ k := (div_le_iff₀ hpos).2 h
  have hround : (roundEven (q / 2 ^ lastPlace q) : ℚ) ≤ k := by
    exact_mod_cast roundEven_le_of_le hk
  exact mul_le_mul_of_nonneg_right hround hpos.le

theorem le_round64_of_mul_le {q : ℚ} {k : ℤ} (h : k * 2 ^ lastPlace q ≤ q) :
    k * 2 ^ lastPlace q ≤ round64 q := by
  have hpos := two_zpow_pos (lastPlace q)
  have hk : (k : ℚ) ≤ q / 2 ^ lastPlace q := (le_div_iff₀ hpos).2 h
  have hround : (k : ℚ) ≤ roundEven (q / 2 ^ lastPlace q) := by
    exact_mod_cast le_roundEven_of_le hk
  exact mul_le_mul_of_nonneg_right hround hpos.le

theorem round64_nonneg {q : ℚ} (h : 0 ≤ q) : 0 ≤ round64 q := by
  have hk : ((0 : ℤ) : ℚ) * 2 ^ lastPlace q ≤ q := by simpa using h
  simpa using le_round64_of_mul_le hk

/-- A larger power of two is a multiple of a smaller one. -/
theorem zpow_eq_natCast_mul {d e : ℤ} (h : d ≤ e) :
    ∃ k : ℤ, (2 : ℚ) ^ e = k * 2 ^ d := by
  refine ⟨2 ^ (e - d).toNat, ?_⟩
  have hsplit : e = ((e - d).toNat : ℤ) + d := by omega
  conv_lhs => rw [hsplit]
  rw [zpow_add₀ two_ne_zero, zpow_natCast]
  push_cast
  rfl

theorem lastPlace_mono {a b : ℚ} (ha : 0 < a) (h : a ≤ b) : lastPlace a ≤ lastPlace b := by
  unfold lastPlace
  have hab : |a| ≤ |b| := by rwa [abs_of_pos ha, abs_of_pos (ha.trans_le h)]
  have hlog : Int.log 2 |a| ≤ Int.log 2 |b| := Int.log_mono_right (abs_pos.2 ha.ne') hab
  omega

/-- Between two values with different last places lies a power of two that is a multiple of both. -/
theorem exists_power_between {a b : ℚ} (ha : 0 < a) (h : a ≤ b) (hlt : lastPlace a < lastPlace b) :
    a ≤ 2 ^ (lastPlace b + 52) ∧ (2 : ℚ) ^ (lastPlace b + 52) ≤ b := by
  have hb : 0 < b := ha.trans_le h
  unfold lastPlace at hlt ⊢
  rw [abs_of_pos ha, abs_of_pos hb] at hlt
  rw [abs_of_pos hb]
  have hmax : max (Int.log 2 b - 52) (-1074) = Int.log 2 b - 52 := by omega
  rw [hmax, sub_add_cancel]
  refine ⟨?_, Int.zpow_log_le_self one_lt_two hb⟩
  have hup : a < (2 : ℚ) ^ (Int.log 2 a + 1) := Int.lt_zpow_succ_log_self one_lt_two a
  exact hup.le.trans (zpow_le_zpow_right₀ one_le_two (by omega))

theorem round64_mono_of_pos {a b : ℚ} (ha : 0 < a) (h : a ≤ b) : round64 a ≤ round64 b := by
  rcases (lastPlace_mono ha h).lt_or_eq with hlt | heq
  · obtain ⟨hle, hge⟩ := exists_power_between ha h hlt
    obtain ⟨k, hk⟩ := zpow_eq_natCast_mul (show lastPlace a ≤ lastPlace b + 52 by omega)
    obtain ⟨k', hk'⟩ := zpow_eq_natCast_mul (show lastPlace b ≤ lastPlace b + 52 by omega)
    calc round64 a ≤ k * 2 ^ lastPlace a := round64_le_of_le_mul (hk ▸ hle)
      _ = k' * 2 ^ lastPlace b := hk ▸ hk'
      _ ≤ round64 b := le_round64_of_mul_le (hk' ▸ hge)
  · have hpos := two_zpow_pos (lastPlace b)
    rw [round64, round64, heq]
    have hdiv : a / 2 ^ lastPlace b ≤ b / 2 ^ lastPlace b := div_le_div_of_nonneg_right h hpos.le
    have hround : (roundEven (a / 2 ^ lastPlace b) : ℚ) ≤ roundEven (b / 2 ^ lastPlace b) := by
      exact_mod_cast roundEven_mono hdiv
    exact mul_le_mul_of_nonneg_right hround hpos.le

/-- Rounding never turns the order of two values round. -/
theorem round64_mono {a b : ℚ} (h : a ≤ b) : round64 a ≤ round64 b := by
  rcases lt_trichotomy a 0 with ha | rfl | ha
  · rcases lt_or_ge b 0 with hb | hb
    · have hneg := round64_mono_of_pos (neg_pos.2 hb) (neg_le_neg h)
      rw [round64_neg, round64_neg] at hneg
      exact neg_le_neg_iff.1 hneg
    · have hneg := round64_nonneg (neg_nonneg.2 ha.le)
      rw [round64_neg] at hneg
      exact (neg_nonneg.1 hneg).trans (round64_nonneg hb)
  · rw [round64_zero]
    exact round64_nonneg h
  · exact round64_mono_of_pos ha h

/-- The order of two sums is kept from their terms. -/
theorem round64_add_le {a b c d : ℚ} (hab : a ≤ b) (hcd : c ≤ d) :
    round64 (a + c) ≤ round64 (b + d) := round64_mono (add_le_add hab hcd)

theorem lastPlace_le_of_double {m e : ℤ} (hm0 : m ≠ 0) (hm : |m| < 2 ^ 53) (he : -1074 ≤ e) :
    lastPlace ((m : ℚ) * 2 ^ e) ≤ e := by
  have hpos : (0 : ℚ) < |(m : ℚ) * 2 ^ e| :=
    abs_pos.2 (mul_ne_zero (by exact_mod_cast hm0) (two_zpow_pos e).ne')
  have hlt : |(m : ℚ) * 2 ^ e| < 2 ^ (e + 53) := by
    rw [abs_mul, abs_of_pos (two_zpow_pos e), add_comm, zpow_add₀ two_ne_zero]
    refine mul_lt_mul_of_pos_right ?_ (two_zpow_pos e)
    exact_mod_cast hm
  have hlog : Int.log 2 |(m : ℚ) * 2 ^ e| < e + 53 :=
    (Int.lt_zpow_iff_log_lt one_lt_two hpos).1 (by exact_mod_cast hlt)
  unfold lastPlace
  omega

theorem round64_of_lastPlace_le {m e : ℤ} (h : lastPlace ((m : ℚ) * 2 ^ e) ≤ e) :
    round64 ((m : ℚ) * 2 ^ e) = m * 2 ^ e := by
  obtain ⟨k, hk⟩ := zpow_eq_natCast_mul h
  have hexact : (m : ℚ) * 2 ^ e = ((m * k : ℤ) : ℚ) * 2 ^ lastPlace ((m : ℚ) * 2 ^ e) := by
    push_cast
    rw [mul_assoc, ← hk]
  have hle := round64_le_of_le_mul hexact.le
  have hge := le_round64_of_mul_le hexact.ge
  rw [← hexact] at hle hge
  exact le_antisymm hle hge

/-- Doubles are not changed. -/
theorem round64_of_double {x : ℚ} (h : IsDouble x) : round64 x = x := by
  obtain ⟨m, e, hm, he, rfl⟩ := h
  rcases eq_or_ne m 0 with rfl | hm0
  · simp
  · exact round64_of_lastPlace_le (lastPlace_le_of_double hm0 hm he)

theorem abs_roundEven_le (q : ℚ) : |roundEven (q / 2 ^ lastPlace q)| ≤ 2 ^ 53 := by
  have hpos := two_zpow_pos (lastPlace q)
  have hlt : |q| < (2 : ℚ) ^ (lastPlace q + 53) :=
    (Int.lt_zpow_succ_log_self one_lt_two |q|).trans_le
      (zpow_le_zpow_right₀ one_le_two (by unfold lastPlace; omega))
  have habs : |q / 2 ^ lastPlace q| ≤ ((2 ^ 53 : ℤ) : ℚ) := by
    rw [abs_div, abs_of_pos hpos, div_le_iff₀ hpos]
    rw [add_comm, zpow_add₀ two_ne_zero] at hlt
    exact_mod_cast hlt.le
  obtain ⟨hlo, hhi⟩ := abs_le.1 habs
  refine abs_le.2 ⟨?_, roundEven_le_of_le hhi⟩
  exact le_roundEven_of_le (by exact_mod_cast hlo)

/-- What rounding gives is a double. -/
theorem isDouble_round64 (q : ℚ) : IsDouble (round64 q) := by
  have hplace : -1074 ≤ lastPlace q := le_max_right _ _
  rcases (abs_roundEven_le q).lt_or_eq with hlt | heq
  · exact ⟨_, _, hlt, hplace, rfl⟩
  · -- the significand overflowed to `±2 ^ 53`: half of it, one exponent up
    have hshift : (2 : ℚ) ^ (lastPlace q + 1) = 2 * 2 ^ lastPlace q := by
      rw [add_comm, zpow_add₀ two_ne_zero, zpow_one]
    rcases (abs_eq (by norm_num : (0 : ℤ) ≤ 2 ^ 53)).1 heq with hm | hm
    · refine ⟨2 ^ 52, lastPlace q + 1, by norm_num, by omega, ?_⟩
      rw [round64, hm, hshift]
      push_cast
      ring
    · refine ⟨-2 ^ 52, lastPlace q + 1, by norm_num, by omega, ?_⟩
      rw [round64, hm, hshift]
      push_cast
      ring

end OfflinePay.Rounding
