import OfflinePay.Common.Hkdf
import OfflinePay.Properties.Envelopes

/-!
# Key derivation

Reference: `internal/crypto/crypto.go`, `hkdfSHA256`.

The loop of `hkdfSHA256` has one MAC, which it resets in every round, and copies one block per round
into a buffer of the length that is asked for; what does not fit of the last block is dropped by
`copy`. After `n` rounds the buffer begins with the first `n` blocks of the expansion and goes on
with zeros (`Expanded`), and the rounds are as many as it takes to fill it.
-/

namespace OfflinePay.Crypto

open Hkdf

variable {L : Library} {prk info : Bytes} {length n : ℕ} {s : Expansion}

/-- The variables of the loop after `n` rounds. -/
structure Expanded (L : Library) (prk info : Bytes) (length n : ℕ) (s : Expansion) : Prop where
  okm : s.okm = (blocks L.hmacSHA256 prk info n).take length ++ List.replicate (length - n * 32) 0
  t : s.t = block L.hmacSHA256 prk info n
  key : s.mac.key = prk

theorem expanded_zero (L : Library) (prk info : Bytes) (length : ℕ) :
    Expanded L prk info length 0 ⟨List.replicate length 0, [], { key := prk }⟩ where
  okm := by simp [blocks]
  t := rfl
  key := rfl

/-- What `copy` makes of a buffer that is filled up to `i`. -/
theorem copyAt_filled {filled : Bytes} {i : ℕ} (hfilled : filled.length = i) (hi : i ≤ length)
    (src : Bytes) :
    copyAt (filled ++ List.replicate (length - i) 0) i src
      = .returned (.ok ((filled ++ src).take length
          ++ List.replicate (length - (i + src.length)) 0)) := by
  subst hfilled
  have hlength : (filled ++ List.replicate (length - filled.length) 0).length = length := by
    rw [List.length_append, List.length_replicate]
    omega
  refine Outcome.guarded_eq_ok.mpr ⟨decide_eq_true (hi.trans_eq hlength.symm), ?_⟩
  rw [hlength, List.take_left, List.take_append, List.take_of_length_le hi, List.drop_append,
    List.drop_eq_nil_of_le (Nat.le_add_right _ _), List.nil_append, List.drop_replicate,
    Nat.add_sub_cancel_left, Nat.sub_sub]

theorem Expanded.round (hlen : ∀ key data, (L.hmacSHA256 key data).length = 32)
    (h : Expanded L prk info length n s) (hn : n * 32 ≤ length) :
    ∃ s', hkdfRound L info s n = .returned (.ok s') ∧ Expanded L prk info length (n + 1) s' := by
  have hblock : ((((s.mac.reset.write s.t).write info).write [UInt8.ofNat (n + 1)]).sum L)
      = block L.hmacSHA256 prk info (n + 1) := by
    rw [Mac.sum, block, ← h.t, ← h.key]
    rfl
  have hfilled : (blocks L.hmacSHA256 prk info n).length = n * 32 := length_blocks hlen n
  have hcopy := copyAt_filled hfilled hn (block L.hmacSHA256 prk info (n + 1))
  rw [← hblock, ← List.take_of_length_le (hfilled.trans_le hn), ← h.okm] at hcopy
  refine ⟨_, Outcome.bind_eq_ok.mpr ⟨_, hcopy, rfl⟩, ⟨?_, hblock, h.key⟩⟩
  rw [hblock, List.take_of_length_le (hfilled.trans_le hn), blocks_succ, Nat.succ_mul,
    show (block L.hmacSHA256 prk info (n + 1)).length = 32 from hlen _ _]

theorem foldlM_expanded (hlen : ∀ key data, (L.hmacSHA256 key data).length = 32)
    (prk info : Bytes) (hn : n ≤ (length + 32 - 1) / 32) :
    ∃ s, (List.range n).foldlM (hkdfRound L info) ⟨List.replicate length 0, [], { key := prk }⟩
      = .returned (.ok s) ∧ Expanded L prk info length n s := by
  induction n with
  | zero => exact ⟨_, rfl, expanded_zero L prk info length⟩
  | succ n ih =>
    obtain ⟨s, hs, hexpanded⟩ := ih (Nat.le_of_succ_le hn)
    obtain ⟨s', hs', hexpanded'⟩ := hexpanded.round hlen (by omega)
    refine ⟨s', ?_, hexpanded'⟩
    rw [List.range_succ, List.foldlM_append, hs]
    exact Outcome.bind_eq_ok.mpr ⟨s, rfl, Outcome.bind_eq_ok.mpr ⟨s', hs', rfl⟩⟩

/-- For every secret, salt and context, and every length up to 255 blocks: `hkdfSHA256` does not
panic, and returns the beginning of the expansion of the extracted key. A shorter output is the
beginning of a longer one. -/
theorem hkdfSHA256_eq_okm (hlen : ∀ key data, (L.hmacSHA256 key data).length = 32)
    (secret : Bytes) (salt : Option Bytes) (info : Bytes) (hlength : length ≤ 255 * 32) :
    hkdfSHA256 L secret salt info length
        = .returned (.ok (okm L.hmacSHA256 32 salt secret info length))
      ∧ ∀ shorter ≤ length, ∃ short long,
        hkdfSHA256 L secret salt info shorter = .returned (.ok short)
          ∧ hkdfSHA256 L secret salt info length = .returned (.ok long) ∧ short <+: long := by
  have hreturns : ∀ {length}, length ≤ 255 * 32 → hkdfSHA256 L secret salt info length
      = .returned (.ok (okm L.hmacSHA256 32 salt secret info length)) := by
    intro length hlength
    obtain ⟨s, hs, hexpanded⟩ := foldlM_expanded hlen (extract L.hmacSHA256 32 salt secret) info
      (le_refl ((length + 32 - 1) / 32))
    have henough : length ≤ (length + 32 - 1) / 32 * 32 := by omega
    have hokm : s.okm = okm L.hmacSHA256 32 salt secret info length := by
      rw [hexpanded.okm, Nat.sub_eq_zero_of_le henough, List.replicate_zero, List.append_nil]
      exact (take_blocks hlen henough (by omega)).symm
    have hall : s.okm.length = length := by
      rw [hokm, okm, List.length_take, length_blocks hlen, min_eq_left hlength]
    refine Outcome.bind_eq_ok.mpr ⟨s, hs, Outcome.guarded_eq_ok.mpr ⟨decide_eq_true hall.ge, ?_⟩⟩
    rw [List.take_of_length_le hall.le, hokm]
  refine ⟨hreturns hlength, fun shorter hshorter => ?_⟩
  exact ⟨_, _, hreturns (hshorter.trans hlength), hreturns hlength,
    okm_prefix salt secret info hshorter⟩

/-- A hash of 32 bytes that counts what it gets. -/
def countingLibrary : Library :=
  { plainLibrary with
    hmacSHA256 := fun key data =>
      List.replicate 31 (UInt8.ofNat key.length) ++ [UInt8.ofNat data.length] }

/-- The last of three blocks is cut. -/
theorem hkdfSHA256_eq_okm_cut :
    (∀ key data, (countingLibrary.hmacSHA256 key data).length = 32) ∧ 70 ≤ 255 * 32 ∧
      hkdfSHA256 countingLibrary [1] none [2] 70
        = .returned (.ok (okm countingLibrary.hmacSHA256 32 none [1] [2] 70)) ∧
      okm countingLibrary.hmacSHA256 32 none [1] [2] 70
        = List.replicate 31 32 ++ [2] ++ List.replicate 31 32 ++ [34] ++ List.replicate 6 32 := by
  have hlen : ∀ key data, (countingLibrary.hmacSHA256 key data).length = 32 := by
    intro key data
    simp [countingLibrary]
  exact ⟨hlen, by decide, (hkdfSHA256_eq_okm hlen [1] none [2] (by decide)).1, by decide⟩

end OfflinePay.Crypto
