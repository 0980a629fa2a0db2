import Mathlib.Data.List.Infix
import Mathlib.Order.Lattice.Nat
import Mathlib.Tactic.Ring

/-!
# Extract and expand

HKDF over a keyed hash with outputs of `hashLen` octets. `extract` makes a key of the input. `block`
is the sequence of hashes that the key is expanded to: each is the hash of the one before it, a
context and its own number, which has to fit an octet, so there are 255 of them. The output is as
much of the beginning of this sequence as is asked for; `take_blocks` says how many blocks are
enough for it.
-/

namespace OfflinePay.Hkdf

variable (hmac : (key data : List UInt8) → List UInt8) (hashLen : ℕ)

/-- The pseudorandom key. Without a salt the hash is keyed with zeros. -/
def extract (salt : Option (List UInt8)) (ikm : List UInt8) : List UInt8 :=
  hmac (salt.getD (List.replicate hashLen 0)) ikm

/-- `T(i)`. -/
def block (prk info : List UInt8) : ℕ → List UInt8
  | 0 => []
  | i + 1 => hmac prk (block prk info i ++ info ++ [UInt8.ofNat (i + 1)])

/-- `T(1) | T(2) | … | T(n)`. -/
def blocks (prk info : List UInt8) (n : ℕ) : List UInt8 :=
  (List.range n).flatMap fun i => block hmac prk info (i + 1)

/-- The first `length` octets of `T(1) | T(2) | …`. -/
def okm (salt : Option (List UInt8)) (ikm info : List UInt8) (length : ℕ) : List UInt8 :=
  (blocks hmac (extract hmac hashLen salt ikm) info 255).take length

variable {hmac hashLen} {prk info : List UInt8}

theorem blocks_succ (n : ℕ) :
    blocks hmac prk info (n + 1) = blocks hmac prk info n ++ block hmac prk info (n + 1) := by
  simp [blocks, List.range_succ]

theorem blocks_prefix {m n : ℕ} (h : m ≤ n) :
    blocks hmac prk info m <+: blocks hmac prk info n := by
  induction n, h using Nat.le_induction with
  | base => exact List.prefix_rfl
  | succ n _ ih =>
    rw [blocks_succ]
    exact ih.trans (List.prefix_append _ _)

theorem length_blocks (hlen : ∀ key data, (hmac key data).length = hashLen) (n : ℕ) :
    (blocks hmac prk info n).length = n * hashLen := by
  induction n with
  | zero => simp [blocks]
  | succ n ih => rw [blocks_succ, List.length_append, ih, block, hlen, Nat.succ_mul]

/-- Any number of blocks that is large enough gives the same output. -/
theorem take_blocks (hlen : ∀ key data, (hmac key data).length = hashLen) {length m n : ℕ}
    (hm : length ≤ m * hashLen) (hmn : m ≤ n) :
    (blocks hmac prk info n).take length = (blocks hmac prk info m).take length := by
  obtain ⟨rest, hrest⟩ : blocks hmac prk info m <+: blocks hmac prk info n := blocks_prefix hmn
  rw [← hrest, List.take_append_of_le_length]
  rwa [length_blocks hlen]

theorem okm_prefix (salt : Option (List UInt8)) (ikm info : List UInt8) {short long : ℕ}
    (h : short ≤ long) :
    okm hmac hashLen salt ikm info short <+: okm hmac hashLen salt ikm info long :=
  List.take_prefix_take_left h

end OfflinePay.Hkdf
