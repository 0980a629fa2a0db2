import OfflinePay.Common.Outcome
import OfflinePay.Domain.Models
import Mathlib.Data.Nat.Digits.Defs

/-!
# Keys, signatures and ECIES

Reference: `internal/crypto/crypto.go`.

Go's own packages are a `Library`: total functions, of which nothing is known but what
`Library.Lawful` says. Three of the calls panic instead of returning an error, and do so here:
`ScalarMult` for a point that is not on the curve, and `Seal` and `Open` of AES-GCM for a nonce that
has not 12 bytes. So does a slice that is out of range. What `rand.Reader` gives is an argument.
-/

namespace OfflinePay.Crypto

abbrev Bytes := List UInt8

/-- `[]byte(s)`. -/
def bytes (s : String) : Bytes := s.toUTF8.data.toList

/-- `big.Int.Bytes`: big-endian, without leading zeros. -/
def bigBytes (n : ℕ) : Bytes := (Nat.digits 256 n).reverse.map UInt8.ofNat

/-- The named curves of `crypto/elliptic`. -/
inductive Curve where
  | p224 | p256 | p384 | p521
deriving DecidableEq, Repr

/-- `ecdsa.PublicKey`. -/
structure PublicKey where
  curve : Curve
  x : ℕ
  y : ℕ
deriving DecidableEq, Repr

/-- `ecdsa.PrivateKey`. -/
structure PrivateKey where
  pub : PublicKey
  d : ℕ
deriving DecidableEq, Repr

/-- What `x509.ParsePKIXPublicKey` returns. -/
inductive ParsedKey where
  | ecdsa (pub : PublicKey)
  | other
deriving DecidableEq, Repr

/-- `pem.Block`. -/
structure Block where
  type : String
  bytes : Bytes

/-- The functions of Go's packages. -/
structure Library where
  /-- The order of the base point. -/
  order : Curve → ℕ
  scalarBaseMult : Curve → ℕ → ℕ × ℕ
  isOnCurve : Curve → (x y : ℕ) → Bool
  /-- The first coordinate of a multiple of a point on the curve. -/
  scalarMultX : Curve → (x y : ℕ) → Bytes → ℕ
  sha256 : Bytes → Bytes
  hmacSHA256 : (key data : Bytes) → Bytes
  gcmSeal : (key iv plaintext : Bytes) → Bytes
  gcmOpen : (key iv sealed : Bytes) → Except GoError Bytes
  ecdsaSign : PrivateKey → (hash random : Bytes) → Except GoError (ℤ × ℤ)
  ecdsaVerify : PublicKey → (hash : Bytes) → (r s : ℤ) → Bool
  asn1Marshal : ℤ × ℤ → Except GoError Bytes
  asn1Unmarshal : Bytes → Except GoError (ℤ × ℤ)
  base64Encode : Bytes → String
  base64Decode : String → Except GoError Bytes
  pemEncode : Block → String
  pemDecode : String → Option Block
  marshalPKIXPublicKey : PublicKey → Except GoError Bytes
  parsePKIXPublicKey : Bytes → Except GoError ParsedKey

namespace Library

variable (L : Library)

/-- `Curve.ScalarMult`, of which only the first coordinate is used. -/
def scalarMult (curve : Curve) (x y : ℕ) (k : Bytes) : Outcome GoError ℕ :=
  .guarded (L.isOnCurve curve x y) "crypto/elliptic: ScalarMult was called on an invalid point"
    (.ok (L.scalarMultX curve x y k))

/-- `cipher.AEAD.Seal` of AES-GCM. -/
def aesGCMSeal (key iv plaintext : Bytes) : Outcome GoError Bytes :=
  .guarded (iv.length = 12) "crypto/cipher: incorrect nonce length given to GCM"
    (.ok (L.gcmSeal key iv plaintext))

/-- `cipher.AEAD.Open` of AES-GCM. -/
def aesGCMOpen (key iv sealed : Bytes) : Outcome GoError Bytes :=
  .guarded (iv.length = 12) "crypto/cipher: incorrect nonce length given to GCM"
    (L.gcmOpen key iv sealed)

/-- A random scalar of P-256. -/
abbrev Scalar := {d : ℕ // 0 < d ∧ d < L.order .p256}

/-- The public key belongs to the private one. -/
def KeyPair (priv : PrivateKey) : Prop :=
  (0 < priv.d ∧ priv.d < L.order priv.pub.curve)
    ∧ L.scalarBaseMult priv.pub.curve priv.d = (priv.pub.x, priv.pub.y)

/-- `aes.NewCipher`: the cipher is kept as its key. -/
def newCipher (key : Bytes) : Except GoError Bytes :=
  if key.length = 16 ∨ key.length = 24 ∨ key.length = 32 then .ok key
  else .error ⟨"crypto/aes: invalid key size " ++ toString key.length, false⟩

/-- `cipher.NewGCM`, which fails for ciphers of another block size than AES only. -/
def newGCM (block : Bytes) : Except GoError Bytes := .ok block

end Library

variable (L : Library)

/-! ## Keys -/

/-- Generate P-256 private key. -/
def generateKeyPair (random : Except GoError L.Scalar) : Except GoError PrivateKey :=
  random.map fun d =>
    let (x, y) := L.scalarBaseMult .p256 d
    ⟨⟨.p256, x, y⟩, d⟩

/-- Export public key to PEM string. -/
def exportPublicKeyToPEM (pub : PublicKey) : Except GoError String := do
  let der ← L.marshalPKIXPublicKey pub
  return L.pemEncode ⟨"PUBLIC KEY", der⟩

/-- Parse PEM string to public key. -/
def parsePEMToPublicKey (pem : String) : Except GoError PublicKey :=
  match L.pemDecode pem with
  | none => .error ⟨"failed to parse PEM block containing public key", false⟩
  | some block =>
    match L.parsePKIXPublicKey block.bytes with
    | .error e => .error e
    | .ok (.ecdsa pub) => .ok pub
    | .ok .other => .error ⟨"not an ECDSA public key", false⟩

/-! ## Signatures -/

/-- Sign data using ECDSA and return base64 signature. -/
def sign (priv : PrivateKey) (data random : Bytes) : Except GoError String := do
  let (r, s) ← L.ecdsaSign priv (L.sha256 data) random
  let sigBytes ← L.asn1Marshal (r, s)
  return L.base64Encode sigBytes

/-- Verify signature of data using ECDSA public key. -/
def verify (pub : PublicKey) (data : Bytes) (sigBase64 : String) : Bool :=
  match L.base64Decode sigBase64 with
  | .error _ => false
  | .ok sigBytes =>
    match L.asn1Unmarshal sigBytes with
    | .error _ => false
    | .ok (r, s) => L.ecdsaVerify pub (L.sha256 data) r s

/-! ## HKDF -/

/-- `hmac.New(sha256.New, key)`, with what was written to it since it was made or reset. -/
structure Mac where
  key : Bytes
  written : Bytes := []

namespace Mac

/-- `Reset`. -/
def reset (mac : Mac) : Mac := { mac with written := [] }

/-- `Write`. -/
def write (mac : Mac) (p : Bytes) : Mac := { mac with written := mac.written ++ p }

/-- `Sum(nil)`. -/
def sum (mac : Mac) : Bytes := L.hmacSHA256 mac.key mac.written

end Mac

/-- `copy(dst[i:], src)`. -/
def copyAt (dst : Bytes) (i : ℕ) (src : Bytes) : Outcome GoError Bytes :=
  .guarded (i ≤ dst.length) "slice bounds out of range"
    (.ok (dst.take i ++ src.take (dst.length - i) ++ dst.drop (i + src.length)))

/-- The variables of the loop of `hkdfSHA256`. -/
structure Expansion where
  okm : Bytes
  t : Bytes
  mac : Mac

/-- One round of the loop. -/
def hkdfRound (info : Bytes) (s : Expansion) (i : ℕ) : Outcome GoError Expansion := do
  let mac := ((s.mac.reset.write s.t).write info).write [UInt8.ofNat (i + 1)]
  let t := mac.sum L
  let okm ← copyAt s.okm (i * 32) t
  return ⟨okm, t, mac⟩

/-- HKDF-SHA256 (extract and expand). The error of the source is never set. -/
def hkdfSHA256 (secret : Bytes) (salt : Option Bytes) (info : Bytes) (length : ℕ) :
    Outcome GoError Bytes := do
  let prk := (Mac.write { key := salt.getD (List.replicate 32 0) } secret).sum L
  let rounds := List.range ((length + 32 - 1) / 32)
  let s ← rounds.foldlM (hkdfRound L info) ⟨List.replicate length 0, [], { key := prk }⟩
  .guarded (length ≤ s.okm.length) "slice bounds out of range" (.ok (s.okm.take length))

variable {L}

theorem copyAt_ok {dst : Bytes} {i : ℕ} (h : i ≤ dst.length) (src : Bytes) :
    ∃ dst', copyAt dst i src = .returned (.ok dst') ∧ dst'.length = dst.length := by
  refine ⟨_, Outcome.guarded_eq_ok.mpr ⟨decide_eq_true h, rfl⟩, ?_⟩
  simp only [List.length_append, List.length_take, List.length_drop]
  omega

theorem foldlM_hkdfRound_ok (L : Library) (info : Bytes) {rounds : List ℕ} {s : Expansion}
    (h : ∀ i ∈ rounds, i * 32 ≤ s.okm.length) :
    ∃ s', rounds.foldlM (hkdfRound L info) s = .returned (.ok s')
      ∧ s'.okm.length = s.okm.length := by
  induction rounds generalizing s with
  | nil => exact ⟨s, rfl, rfl⟩
  | cons i rounds ih =>
    rw [List.forall_mem_cons] at h
    obtain ⟨okm, hokm, hlength⟩ := copyAt_ok h.1
      ((((s.mac.reset.write s.t).write info).write [UInt8.ofNat (i + 1)]).sum L)
    obtain ⟨s', hs', hlength'⟩ := ih (s := ⟨okm, _, _⟩) (hlength.symm ▸ h.2)
    exact ⟨s', Outcome.bind_eq_ok.mpr ⟨_, Outcome.bind_eq_ok.mpr ⟨okm, hokm, rfl⟩, hs'⟩,
      hlength'.trans hlength⟩

/-- Every round copies to a place within the output. -/
theorem mul_le_of_mem_rounds {length i : ℕ} (h : i ∈ List.range ((length + 32 - 1) / 32)) :
    i * 32 ≤ length := by
  rw [List.mem_range] at h
  omega

variable (L)

/-- The expansion gives as many bytes as are asked for. -/
theorem hkdfSHA256_ok (secret : Bytes) (salt : Option Bytes) (info : Bytes) (length : ℕ) :
    ∃ okm, hkdfSHA256 L secret salt info length = .returned (.ok okm) ∧ okm.length = length := by
  let prk := (Mac.write { key := salt.getD (List.replicate 32 0) } secret).sum L
  have hfit : ∀ i ∈ List.range ((length + 32 - 1) / 32),
      i * 32 ≤ (Expansion.mk (List.replicate length 0) [] { key := prk }).okm.length :=
    fun i hi => (mul_le_of_mem_rounds hi).trans_eq List.length_replicate.symm
  obtain ⟨s, hs, hlength⟩ := foldlM_hkdfRound_ok L info hfit
  rw [List.length_replicate] at hlength
  refine ⟨s.okm.take length, Outcome.bind_eq_ok.mpr ⟨s, hs, ?_⟩, ?_⟩
  · exact Outcome.guarded_eq_ok.mpr ⟨decide_eq_true hlength.ge, rfl⟩
  · rw [List.length_take, hlength, min_self]

/-! ## ECIES -/

/-- The results of `EncryptECIES`. -/
structure Encrypted where
  ephemeralPubPEM : String
  ciphertextB64 : String
  ivB64 : String
  authTagB64 : String

/-- The AES key for a shared point. -/
def deriveKey (x : ℕ) : Outcome GoError Bytes :=
  hkdfSHA256 L (bigBytes x) (some (bytes "offlinepay-ecies-salt")) (bytes "offlinepay-aes-key") 32

/-- The key has the length that AES-256 takes. -/
theorem deriveKey_ok (x : ℕ) :
    ∃ key, deriveKey L x = .returned (.ok key) ∧ Library.newCipher key = .ok key := by
  obtain ⟨key, hkey, hlength⟩ := hkdfSHA256_ok L (bigBytes x) (some (bytes "offlinepay-ecies-salt"))
    (bytes "offlinepay-aes-key") 32
  exact ⟨key, hkey, if_pos (.inr (.inr hlength))⟩

theorem not_panics_deriveKey (x : ℕ) : ¬(deriveKey L x).Panics := by
  obtain ⟨key, hkey, -⟩ := deriveKey_ok L x
  rw [hkey]
  exact Outcome.not_panics_returned _

/-- Encrypt payload using ECIES (ECDH P-256 + HKDF + AES-256-GCM). -/
def encryptECIES (bankPub : PublicKey) (payload : Bytes) (key : Except GoError L.Scalar)
    (random : Except GoError (Vector UInt8 12)) : Outcome GoError Encrypted := do
  let ephemeralPriv ← .returned (generateKeyPair L key)
  let ephemeralPubPEM ← .returned (exportPublicKeyToPEM L ephemeralPriv.pub)
  let x ← L.scalarMult bankPub.curve bankPub.x bankPub.y (bigBytes ephemeralPriv.d)
  let aesKey ← deriveKey L x
  let block ← .returned (Library.newCipher aesKey)
  let aesGCM ← .returned (Library.newGCM block)
  let iv ← .returned random
  let sealed ← L.aesGCMSeal aesGCM iv.toList payload
  -- the tag is the end of what `Seal` returns
  let cut ← .guarded (16 ≤ sealed.length) "slice bounds out of range" (.ok (sealed.length - 16))
  return ⟨ephemeralPubPEM, L.base64Encode (sealed.take cut), L.base64Encode iv.toList,
    L.base64Encode (sealed.drop cut)⟩

/-- Decrypt payload using ECIES (ECDH P-256 + HKDF + AES-256-GCM). -/
def decryptECIES (bankPriv : PrivateKey) (ephemeralPubPEM ciphertextB64 ivB64 authTagB64 : String) :
    Outcome GoError Bytes := do
  let ephemeralPub ← (Outcome.returned (parsePEMToPublicKey L ephemeralPubPEM)).mapError
    (.wrap "invalid ephemeral public key: ")
  let x ← L.scalarMult bankPriv.pub.curve ephemeralPub.x ephemeralPub.y (bigBytes bankPriv.d)
  let aesKey ← deriveKey L x
  let ciphertext ← (Outcome.returned (L.base64Decode ciphertextB64)).mapError
    (.wrap "invalid ciphertext encoding: ")
  let iv ← (Outcome.returned (L.base64Decode ivB64)).mapError (.wrap "invalid iv encoding: ")
  let authTag ← (Outcome.returned (L.base64Decode authTagB64)).mapError
    (.wrap "invalid auth tag encoding: ")
  let block ← .returned (Library.newCipher aesKey)
  let aesGCM ← .returned (Library.newGCM block)
  (L.aesGCMOpen aesGCM iv (ciphertext ++ authTag)).mapError (.wrap "decryption failed: ")

end OfflinePay.Crypto
