import Mathlib
import OfflinePay.Intent.Service
import OfflinePay.Settlement.Vetting
import OfflinePay.System.World

/-!
# Sealing and opening envelopes

Reference: `internal/crypto/crypto.go`, `internal/intent/service.go`, and the first steps of
`Settle` in `internal/settlement/service.go`.

`DecryptECIES` gets four strings from the network and hands them on to calls that panic on bad
arguments. `decryptECIES_returns_iff` says for which strings it returns. For an envelope that the
intent service made, it returns what was sealed, and settlement reads the payload that the device
signed (`create_opens`).
-/

namespace OfflinePay

open Crypto Intent

/-! ## A library to compute with -/

namespace Crypto

/-- A byte as a character. -/
def spell (b : Bytes) : String := String.ofList (b.map fun c => Char.ofNat c.toNat)

def unspell (s : String) : Bytes := s.toList.map fun c => UInt8.ofNat c.toNat

/-- No cryptography at all: every public key is the point `(0, 0)`, sealing appends an empty tag,
and every signature is accepted. -/
def plainLibrary : Library where
  order _ := 2
  scalarBaseMult _ _ := (0, 0)
  isOnCurve _ _ _ := true
  scalarMultX _ _ _ _ := 0
  sha256 _ := []
  hmacSHA256 _ _ := []
  gcmSeal _ _ plaintext := plaintext ++ List.replicate 16 0
  gcmOpen _ _ sealed := .ok (sealed.take (sealed.length - 16))
  ecdsaSign _ _ _ := .ok (0, 0)
  ecdsaVerify _ _ _ _ := true
  asn1Marshal sig := .ok (List.replicate (Encodable.encode sig) 0)
  asn1Unmarshal der := .ok ((Encodable.decode der.length).getD (0, 0))
  base64Encode := spell
  base64Decode s := .ok (unspell s)
  pemEncode block := spell block.bytes
  pemDecode s := some ⟨"PUBLIC KEY", unspell s⟩
  marshalPKIXPublicKey pub := .ok (List.replicate pub.curve.ctorIdx 0)
  parsePKIXPublicKey
    | [] => .ok (.ecdsa ⟨.p224, 0, 0⟩)
    | [_] => .ok (.ecdsa ⟨.p256, 0, 0⟩)
    | [_, _] => .ok (.ecdsa ⟨.p384, 0, 0⟩)
    | _ => .ok (.ecdsa ⟨.p521, 0, 0⟩)

end Crypto

/-! ## Panics -/

namespace Crypto

section

variable (L : Library) (bankPriv : PrivateKey)
    (ephemeralPubPEM ciphertextB64 ivB64 authTagB64 : String)

/-- The two arguments that are not checked: the point of a key that parses, and the length of the
nonce. -/
theorem decryptECIES_panics_iff :
    (decryptECIES L bankPriv ephemeralPubPEM ciphertextB64 ivB64 authTagB64).Panics
      ↔ ∃ key, parsePEMToPublicKey L ephemeralPubPEM = .ok key
        ∧ (L.isOnCurve bankPriv.pub.curve key.x key.y = false
          ∨ ∃ ciphertext iv authTag, L.base64Decode ciphertextB64 = .ok ciphertext
            ∧ L.base64Decode ivB64 = .ok iv ∧ L.base64Decode authTagB64 = .ok authTag
            ∧ iv.length ≠ 12) := by
  simp only [decryptECIES, Outcome.bind_panics_iff, Outcome.mapError_panics_iff,
    Outcome.mapError_eq_ok, Outcome.not_panics_returned, Outcome.returned.injEq, Library.scalarMult,
    Library.aesGCMOpen, Library.newGCM, Outcome.guarded_panics_iff, Outcome.guarded_eq_ok,
    not_panics_deriveKey, false_or, decide_eq_false_iff_not]
  constructor
  · rintro ⟨key, hkey, hoff | ⟨-, -, -, -, ciphertext, hc, iv, hiv, authTag, htag, -, -, -, -, hlength⟩⟩
    · exact ⟨key, hkey, .inl hoff⟩
    · exact ⟨key, hkey, .inr ⟨ciphertext, iv, authTag, hc, hiv, htag, hlength⟩⟩
  · rintro ⟨key, hkey, hoff | ⟨ciphertext, iv, authTag, hc, hiv, htag, hlength⟩⟩
    · exact ⟨key, hkey, .inl hoff⟩
    · refine ⟨key, hkey, ?_⟩
      -- the nonce is looked at only if the point is on the curve
      cases hon : L.isOnCurve bankPriv.pub.curve key.x key.y with
      | false => exact .inl rfl
      | true =>
        obtain ⟨aesKey, hderive, hcipher⟩ :=
          deriveKey_ok L (L.scalarMultX bankPriv.pub.curve key.x key.y (bigBytes bankPriv.d))
        exact .inr ⟨_, ⟨rfl, rfl⟩, aesKey, hderive, ciphertext, hc, iv, hiv, authTag, htag, aesKey,
          hcipher, aesKey, rfl, hlength⟩

/-- `DecryptECIES` returns a plaintext or an error exactly if the point of an ephemeral key that
parses is on the bank's curve, and a nonce that is decoded together with the rest has 12 bytes. -/
theorem decryptECIES_returns_iff :
    (∃ result, decryptECIES L bankPriv ephemeralPubPEM ciphertextB64 ivB64 authTagB64
        = .returned result)
      ↔ ∀ key, parsePEMToPublicKey L ephemeralPubPEM = .ok key →
        L.isOnCurve bankPriv.pub.curve key.x key.y = true
          ∧ ∀ ciphertext iv authTag, L.base64Decode ciphertextB64 = .ok ciphertext →
            L.base64Decode ivB64 = .ok iv → L.base64Decode authTagB64 = .ok authTag →
            iv.length = 12 := by
  rw [Outcome.returns_iff, decryptECIES_panics_iff]
  push Not
  simp only [ne_eq, Bool.not_eq_false]

end

/-! ### Two envelopes -/

/-- The equation of P-256. -/
def onP256 (x y : ℕ) : Bool :=
  let p := 0xffffffff00000001000000000000000000000000ffffffffffffffffffffffff
  let b := 0x5ac635d8aa3a93e7b3ebbd55769886bc651d06b0cc53b0f63bce3c3e27d2604b
  x < p && y < p && (y ^ 2 + 3 * x) % p == (x ^ 3 + b) % p

/-- The key of the sample requests in `offlinepay.postman_collection.json`, there of a device, of
the bank and of an envelope. -/
def samplePrivateKey : PrivateKey where
  pub := ⟨.p256, 0xf59c4fb86a1e931ea692af1b83db28f027d04fa69c045ea2cb2d86b578bffd7d,
    0x14122778a5682cd0fbec8b42941e02a711c29b775ac8d4b83cfd438a6433eb22⟩
  d := 0x43bdc5ff64605bc88eea46c904178b7fd11fb6df56d8dcddbff48c6f63ae7a49

def sampleKey : PublicKey := samplePrivateKey.pub

def sampleKeyPEM : String :=
  "-----BEGIN PUBLIC KEY-----\n"
    ++ "MFkwEwYHKoZIzj0CAQYIKoZIzj0DAQcDQgAE9ZxPuGoekx6mkq8bg9so8CfQT6ac\n"
    ++ "BF6iyy2GtXi//X0UEid4pWgs0Pvsi0KUHgKnEcKbd1rI1Lg8/UOKZDPrIg==\n"
    ++ "-----END PUBLIC KEY-----\n"

/-- The base point of P-384. -/
def otherCurveKey : PublicKey :=
  ⟨.p384,
    0xaa87ca22be8b05378eb1c71ef320ad746e1d3b628ba79b98 * 2 ^ 192
      + 0x59f741e082542a385502f25dbf55296c3a545e3872760ab7,
    0x3617de4a96262c6f5d9e98bf9292dc29f8f41dbd289a147c * 2 ^ 192
      + 0xe9da3113b5f0b8c00a60b1ce1d7e819d7a431d7c90ea0e5f⟩

def otherCurveKeyPEM : String :=
  "-----BEGIN PUBLIC KEY-----\n"
    ++ "MHYwEAYHKoZIzj0CAQYFK4EEACIDYgAEqofKIr6LBTeOscce8yCtdG4dO2KLp5uY\n"
    ++ "WfdB4IJUKjhVAvJdv1UpbDpUXjhydgq3NhfeSpYmLG9dnpi/kpLcKfj0Hb0omhR8\n"
    ++ "6doxE7XwuMAKYLHOHX6BnXpDHXyQ6g5f\n"
    ++ "-----END PUBLIC KEY-----\n"

/-- The encoding of a key in a PEM block: what comes before the point says which curve it is on. -/
def pointDER (key : PublicKey) : Bytes :=
  let algorithm : Bytes := match key.curve with
    | .p256 => [48, 89, 48, 19, 6, 7, 42, 134, 72, 206, 61, 2, 1, 6, 8, 42, 134, 72, 206, 61, 3, 1, 7, 3,
        66]
    | _ => [48, 118, 48, 16, 6, 7, 42, 134, 72, 206, 61, 2, 1, 6, 5, 43, 129, 4, 0, 34, 3, 98]
  algorithm ++ [0, 4] ++ bigBytes key.x ++ bigBytes key.y

/-- What Go's packages answer for these two keys. -/
def sampleLibrary : Library :=
  { plainLibrary with
    isOnCurve := fun curve x y => curve = .p256 && onP256 x y
    pemDecode := fun pem =>
      if pem = sampleKeyPEM then some ⟨"PUBLIC KEY", pointDER sampleKey⟩
      else if pem = otherCurveKeyPEM then some ⟨"PUBLIC KEY", pointDER otherCurveKey⟩
      else none
    parsePKIXPublicKey := fun der =>
      if der = pointDER sampleKey then .ok (.ecdsa sampleKey)
      else if der = pointDER otherCurveKey then .ok (.ecdsa otherCurveKey)
      else .error ⟨"x509: failed to parse public key", false⟩ }

/-- The sample request to the relay has an empty nonce, and an ephemeral key may come from another
curve. -/
theorem sample_envelopes_panic :
    (decryptECIES sampleLibrary samplePrivateKey sampleKeyPEM "" "" "").Panics
      ∧ (decryptECIES sampleLibrary samplePrivateKey otherCurveKeyPEM "" "" "").Panics := by
  constructor
  · exact (decryptECIES_panics_iff _ _ _ _ _ _).mpr
      ⟨sampleKey, by decide +kernel, .inr ⟨[], [], [], rfl, rfl, rfl, by decide⟩⟩
  · exact (decryptECIES_panics_iff _ _ _ _ _ _).mpr
      ⟨otherCurveKey, by decide +kernel, .inl (by decide +kernel)⟩

end Crypto

/-! ## What is assumed of the packages -/

/-- The cryptography does what it is for, and every decoder undoes its encoder. -/
structure Crypto.Library.Lawful (L : Library) : Prop where
  on_curve {priv : PrivateKey} : L.KeyPair priv →
    L.isOnCurve priv.pub.curve priv.pub.x priv.pub.y = true
  /-- Both sides of a Diffie–Hellman exchange find the same point. -/
  ecdh {a b : PrivateKey} : L.KeyPair a → L.KeyPair b → a.pub.curve = b.pub.curve →
    L.scalarMultX a.pub.curve a.pub.x a.pub.y (bigBytes b.d)
      = L.scalarMultX a.pub.curve b.pub.x b.pub.y (bigBytes a.d)
  length_seal (key iv plaintext : Bytes) :
    (L.gcmSeal key iv plaintext).length = plaintext.length + 16
  open_seal (key plaintext : Bytes) {iv : Bytes} : iv.length = 12 →
    L.gcmOpen key iv (L.gcmSeal key iv plaintext) = .ok plaintext
  base64 (b : Bytes) : L.base64Decode (L.base64Encode b) = .ok b
  pem (der : Bytes) : L.pemDecode (L.pemEncode ⟨"PUBLIC KEY", der⟩) = some ⟨"PUBLIC KEY", der⟩
  pkix {priv : PrivateKey} : L.KeyPair priv →
    ∃ der, L.marshalPKIXPublicKey priv.pub = .ok der
      ∧ L.parsePKIXPublicKey der = .ok (.ecdsa priv.pub)
  ecdsa {priv : PrivateKey} {hash random : Bytes} {r s : ℤ} : L.KeyPair priv →
    L.ecdsaSign priv hash random = .ok (r, s) → L.ecdsaVerify priv.pub hash r s = true
  asn1 (sig : ℤ × ℤ) : ∃ der, L.asn1Marshal sig = .ok der ∧ L.asn1Unmarshal der = .ok sig

/-- A value of strings, 64-bit integers and objects. -/
inductive Json.Plain : Json → Prop where
  | str (s : String) : Plain (.str s)
  | int64 (n : Int64) : Plain (.int64 n)
  | obj {fields : List (String × Json)} (h : ∀ field ∈ fields, Plain field.2) : Plain (.obj fields)

/-- JSON keeps plain values, and RFC 3339 the times it can write. -/
structure Intent.Codec.Lawful (J : Codec) : Prop where
  json {j : Json} : j.Plain → J.decodeJSON (J.encodeJSON j) = .ok j
  time {t : Time} : J.InYears t →
    ∃ text, J.marshalTime t = .ok text ∧ J.unmarshalTime text = .ok t

/-! ## Opening undoes sealing -/

namespace Crypto

variable {L : Library}

theorem generateKeyPair_ok {random : Except GoError L.Scalar} {priv : PrivateKey}
    (h : generateKeyPair L random = .ok priv) : L.KeyPair priv ∧ priv.pub.curve = .p256 := by
  cases random with
  | error e => cases h
  | ok d =>
    cases h
    exact ⟨⟨d.2, rfl⟩, rfl⟩

theorem sign_eq_ok {priv : PrivateKey} {data random : Bytes} {signature : String} :
    sign L priv data random = .ok signature
      ↔ ∃ sig der, L.ecdsaSign priv (L.sha256 data) random = .ok sig ∧ L.asn1Marshal sig = .ok der
        ∧ L.base64Encode der = signature := by
  cases hsig : L.ecdsaSign priv (L.sha256 data) random with
  | error e => simp [sign, hsig, bind, Except.bind]
  | ok sig =>
    cases hder : L.asn1Marshal sig <;> simp [sign, hsig, hder, bind, Except.bind, pure, Except.pure]

namespace Library.Lawful

variable (hL : L.Lawful)

include hL

/-- An exported key is parsed to the key. -/
theorem parse_export {priv : PrivateKey} (h : L.KeyPair priv) :
    ∃ pem, exportPublicKeyToPEM L priv.pub = .ok pem ∧ parsePEMToPublicKey L pem = .ok priv.pub := by
  obtain ⟨der, hmarshal, hparse⟩ := hL.pkix h
  refine ⟨L.pemEncode ⟨"PUBLIC KEY", der⟩, ?_, ?_⟩
  · rw [exportPublicKeyToPEM, hmarshal]
    rfl
  · simp only [parsePEMToPublicKey, hL.pem, hparse]

theorem sign_ok {priv : PrivateKey} {data random : Bytes}
    (h : ∃ sig, L.ecdsaSign priv (L.sha256 data) random = .ok sig) :
    ∃ signature, sign L priv data random = .ok signature := by
  obtain ⟨sig, hsig⟩ := h
  obtain ⟨der, hmarshal, -⟩ := hL.asn1 sig
  exact ⟨_, sign_eq_ok.mpr ⟨sig, der, hsig, hmarshal, rfl⟩⟩

/-- What a device signs is accepted under its public key. -/
theorem verify_sign {priv : PrivateKey} {data random : Bytes} {signature : String}
    (h : L.KeyPair priv) (hsign : sign L priv data random = .ok signature) :
    verify L priv.pub data signature = true := by
  obtain ⟨sig, der, hsig, hmarshal, rfl⟩ := sign_eq_ok.mp hsign
  obtain ⟨der', hmarshal', hunmarshal⟩ := hL.asn1 sig
  cases hmarshal.symm.trans hmarshal'
  simp only [verify, hL.base64, hunmarshal]
  exact hL.ecdsa h hsig

/-- With random numbers at hand, encryption succeeds. -/
theorem encrypt_ok {bankPriv : PrivateKey} (hbank : L.KeyPair bankPriv) (payload : Bytes)
    (d : L.Scalar) (iv : Vector UInt8 12) :
    ∃ e, encryptECIES L bankPriv.pub payload (.ok d) (.ok iv) = .returned (.ok e) := by
  obtain ⟨priv, hpriv⟩ : ∃ priv, generateKeyPair L (.ok d) = .ok priv := ⟨_, rfl⟩
  obtain ⟨pem, hpem, -⟩ := hL.parse_export (generateKeyPair_ok hpriv).1
  obtain ⟨aesKey, hkey, hcipher⟩ := deriveKey_ok L
    (L.scalarMultX bankPriv.pub.curve bankPriv.pub.x bankPriv.pub.y (bigBytes priv.d))
  have hiv : decide (iv.toList.length = 12) = true := by simp
  have hcut : decide (16 ≤ (L.gcmSeal aesKey iv.toList payload).length) = true := by
    simp [hL.length_seal]
  simp only [encryptECIES, Outcome.bind_eq_ok, Outcome.returned.injEq, Library.scalarMult,
    Library.aesGCMSeal, Library.newGCM, Outcome.guarded_eq_ok, Outcome.pure_eq, Except.ok.injEq]
  exact ⟨_, priv, hpriv, pem, hpem, _, ⟨hL.on_curve hbank, rfl⟩, aesKey, hkey, aesKey, hcipher, aesKey,
    rfl, iv, rfl, _, ⟨hiv, rfl⟩, _, ⟨hcut, rfl⟩, rfl⟩

/-- `DecryptECIES` undoes `EncryptECIES`. -/
theorem decrypt_encrypt {bankPriv : PrivateKey} (hbank : L.KeyPair bankPriv)
    (hcurve : bankPriv.pub.curve = .p256) {payload : Bytes} {key : Except GoError L.Scalar}
    {random : Except GoError (Vector UInt8 12)} {e : Encrypted}
    (h : encryptECIES L bankPriv.pub payload key random = .returned (.ok e)) :
    decryptECIES L bankPriv e.ephemeralPubPEM e.ciphertextB64 e.ivB64 e.authTagB64
      = .returned (.ok payload) := by
  simp only [encryptECIES, Outcome.bind_eq_ok, Outcome.returned.injEq, Library.scalarMult,
    Library.aesGCMSeal, Outcome.guarded_eq_ok, Outcome.pure_eq, Except.ok.injEq] at h
  obtain ⟨ephemeral, hephemeral, pem, hpem, x, ⟨-, rfl⟩, aesKey, hkey, block, hblock, gcm, hgcm, iv, -,
    sealed, ⟨hlength, rfl⟩, cut, ⟨-, rfl⟩, rfl⟩ := h
  obtain ⟨hpair, hp256⟩ := generateKeyPair_ok hephemeral
  have hcurves : bankPriv.pub.curve = ephemeral.pub.curve := hcurve.trans hp256.symm
  have hon : L.isOnCurve bankPriv.pub.curve ephemeral.pub.x ephemeral.pub.y = true := by
    rw [hcurves]
    exact hL.on_curve hpair
  have hparse : parsePEMToPublicKey L pem = .ok ephemeral.pub := by
    obtain ⟨pem', hpem', hparse⟩ := hL.parse_export hpair
    cases hpem.symm.trans hpem'
    exact hparse
  rw [hL.ecdh hbank hpair hcurves] at hkey
  simp only [decryptECIES, Outcome.bind_eq_ok, Outcome.mapError_eq_ok, Outcome.returned.injEq,
    Library.scalarMult, Library.aesGCMOpen, Outcome.guarded_eq_ok, Except.ok.injEq]
  refine ⟨ephemeral.pub, hparse, _, ⟨hon, rfl⟩, aesKey, hkey, _, hL.base64 _, _, hL.base64 _, _,
    hL.base64 _, block, hblock, gcm, hgcm, hlength, ?_⟩
  rw [List.take_append_drop]
  exact hL.open_seal gcm payload (of_decide_eq_true hlength)

end Library.Lawful

end Crypto

/-! ### The JSON of an intent -/

theorem Json.Plain.encodeStruct {σ : Type} (fields : Json.Fields σ) {values : List Json}
    (h : ∀ value ∈ values, value.Plain) : (Json.encodeStruct fields values).Plain := by
  refine .obj fun member hmember => ?_
  rw [← List.map_uncurry_zip_eq_zipWith, List.mem_map] at hmember
  obtain ⟨⟨field, value⟩, hzip, rfl⟩ := hmember
  exact h value (List.of_mem_zip hzip).2

namespace Intent

variable {J : Codec}

theorem signedJson_plain (signed : SignedPaymentIntent) (expiry : String) :
    (signedJson J signed expiry).Plain := by
  have hpayload : (Json.encodeStruct (payloadFields J) (payloadValues signed.payload expiry)).Plain := by
    refine Json.Plain.encodeStruct _ fun value hvalue => ?_
    simp only [payloadValues, List.mem_cons, List.not_mem_nil, or_false] at hvalue
    rcases hvalue with rfl | rfl | rfl | rfl | rfl | rfl | rfl | rfl | rfl
    case inr.inr.inr.inl => exact .int64 _
    all_goals exact .str _
  refine Json.Plain.encodeStruct _ fun value hvalue => ?_
  simp only [List.mem_cons, List.not_mem_nil, or_false] at hvalue
  rcases hvalue with rfl | rfl
  · exact hpayload
  · exact .str _

/-- A signed intent is read back from its text. -/
theorem Codec.Lawful.unmarshal_marshal (hJ : J.Lawful) (signed : SignedPaymentIntent)
    (hexpiry : J.InYears signed.payload.expiry) :
    ∃ text, marshalIntent J signed = .ok text ∧ unmarshalIntent J text = .ok signed := by
  obtain ⟨expiry, hmarshal, hunmarshal⟩ := hJ.time hexpiry
  refine ⟨J.encodeJSON (signedJson J signed expiry), ?_, ?_⟩
  · rw [marshalIntent, hmarshal]
    rfl
  · rw [unmarshalIntent, hJ.json (signedJson_plain signed expiry)]
    simp only [bind, Except.bind, decode_signed J signed zeroIntent hunmarshal]

end Intent

/-! ### Packages that are lawful -/

namespace Intent

theorem unspell_spell (b : Bytes) : unspell (spell b) = b := by
  rw [unspell, spell, String.toList_ofList, List.map_map]
  refine (List.map_congr_left fun c _ => ?_).trans (List.map_id b)
  have hlt : c.toNat < 256 := c.toNat_lt
  have hvalid : c.toNat.isValidChar := .inl (by omega)
  simp [Char.toNat_ofNat, hvalid]

theorem plainLibrary_lawful : plainLibrary.Lawful where
  on_curve _ := rfl
  ecdh _ _ _ := rfl
  length_seal key iv plaintext := by simp [plainLibrary]
  open_seal key plaintext iv _ := by simp [plainLibrary]
  base64 b := congrArg Except.ok (unspell_spell b)
  pem der := by simp [plainLibrary, unspell_spell]
  pkix {priv} h := by
    obtain ⟨⟨curve, x, y⟩, d⟩ := priv
    cases h.2
    cases curve <;> exact ⟨_, rfl, rfl⟩
  ecdsa _ _ := rfl
  asn1 sig := by
    refine ⟨_, rfl, congrArg Except.ok ?_⟩
    rw [List.length_replicate, Encodable.encodek, Option.getD_some]

/-- A number for a string. -/
def stringCode (s : String) : ℕ := Encodable.encode (s.toList.map Char.toNat)

theorem stringCode_injective : Function.Injective stringCode := by
  intro s t h
  have hlist := Encodable.encode_injective h
  have hchar : Function.Injective Char.toNat := fun a b hab => Char.toNat_inj.mp hab
  exact String.toList_inj.mp (hchar.list_map hlist)

mutual

/-- A value as a list of numbers: its kind, then what it is made of. -/
def jsonCode : Json → List ℕ
  | .null => [0]
  | .bool b => [1, Encodable.encode b]
  | .num q => [2, Encodable.encode q]
  | .str s => [3, stringCode s]
  | .time t => [4, Encodable.encode t]
  | .obj fields => 5 :: fieldsCode fields

def fieldsCode : List (String × Json) → List ℕ
  | [] => [0]
  | (name, value) :: fields => 1 :: stringCode name :: (jsonCode value ++ fieldsCode fields)

end

mutual

/-- The numbers of a value say where they end. -/
theorem jsonCode_append_inj : ∀ (j j' : Json) {r r' : List ℕ},
    jsonCode j ++ r = jsonCode j' ++ r' → j = j' ∧ r = r'
  | .null, j', r, r', h => by
    cases j' <;> simp [jsonCode] at h
    exact ⟨rfl, h⟩
  | .bool b, j', r, r', h => by
    cases j' <;> simp [jsonCode] at h
    exact ⟨by rw [h.1], h.2⟩
  | .num q, j', r, r', h => by
    cases j' <;> simp [jsonCode] at h
    exact ⟨by rw [h.1], h.2⟩
  | .str s, j', r, r', h => by
    cases j' <;> simp [jsonCode] at h
    exact ⟨by rw [stringCode_injective h.1], h.2⟩
  | .time t, j', r, r', h => by
    cases j' <;> simp [jsonCode] at h
    exact ⟨by rw [h.1], h.2⟩
  | .obj fields, j', r, r', h => by
    cases j' <;> simp [jsonCode] at h
    obtain ⟨rfl, hr⟩ := fieldsCode_append_inj fields _ h
    exact ⟨rfl, hr⟩

theorem fieldsCode_append_inj : ∀ (fields fields' : List (String × Json)) {r r' : List ℕ},
    fieldsCode fields ++ r = fieldsCode fields' ++ r' → fields = fields' ∧ r = r'
  | [], fields', r, r', h => by
    cases fields' <;> simp [fieldsCode] at h
    exact ⟨rfl, h⟩
  | (name, value) :: fields, fields', r, r', h => by
    cases fields' <;> simp [fieldsCode] at h
    obtain ⟨rfl, hrest⟩ := jsonCode_append_inj value _ h.2
    obtain ⟨rfl, hr⟩ := fieldsCode_append_inj fields _ hrest
    exact ⟨by rw [stringCode_injective h.1], hr⟩

end

theorem jsonCode_injective : Function.Injective jsonCode := by
  intro j j' h
  exact (jsonCode_append_inj j j' (congrArg (· ++ []) h)).1

instance : Nonempty Json := ⟨.null⟩

/-- Values and times as numbers, in unary; the clock is set to UTC. -/
noncomputable def plainCodec : Codec where
  encodeJSON j := List.replicate (Encodable.encode (jsonCode j)) 0
  decodeJSON text := .ok (Function.invFun (fun j => Encodable.encode (jsonCode j)) text.length)
  typeError _ := ⟨"json: cannot unmarshal", false⟩
  marshalTime t := .ok (spell (List.replicate (Encodable.encode t) 0))
  unmarshalTime text := .ok ((Encodable.decode (unspell text).length).getD 0)
  localOffset _ := 0

theorem plainCodec_lawful : plainCodec.Lawful where
  json {j} _ := by
    have hinj : Function.Injective fun j => Encodable.encode (jsonCode j) :=
      Encodable.encode_injective.comp jsonCode_injective
    simp only [plainCodec, List.length_replicate]
    exact congrArg Except.ok (Function.leftInverse_invFun hinj j)
  time {t} _ := by
    refine ⟨_, rfl, congrArg Except.ok ?_⟩
    rw [unspell_spell, List.length_replicate, Encodable.encodek, Option.getD_some]

def plainKey : PrivateKey := ⟨⟨.p256, 0, 0⟩, 1⟩

theorem plainKey_pair : plainLibrary.KeyPair plainKey := ⟨by decide, rfl⟩

def plainRandomness : Randomness plainLibrary where
  txnID := .ok "txn-1"
  nonce := .ok "nonce-1"
  signature := []
  ephemeralKey := .ok ⟨1, by decide⟩
  iv := .ok (Vector.replicate 12 0)

end Intent

/-! ### From the device to settlement -/

/-- Settlement with these packages. The risk engine and the credit limit are taken over. A panic has
no place in `Externals` and is an error there. -/
def Crypto.Library.externals (L : Library) (J : Codec) (bankPriv : PrivateKey) (random : Bytes)
    (E : Externals) : Externals where
  Plaintext := Bytes
  PublicKey := PublicKey
  RiskState := E.RiskState
  decryptECIES ephemeralPublicKey ciphertext iv authTag :=
    match Crypto.decryptECIES L bankPriv ephemeralPublicKey ciphertext iv authTag with
    | .returned result => result
    | .panicked message => .error ⟨message, false⟩
  unmarshalIntent := Intent.unmarshalIntent J
  parsePEMToPublicKey := Crypto.parsePEMToPublicKey L
  verify pub data signature := Crypto.verify L pub (bytes data) signature
  bankPublicKey := bankPriv.pub
  signBank data := sign L bankPriv (bytes data) random
  assess := E.assess
  creditLimit := E.creditLimit

namespace Intent

/-- Every read from `rand.Reader` succeeds. -/
structure Randomness.Available {L : Library} (random : Randomness L) (devicePriv : PrivateKey) :
    Prop where
  txnID : ∃ id, random.txnID = .ok id
  nonce : ∃ id, random.nonce = .ok id
  signature (hash : Bytes) : ∃ sig, L.ecdsaSign devicePriv hash random.signature = .ok sig
  ephemeralKey : ∃ d, random.ephemeralKey = .ok d
  iv : ∃ iv, random.iv = .ok iv

section

variable {L : Library} {J : Codec} {bankPriv devicePriv : PrivateKey}

theorem newUUID_eq_ok {random : Except GoError String} {id : String} :
    newUUID random = .returned (.ok id) ↔ random = .ok id := by
  cases random <;> simp [newUUID]

/-- An envelope whose parts decrypt to the text of an intent is opened to the intent. -/
theorem openEnvelope_ok {bankRandom : Bytes} {E : Externals} {env : EncryptedEnvelope}
    {text : Bytes} {signed : SignedPaymentIntent}
    (hdecrypt : Crypto.decryptECIES L bankPriv env.ephemeralPublicKey env.ciphertext env.iv env.authTag
      = .returned (.ok text))
    (htext : unmarshalIntent J text = .ok signed) :
    Settlement.openEnvelope (L.externals J bankPriv bankRandom E) env = .ok signed := by
  simp only [Settlement.openEnvelope, Library.externals, hdecrypt, htext]

/-- Every envelope that the intent service makes is opened by settlement to the payload that was put
in, and the device's signature holds for what is read. With random numbers at hand, an envelope is
made. The bank's key is on P-256, as those of `GenerateKeyPair` are: ephemeral keys are on that
curve. -/
theorem create_opens (hL : L.Lawful) (hJ : J.Lawful) (hbank : L.KeyPair bankPriv)
    (hcurve : bankPriv.pub.curve = .p256) (hdevice : L.KeyPair devicePriv)
    (bankRandom : Bytes) (E : Externals) (senderID receiverID : String) (amount : Int64)
    (currency deviceID tokenID : String) (duration : Int64) (now : Time)
    (hexpiry : J.InYears (now + duration.toInt)) (random : Randomness L) :
    (∀ env payload, createSignedAndEncryptedEnvelope L J senderID receiverID amount currency deviceID
          tokenID devicePriv bankPriv.pub duration now random = .returned (.ok (env, payload)) →
        payload = ⟨env.txnID, senderID, receiverID, amount, currency, env.nonce, now + duration.toInt,
          deviceID, tokenID⟩
        ∧ ∃ signature pem,
          Settlement.openEnvelope (L.externals J bankPriv bankRandom E) env = .ok ⟨payload, signature⟩
          ∧ exportPublicKeyToPEM L devicePriv.pub = .ok pem
          ∧ ∀ device : Device, device.publicKey = pem →
            device.verifies (L.externals J bankPriv bankRandom E) ⟨payload, signature⟩ = true)
      ∧ (random.Available devicePriv →
        ∃ env payload, createSignedAndEncryptedEnvelope L J senderID receiverID amount currency deviceID
          tokenID devicePriv bankPriv.pub duration now random = .returned (.ok (env, payload))) := by
  obtain ⟨pem, hexport, hparse⟩ := hL.parse_export hdevice
  constructor
  · intro env payload h
    simp only [createSignedAndEncryptedEnvelope, Outcome.bind_eq_ok, Outcome.mapError_eq_ok,
      Outcome.returned.injEq, newUUID_eq_ok, Outcome.pure_eq, Except.ok.injEq] at h
    obtain ⟨txnID, -, nonce, -, signature, hsign, text, htext, encrypted, hencrypt, hmade⟩ := h
    cases hmade
    obtain ⟨text', htext', hread⟩ := hJ.unmarshal_marshal ⟨⟨txnID, senderID, receiverID, amount,
      currency, nonce, now + duration.toInt, deviceID, tokenID⟩, signature⟩ hexpiry
    cases htext.symm.trans htext'
    refine ⟨rfl, signature, pem, openEnvelope_ok (hL.decrypt_encrypt hbank hcurve hencrypt) hread,
      hexport, fun device hkey => ?_⟩
    have hverify := hL.verify_sign hdevice hsign
    subst hkey
    simp only [Device.verifies, Library.externals, hparse]
    exact hverify
  · rintro ⟨⟨txnID, htxn⟩, ⟨nonce, hnonce⟩, hsignature, ⟨d, hd⟩, ⟨iv, hiv⟩⟩
    obtain ⟨signature, hsign⟩ := hL.sign_ok (hsignature (L.sha256 (bytes (getCanonicalPayloadString
      ⟨txnID, senderID, receiverID, amount, currency, nonce, now + duration.toInt, deviceID, tokenID⟩))))
    obtain ⟨text, htext, -⟩ := hJ.unmarshal_marshal ⟨⟨txnID, senderID, receiverID, amount,
      currency, nonce, now + duration.toInt, deviceID, tokenID⟩, signature⟩ hexpiry
    obtain ⟨encrypted, hencrypt⟩ := hL.encrypt_ok hbank text d iv
    simp only [createSignedAndEncryptedEnvelope, Outcome.bind_eq_ok, Outcome.mapError_eq_ok,
      Outcome.returned.injEq, newUUID_eq_ok, Outcome.pure_eq, Except.ok.injEq]
    rw [← hd, ← hiv] at hencrypt
    exact ⟨_, _, txnID, htxn, nonce, hnonce, signature, hsign, text, htext, encrypted, hencrypt, rfl⟩

end

theorem create_opens_plain :
    ∃ env payload signature, createSignedAndEncryptedEnvelope plainLibrary plainCodec "alice" "bob" 100
        "USD" "dev-1" "tok-1" plainKey plainKey.pub 60000000000 0 plainRandomness
          = .returned (.ok (env, payload))
      ∧ payload.amount = 100
      ∧ Settlement.openEnvelope (plainLibrary.externals plainCodec plainKey []
          (Externals.simple fun _ => none)) env = .ok ⟨payload, signature⟩ := by
  have hexpiry : plainCodec.InYears (0 + (60000000000 : Int64).toInt) := by
    change -62167219200000000000 ≤ 0 + (60000000000 : Int64).toInt + 0
      ∧ 0 + (60000000000 : Int64).toInt + 0 < 253402300800000000000
    decide
  obtain ⟨hopen, hmade⟩ := create_opens plainLibrary_lawful plainCodec_lawful plainKey_pair rfl
    plainKey_pair [] (Externals.simple fun _ => none) "alice" "bob" 100 "USD" "dev-1" "tok-1"
    60000000000 0 hexpiry plainRandomness
  obtain ⟨env, payload, h⟩ := hmade
    ⟨⟨_, rfl⟩, ⟨_, rfl⟩, fun _ => ⟨_, rfl⟩, ⟨_, rfl⟩, ⟨_, rfl⟩⟩
  obtain ⟨hpayload, signature, pem, hread, -, -⟩ := hopen env payload h
  exact ⟨env, payload, signature, h, by rw [hpayload], hread⟩

end Intent

end OfflinePay
