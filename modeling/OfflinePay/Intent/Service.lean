import OfflinePay.Crypto.Crypto
import OfflinePay.Domain.Unmarshal

/-!
# Making an envelope

Reference: `internal/intent/service.go`.

`encoding/json` and the formats of `time` are a `Codec`. On the wire a time is a string, and it
depends on the field whether a string is read as a time. Clock, random numbers and fresh UUIDs are
arguments.
-/

namespace OfflinePay.Intent

open Crypto

/-- `encoding/json` up to the level of values, and `MarshalJSON` and `UnmarshalJSON` of `time.Time`.
-/
structure Codec where
  encodeJSON : Json → Bytes
  decodeJSON : Bytes → Except GoError Json
  /-- The error for a value of which a part has the wrong type. -/
  typeError : Json → GoError
  marshalTime : Time → Except GoError String
  unmarshalTime : String → Except GoError Time
  /-- The offset of the local time zone from UTC, in nanoseconds. -/
  localOffset : Time → ℤ

namespace Codec

variable (J : Codec)

/-- The local time is in one of the years 0 to 9999, which RFC 3339 can write. -/
def InYears (t : Time) : Prop :=
  -62167219200000000000 ≤ t + J.localOffset t ∧ t + J.localOffset t < 253402300800000000000

/-- A member for a `time.Time`. -/
def decodeTime (old : Time) : Json → Option Time
  | .null => some old
  | .str text => (J.unmarshalTime text).toOption
  | _ => none

end Codec

section

variable (J : Codec)

/-! ## The wire format -/

/-- The values of the members of a payload, in the order of the struct; `expiry` is the text of the
time. -/
def payloadValues (p : PaymentIntentPayload) (expiry : String) : List Json :=
  [.str p.txnID, .str p.senderID, .str p.receiverID, .int64 p.amount, .str p.currency, .str p.nonce,
    .str expiry, .str p.deviceID, .str p.tokenID]

/-- The fields of `domain.PaymentIntentPayload`. -/
def payloadFields : Json.Fields PaymentIntentPayload :=
  [("txn_id", fun p j => (Json.decodeString p.txnID j).map fun v => { p with txnID := v }),
    ("sender_id", fun p j => (Json.decodeString p.senderID j).map fun v => { p with senderID := v }),
    ("receiver_id",
      fun p j => (Json.decodeString p.receiverID j).map fun v => { p with receiverID := v }),
    ("amount", fun p j => (Json.decodeInt64 p.amount j).map fun v => { p with amount := v }),
    ("currency", fun p j => (Json.decodeString p.currency j).map fun v => { p with currency := v }),
    ("nonce", fun p j => (Json.decodeString p.nonce j).map fun v => { p with nonce := v }),
    ("expiry", fun p j => (J.decodeTime p.expiry j).map fun v => { p with expiry := v }),
    ("device_id", fun p j => (Json.decodeString p.deviceID j).map fun v => { p with deviceID := v }),
    ("token_id", fun p j => (Json.decodeString p.tokenID j).map fun v => { p with tokenID := v })]

/-- The fields of `SignedPaymentIntent`. -/
def signedFields : Json.Fields SignedPaymentIntent :=
  [("payload", fun s j =>
      (Json.decodeStruct (payloadFields J) s.payload j).map fun v => { s with payload := v }),
    ("device_signature", fun s j =>
      (Json.decodeString s.deviceSignature j).map fun v => { s with deviceSignature := v })]

/-- The zero value of `SignedPaymentIntent`. -/
def zeroIntent : SignedPaymentIntent :=
  ⟨⟨"", "", "", 0, "", "", Time.zero, "", ""⟩, ""⟩

/-- The JSON of a signed intent, with the text of its expiry. -/
def signedJson (signed : SignedPaymentIntent) (expiry : String) : Json :=
  Json.encodeStruct (signedFields J)
    [Json.encodeStruct (payloadFields J) (payloadValues signed.payload expiry),
      .str signed.deviceSignature]

/-- `json.Marshal` of a signed intent. -/
def marshalIntent (signed : SignedPaymentIntent) : Except GoError Bytes := do
  let expiry ← J.marshalTime signed.payload.expiry
  return J.encodeJSON (signedJson J signed expiry)

/-- `json.Unmarshal` into a signed intent. -/
def unmarshalIntent (text : Bytes) : Except GoError SignedPaymentIntent := do
  let value ← J.decodeJSON text
  match Json.decodeStruct (signedFields J) zeroIntent value with
  | some signed => .ok signed
  | none => .error (J.typeError value)

/-! ## Reading what was written -/

/-- A payload is read back, if the text of its expiry is read as its expiry. -/
theorem decode_payload (p old : PaymentIntentPayload) {expiry : String}
    (hexpiry : J.unmarshalTime expiry = .ok p.expiry) :
    Json.decodeStruct (payloadFields J) old
      (Json.encodeStruct (payloadFields J) (payloadValues p expiry)) = some p := by
  have hnames : Json.PlainNames ((payloadFields J).map Prod.fst) := by
    change Json.PlainNames ["txn_id", "sender_id", "receiver_id", "amount", "currency", "nonce",
      "expiry", "device_id", "token_id"]
    decide +kernel
  rw [Json.decodeStruct_encodeStruct hnames]
  simp [payloadFields, payloadValues, Json.decodeString, Codec.decodeTime, hexpiry, Except.toOption]

theorem decode_signed (signed old : SignedPaymentIntent) {expiry : String}
    (hexpiry : J.unmarshalTime expiry = .ok signed.payload.expiry) :
    Json.decodeStruct (signedFields J) old (signedJson J signed expiry) = some signed := by
  have hnames : Json.PlainNames ((signedFields J).map Prod.fst) := by
    change Json.PlainNames ["payload", "device_signature"]
    decide +kernel
  rw [signedJson, Json.decodeStruct_encodeStruct hnames]
  simp [signedFields, decode_payload J signed.payload _ hexpiry, Json.decodeString]

end

/-! ## The device's side -/

/-- What the call reads from `rand.Reader`, in the order of the calls. -/
structure Randomness (L : Library) where
  txnID : Except GoError String
  nonce : Except GoError String
  signature : Bytes
  ephemeralKey : Except GoError L.Scalar
  iv : Except GoError (Vector UInt8 12)

/-- `uuid.New`, which panics if there are no random numbers. -/
def newUUID (random : Except GoError String) : Outcome GoError String :=
  match random with
  | .ok uuid => .returned (.ok uuid)
  | .error e => .panicked e.text

/-- `CreateSignedAndEncryptedEnvelope` simulates an offline device creating, signing, and encrypting
a payment. -/
def createSignedAndEncryptedEnvelope (L : Library) (J : Codec) (senderID receiverID : String)
    (amount : Int64) (currency deviceID tokenID : String) (devicePriv : PrivateKey)
    (bankPub : PublicKey) (duration : Int64) (now : Time) (random : Randomness L) :
    Outcome GoError (EncryptedEnvelope × PaymentIntentPayload) := do
  let txnID ← newUUID random.txnID
  let nonce ← newUUID random.nonce
  let payload : PaymentIntentPayload :=
    ⟨txnID, senderID, receiverID, amount, currency, nonce, now + duration.toInt, deviceID, tokenID⟩
  let canonicalData := getCanonicalPayloadString payload
  let signature ← (Outcome.returned
    (sign L devicePriv (bytes canonicalData) random.signature)).mapError
      (.wrap "failed to sign payment intent payload: ")
  let signedIntentJSON ← (Outcome.returned (marshalIntent J ⟨payload, signature⟩)).mapError
    (.wrap "failed to marshal signed intent: ")
  let encrypted ← (encryptECIES L bankPub signedIntentJSON random.ephemeralKey random.iv).mapError
    (.wrap "failed to encrypt envelope payload: ")
  return (⟨encrypted.ephemeralPubPEM, encrypted.ciphertextB64, nonce, encrypted.authTagB64, txnID,
    encrypted.ivB64⟩, payload)

end OfflinePay.Intent
