import OfflinePay.Common.Run
import OfflinePay.Settlement.Solo
import OfflinePay.Token.Service

/-!
# The running system

Reference: `internal/settlement`, `internal/token`, `internal/reconciliation`, `internal/identity`.

`World` is the database together with everything that is running against it: `Settle` calls,
`ReleaseExpiredTokens` passes and reconciliation scans, any number of each. A label picks the actor
that moves, the clock it reads and the faults it meets; between two labels anything else may run, so
a run is an interleaving at the granularity of single transactions. A caller that stops is one that
is never picked again.

`history` is not part of the program. It records every transaction that committed, with the database
before and after it, so that statements about "committed" and "compensated" transactions have
something to talk about.
-/

namespace OfflinePay

open Tx Repository Settlement

/-- Which transaction committed. -/
inductive Txn where
  /-- A new account. -/
  | createAccount (accountID : String) (opening : Int64)
  /-- `IssueToken`; the token as stored. -/
  | issueToken (tok : OfflineToken)
  /-- A saga transaction of the `Settle` call with this index. -/
  | phase (i : ℕ) (o : Order) (p : Saga.Phase)
  /-- A failure record of the `Settle` call with this index. -/
  | note (i : ℕ)
  /-- A transaction of `ReleaseExpiredTokens` that released this token. -/
  | release (tok : OfflineToken)
  /-- Reconciliation marked this payment intent expired. -/
  | expire (txnID : String)
  /-- A device or an attestation, or what is left of a call that failed. -/
  | other
deriving DecidableEq

/-- A committed transaction. -/
structure Commit where
  txn : Txn
  before : DB
  after : DB

variable (E : Externals)

/-- The database and everything that runs against it. -/
structure World where
  db : DB
  risk : E.RiskState
  calls : List SettleCall
  /-- What each `ReleaseExpiredTokens` pass still has to go through. -/
  passes : List (List OfflineToken)
  /-- What each reconciliation scan still has to go through. -/
  scans : List (List PaymentIntent)
  history : List Commit

/-- One move of the system. -/
inductive Label where
  | createAccount (accountID : String) (initialBalance : Int64) (fault : Option GoError)
      (now : Time)
  | registerDevice (dev : Device) (fault : Option GoError)
  | updateDeviceStatus (deviceID : String) (status : DeviceStatus) (fault : Option GoError)
      (now : Time)
  | attestDevice (att : DeviceAttestation) (fault : Option GoError)
  | issueToken (ownerID : String) (value duration : Int64) (tokenID : String)
      (faults : Token.IssueFaults) (now : Time)
  | startSettle (env : EncryptedEnvelope) (hopCount : ℤ)
  | settle (i : ℕ) (input : Input)
  | startRelease (now : Time)
  | release (j : ℕ) (fault : Option GoError) (now : Time)
  | startScan (now : Time)
  | scan (j : ℕ) (fault : Option GoError) (now : Time)

namespace World

variable {E}

/-- Record a committed transaction. -/
def commit (w : World E) (txn : Txn) (db' : DB) : World E :=
  { w with db := db', history := w.history ++ [⟨txn, w.db, db'⟩] }

/-- Run a transaction that is none of the named ones. -/
def runOther (w : World E) (fault : Option GoError) (body : DBTx Unit) : World E :=
  match withTx fault body w.db with
  | (.ok (), db') => w.commit .other db'
  | (.error _, _) => w

/-- `CreateAccount`; an account that exists is left alone. -/
def createAccount (w : World E) (accountID : String) (initialBalance : Int64)
    (fault : Option GoError) (now : Time) : World E :=
  match withTx fault (Repository.createAccount accountID initialBalance now) w.db with
  | (.ok (), db') =>
    if w.db.accountBalances.find? accountID = none then
      w.commit (.createAccount accountID initialBalance) db'
    else w.commit .other db'
  | (.error _, _) => w

/-- `IssueToken`. -/
def issueToken (w : World E) (ownerID : String) (value duration : Int64) (tokenID : String)
    (faults : Token.IssueFaults) (now : Time) : World E :=
  match Token.issueToken E ownerID value duration tokenID faults now w.db with
  | (.ok tok, db') => w.commit (.issueToken { tok with expiry := tok.expiry.timestamptz }) db'
  | (.error _, db') => w.commit .other db'

/-- The next step of a `Settle` call. -/
def settle (w : World E) (i : ℕ) (input : Input) : World E :=
  match w.calls[i]? with
  | none => w
  | some call =>
    let (call', db', risk, wrote) := call.step E input w.db w.risk
    let w' := { w with calls := w.calls.set i call', risk }
    match wrote with
    | none => { w' with db := db' }
    | some .note => w'.commit (.note i) db'
    | some (.phase o p) => w'.commit (.phase i o p) db'

/-- The next transaction of a `ReleaseExpiredTokens` pass. -/
def release (w : World E) (j : ℕ) (fault : Option GoError) (now : Time) : World E :=
  match w.passes[j]? with
  | none | some [] => w
  | some (tok :: rest) =>
    let w' := { w with passes := w.passes.set j rest }
    match withTx fault (Token.releaseExpired tok now) w.db with
    | (.ok true, db') => w'.commit (.release tok) db'
    | (.ok false, db') => { w' with db := db' }
    | (.error _, _) => w'

/-- The next intent of a reconciliation scan: expired ones are marked so, whatever has become of
them since they were read. -/
def scan (w : World E) (j : ℕ) (fault : Option GoError) (now : Time) : World E :=
  match w.scans[j]? with
  | none | some [] => w
  | some (intent :: rest) =>
    let w' := { w with scans := w.scans.set j rest }
    if intent.expiry < now then
      match withTx fault (updatePaymentIntentStatus intent.txnID .expired
        (some "expired_during_relay") now) w.db with
      | (.ok (), db') => w'.commit (.expire intent.txnID) db'
      | (.error _, _) => w'
    else w'

/-- One move of the system. -/
def step (w : World E) : Label → World E
  | .createAccount accountID initialBalance fault now =>
    w.createAccount accountID initialBalance fault now
  | .registerDevice dev fault => w.runOther fault (createDevice dev)
  | .updateDeviceStatus deviceID status fault now =>
    w.runOther fault (Repository.updateDeviceStatus deviceID status now)
  | .attestDevice att fault => w.runOther fault (createDeviceAttestation att)
  | .issueToken ownerID value duration tokenID faults now =>
    w.issueToken ownerID value duration tokenID faults now
  | .startSettle env hopCount => { w with calls := w.calls ++ [{ env, hopCount }] }
  | .settle i input => w.settle i input
  | .startRelease now => { w with passes := w.passes ++ [getExpiredTokens w.db now] }
  | .release j fault now => w.release j fault now
  | .startScan now =>
    { w with scans := w.scans ++ [getStuckPaymentIntents w.db (now - 10000000000)] }
  | .scan j fault now => w.scan j fault now

/-- A move does one step of one call, or starts a call, or leaves the calls alone. -/
theorem step_calls (w : World E) (l : Label) :
    (∃ i input call, l = .settle i input ∧ w.calls[i]? = some call ∧
        (w.step l).calls = w.calls.set i (call.step E input w.db w.risk).1) ∨
      (∃ env hopCount, (w.step l).calls = w.calls ++ [({ env, hopCount } : SettleCall)]) ∨
      (w.step l).calls = w.calls := by
  have hother : ∀ (w : World E) fault body, (w.runOther fault body).calls = w.calls := by
    intro w fault body
    unfold runOther
    split <;> rfl
  cases l with
  | createAccount accountID initialBalance fault now =>
    refine .inr (.inr ?_)
    simp only [step, createAccount]
    split
    · split <;> rfl
    · rfl
  | registerDevice dev fault => exact .inr (.inr (hother _ _ _))
  | updateDeviceStatus deviceID status fault now => exact .inr (.inr (hother _ _ _))
  | attestDevice att fault => exact .inr (.inr (hother _ _ _))
  | issueToken ownerID value duration tokenID faults now =>
    refine .inr (.inr ?_)
    simp only [step, issueToken]
    split <;> rfl
  | startSettle env hopCount => exact .inr (.inl ⟨env, hopCount, rfl⟩)
  | settle i input =>
    cases hcall : w.calls[i]? with
    | none => exact .inr (.inr (by simp [step, settle, hcall]))
    | some call =>
      refine .inl ⟨i, input, call, rfl, hcall, ?_⟩
      simp only [step, settle, hcall]
      split <;> rfl
  | startRelease now => exact .inr (.inr rfl)
  | release j fault now =>
    refine .inr (.inr ?_)
    simp only [step, release]
    split
    · rfl
    · rfl
    · split <;> rfl
  | startScan now => exact .inr (.inr rfl)
  | scan j fault now =>
    refine .inr (.inr ?_)
    simp only [step, scan]
    split
    · rfl
    · rfl
    · split
      · split <;> rfl
      · rfl

/-- A step of a call that is there. -/
theorem step_settle {w : World E} {i : ℕ} {call : SettleCall} (hcall : w.calls[i]? = some call)
    (input : Input) :
    (w.step (.settle i input)).calls = w.calls.set i (call.step E input w.db w.risk).1 ∧
      (w.step (.settle i input)).db = (call.step E input w.db w.risk).2.1 := by
  simp only [step, settle, hcall]
  split <;> exact ⟨rfl, rfl⟩

/-- What every step of a call keeps and a new call has, every move of the system keeps. -/
theorem calls_step {J : SettleCall → Prop} {w : World E} {l : Label}
    (hw : ∀ call ∈ w.calls, call.Wf ∧ J call)
    (hstep : ∀ i input call, l = .settle i input → w.calls[i]? = some call → call.Wf → J call →
      J (call.step E input w.db w.risk).1)
    (hnew : ∀ env hopCount, J { env, hopCount }) : ∀ call ∈ (w.step l).calls, call.Wf ∧ J call := by
  intro call' hmem
  rcases w.step_calls l with ⟨i, input, call, hl, hcall, hcalls⟩ | ⟨env, hop, hcalls⟩ | hcalls
  · rw [hcalls] at hmem
    rcases List.mem_or_eq_of_mem_set hmem with hmem | rfl
    · exact hw call' hmem
    · obtain ⟨hwf, hJ⟩ := hw call (List.mem_of_getElem? hcall)
      exact ⟨(SettleCall.step_cases hwf rfl).2, hstep i input call hl hcall hwf hJ⟩
  · rw [hcalls] at hmem
    rcases List.mem_append.mp hmem with hmem | hmem
    · exact hw call' hmem
    · rw [List.mem_singleton.mp hmem]
      exact ⟨⟨rfl, rfl⟩, hnew env hop⟩
  · exact hw call' (hcalls ▸ hmem)

variable (E) in
/-- The relation is kept by every statement of the program and by `IssueToken`. -/
structure Statements (R : DB → DB → Prop) : Prop extends toRecovery : Recovery.Statements R where
  createDevice : ∀ dev, Keeps R (createDevice dev)
  updateDeviceStatus : ∀ deviceID status now, Keeps R (updateDeviceStatus deviceID status now)
  createDeviceAttestation : ∀ att, Keeps R (createDeviceAttestation att)
  createAccount : ∀ accountID initialBalance now,
    Keeps R (Repository.createAccount accountID initialBalance now)
  issueToken : ∀ ownerID value duration tokenID faults now db,
    R db (Token.issueToken E ownerID value duration tokenID faults now db).2

/-- The payload of the outbox event of `ReleaseExpiredTokens`. -/
def releasedJson (tok : OfflineToken) : Json :=
  .obj [("token_id", .str tok.tokenID), ("owner_id", .str tok.ownerID), ("amount", .int64 tok.value)]

/-- The relation is kept by all that the program writes, `IssueToken` apart, and it writes only the
kinds `K`. -/
structure StatementsFor (K : Kinds) (R : DB → DB → Prop) : Prop
    extends toSettlement : Settlement.StatementsFor K R where
  createDevice : ∀ dev, K.device dev → Keeps R (createDevice dev)
  updateDeviceStatus : ∀ deviceID status now, Keeps R (updateDeviceStatus deviceID status now)
  createDeviceAttestation : ∀ att, Keeps R (createDeviceAttestation att)
  createAccount : ∀ accountID initialBalance now,
    Keeps R (Repository.createAccount accountID initialBalance now)
  expiredStatus : K.status .expired
  released : ∀ tok, K.outbox "token.expired" "TokenExpiredAndReleased" (releasedJson tok)

section Keeps

variable {K : Kinds} {R : DB → DB → Prop} [IsPreorder DB R]

theorem StatementsFor.releaseExpired (hR : World.StatementsFor K R) (tok : OfflineToken)
    (now : Time) :
    Keeps R (Token.releaseExpired tok now) := by
  refine keeps_bind (keeps_select _ _) fun locked => ?_
  split
  · exact keeps_pure _
  · exact keeps_bind (keeps_select _ _) fun _ => keeps_bind (keeps_check _ _) fun _ =>
      keeps_bind (hR.updateBalance _ _ _ _) fun _ => keeps_bind (hR.updateToken _ _ _) fun _ =>
      keeps_bind (hR.createLedgerEntry _ _ _ _ _ _) fun _ =>
      keeps_bind (hR.createOutboxEvent _ _ _ (hR.released _)) fun _ => keeps_pure _

/-- What every statement keeps, every move of the system keeps; what an `IssueToken` keeps may
depend on its arguments, and a device that is registered is of the kinds `K`. -/
theorem step_keeps (hR : World.StatementsFor K R) (w : World E) (l : Label)
    (hregister : ∀ dev fault, l = .registerDevice dev fault → K.device dev)
    (hissue : ∀ ownerID value duration tokenID faults now,
      l = .issueToken ownerID value duration tokenID faults now →
      R w.db (Token.issueToken E ownerID value duration tokenID faults now w.db).2) :
    R w.db (w.step l).db := by
  have hrefl : R w.db w.db := Std.Refl.refl w.db
  have hother : ∀ fault (body : DBTx Unit), Keeps R body → R w.db (w.runOther fault body).db := by
    intro fault body hbody
    unfold runOther
    split
    · next db' htx => exact hbody _ _ _ (withTx_ok.mp htx).2
    · exact hrefl
  cases l with
  | createAccount accountID initialBalance fault now =>
    simp only [step, createAccount]
    split
    · next db' htx =>
      have hk := hR.createAccount _ _ _ _ _ _ (withTx_ok.mp htx).2
      split <;> exact hk
    · exact hrefl
  | registerDevice dev fault => exact hother _ _ (hR.createDevice dev (hregister dev fault rfl))
  | updateDeviceStatus deviceID status fault now => exact hother _ _ (hR.updateDeviceStatus _ _ _)
  | attestDevice att fault => exact hother _ _ (hR.createDeviceAttestation att)
  | issueToken ownerID value duration tokenID faults now =>
    have hk := hissue ownerID value duration tokenID faults now rfl
    simp only [step, issueToken]
    split <;> next h => rw [h] at hk; exact hk
  | startSettle env hopCount => exact hrefl
  | settle i input =>
    simp only [step, settle]
    split
    · exact hrefl
    · next call hcall =>
      have hk := call.step_keeps hR.toSettlement input w.db w.risk
      split <;> exact hk
  | startRelease now => exact hrefl
  | release j fault now =>
    simp only [step, release]
    split
    · exact hrefl
    · exact hrefl
    · next tok rest hpass =>
      split
      · next db' htx => exact hR.releaseExpired tok now _ _ _ (withTx_ok.mp htx).2
      · next db' htx => exact hR.releaseExpired tok now _ _ _ (withTx_ok.mp htx).2
      · exact hrefl
  | startScan now => exact hrefl
  | scan j fault now =>
    simp only [step, scan]
    split
    · exact hrefl
    · exact hrefl
    · split
      · split
        · next db' htx =>
          exact hR.updatePaymentIntentStatus _ _ _ _ hR.expiredStatus _ _ _ (withTx_ok.mp htx).2
        · exact hrefl
      · exact hrefl

/-- What every statement and every `IssueToken` keeps, every move of the system keeps. -/
theorem Statements.step (hR : Statements E R) (w : World E) (l : Label) : R w.db (w.step l).db :=
  step_keeps (K := {})
    { hR with
      toSettlement := .ofStatements hR.toRecovery
      createDevice := fun dev _ => hR.createDevice dev
      expiredStatus := trivial
      released := fun _ => trivial } w l (fun _ _ _ => trivial)
    fun ownerID value duration tokenID faults now _ =>
      hR.issueToken ownerID value duration tokenID faults now w.db

end Keeps

/-- The transaction that a move commits, if any. -/
def commits (w : World E) (l : Label) : Option Txn :=
  ((w.step l).history.drop w.history.length).head?.map Commit.txn

/-- The state after a run. -/
abbrev exec (w : World E) (ls : List Label) : World E := Run.exec step w ls

/-- Every move of a run satisfies a condition on the state it is made from. -/
abbrev Steps (P : World E → Label → Prop) (w : World E) (ls : List Label) : Prop :=
  Run.Steps step P w ls

/-- A token row that stands for no money, like the one the failure records refer to. -/
def Spent (tok : OfflineToken) : Prop :=
  tok.consumed = true ∧ tok.value = 0 ∧ tok.status = .issued ∧ tok.releasedAt = none

/-- Before the first transaction: devices and attestations may be there, and spent tokens for the
failure records; nothing is running. -/
structure Initial (w : World E) : Prop where
  offlineTokens : ∀ tok ∈ w.db.offlineTokens.rows, Spent tok
  paymentIntents : w.db.paymentIntents = .empty
  nonceRegistry : w.db.nonceRegistry = .empty
  accountBalances : w.db.accountBalances = .empty
  ledgerEntries : w.db.ledgerEntries = []
  auditEvents : w.db.auditEvents = []
  outboxEvents : w.db.outboxEvents = []
  paymentEvents : w.db.paymentEvents = []
  calls : w.calls = []
  passes : w.passes = []
  scans : w.scans = []
  history : w.history = []

/-- An empty bank. -/
def start (risk : E.RiskState) : World E := ⟨DB.empty, risk, [], [], [], []⟩

theorem start_initial (risk : E.RiskState) : (start risk).Initial where
  offlineTokens := by simp [start, DB.empty, Table.empty]
  paymentIntents := rfl
  nonceRegistry := rfl
  accountBalances := rfl
  ledgerEntries := rfl
  auditEvents := rfl
  outboxEvents := rfl
  paymentEvents := rfl
  calls := rfl
  passes := rfl
  scans := rfl
  history := rfl

/-- An empty bank with the rows that failure records refer to. -/
def seeded (risk : E.RiskState) : World E :=
  let db := { DB.empty with
    devices := Table.empty.insert ⟨"UNKNOWN", "SYSTEM", "dummy", 0, .active, 0, none⟩
    offlineTokens := Table.empty.insert
      ⟨"UNKNOWN", "SYSTEM", 0, 0, true, none, "dummy", 0, none, 0, .issued⟩ }
  ⟨db, risk, [], [], [], []⟩

theorem seeded_initial (risk : E.RiskState) : (seeded risk).Initial where
  offlineTokens := by
    intro tok htok
    rcases (Table.mem_insert (Table.find?_empty _)).mp htok with htok | rfl
    · exact absurd htok (by simp [Table.empty])
    · exact ⟨rfl, rfl, rfl, rfl⟩
  paymentIntents := rfl
  nonceRegistry := rfl
  accountBalances := rfl
  ledgerEntries := rfl
  auditEvents := rfl
  outboxEvents := rfl
  paymentEvents := rfl
  calls := rfl
  passes := rfl
  scans := rfl
  history := rfl

end World

/-! ## Concrete runs -/

/-- Code outside the repository reduced to its interface, to run the system on concrete inputs: a
ciphertext is decoded by a table, and a signature is the signer's key followed by what it signs. -/
def Externals.simple (decode : String → Option SignedPaymentIntent) : Externals where
  Plaintext := String
  PublicKey := String
  RiskState := Unit
  decryptECIES _ ciphertext _ _ := .ok ciphertext
  unmarshalIntent s :=
    match decode s with
    | some signed => .ok signed
    | none => .error ⟨"unexpected end of JSON input", false⟩
  parsePEMToPublicKey s := .ok s
  verify key data signature := signature == key ++ "/" ++ data
  bankPublicKey := "bank"
  signBank data := .ok ("bank/" ++ data)
  assess risk _ _ _ := (⟨.allow, ""⟩, risk)
  creditLimit _ := 5000

/-- A payload signed with a key of `Externals.simple`. -/
def PaymentIntentPayload.signedBy (payload : PaymentIntentPayload) (key : String) :
    SignedPaymentIntent :=
  ⟨payload, key ++ "/" ++ getCanonicalPayloadString payload⟩

/-- `n` steps of a call in which nothing fails. -/
def Label.settles (i n : ℕ) : List Label := List.replicate n (.settle i { now := 1 })

/-- One step of a call whose transaction is lost. -/
def Label.settleFails (i : ℕ) : Label :=
  .settle i { now := 1, fault := some ⟨"driver: bad connection", false⟩ }

/-- Accounts for `alice` with 1000 and for `bob`, a device of `alice`, and tokens of `alice` worth
100 each. -/
def Label.setup (tokenIDs : List String) : List Label :=
  [.createAccount "alice" 1000 none 0, .createAccount "bob" 0 none 0,
    .registerDevice ⟨"phone", "alice", "alice-key", 1, .active, 0, none⟩ none]
    ++ tokenIDs.map fun tokenID => .issueToken "alice" 100 1000000000000 tokenID {} 0

end OfflinePay
