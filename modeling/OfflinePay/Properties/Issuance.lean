import Mathlib
import OfflinePay.Properties.Canonical
import OfflinePay.Settlement.Settle
import OfflinePay.System.World

/-!
# What an issued token is worth at settlement

Reference: `internal/token/service.go`, `IssueToken`; `internal/settlement/service.go`, step 8 of
`Settle`.

The bank signs the second in which a token expires. `Settle` reads the expiry back from the
database, which keeps microseconds, and rebuilds the string from that. An expiry in the last half
microsecond of a second is rounded into the next one, and the signature no longer fits
(`issued_token_verifies_iff`).

The string itself binds the token: the owner can be any text, but what is before it ends at a colon
and what is after it has a known number of them (`token_signature_binds`).

An owner without a device gets one while a token is issued, through a statement outside the
transaction, and keeps it when the transaction fails (`issue_atomic_iff`).
-/

namespace OfflinePay

open Tx Repository Settlement

/-! ## The expiry of a token -/

/-- The database moves an instant to the next second if it is in the last half microsecond. -/
theorem Time.unix_timestamptz (t : Time) :
    t.timestamptz.unix = if t % 1000000000 < 999999500 then t.unix else t.unix + 1 := by
  have hunix : t / 1000000000 = t / 1000 / 1000000 := by
    rw [Int.ediv_ediv_of_nonneg (by decide)]
    rfl
  have hmicro : ∀ q : ℤ, q * 1000 / 1000000000 = q / 1000000 :=
    fun q => Int.mul_ediv_mul_of_pos_left q 1000000 (by decide)
  unfold timestamptz unix
  unfold Time at *
  dsimp only
  rw [hunix]
  split_ifs
  · exact hmicro _
  all_goals
    rw [hmicro]
    omega

/-- The tokens that the bank signs differ in the second of their expiry. -/
theorem canonicalTokenData_expiry {tokenID ownerID : String} {value : Int64} {t t' : Time} :
    canonicalTokenData tokenID ownerID value t = canonicalTokenData tokenID ownerID value t' ↔
      t.unix = t'.unix := by
  constructor
  · intro h
    rw [canonicalTokenData, canonicalTokenData, String.append_right_inj] at h
    exact Int.repr_inj.mp h
  · intro h
    rw [canonicalTokenData, canonicalTokenData, h]

variable {E : Externals}

/-- `Verify` under the bank's key accepts exactly the string that was signed. -/
def Externals.SignsExactly (E : Externals) : Prop :=
  ∀ data signature, E.signBank data = .ok signature →
    ∀ data', E.verify E.bankPublicKey data' signature = true ↔ data' = data

/-- Why `Settle` refuses a token whose signature does not verify. -/
def Settlement.Failure.badToken : Failure :=
  .rejected "invalid_token_signature" ⟨"invalid bank signature on token", false⟩

/-- The check of the bank's signature is the only one that fails with `badToken`. -/
theorem checkToken_badToken_iff {env : EncryptedEnvelope} {hopCount : ℤ}
    {payload : PaymentIntentPayload}
    {tok : OfflineToken} {token_eq : tok.tokenID = payload.tokenID} {now : Time} :
    checkToken E env hopCount payload tok token_eq now = .error .badToken ↔
      E.verify E.bankPublicKey (canonicalTokenData tok.tokenID tok.ownerID tok.value tok.expiry)
        tok.tokenSignature = false := by
  unfold checkToken
  split_ifs with hverify
  · exact iff_of_true rfl (by simpa using hverify)
  all_goals
    refine iff_of_false ?_ (by simpa using hverify)
    simp [Failure.badToken, Failure.rejected]

theorem findToken_badToken_iff {env : EncryptedEnvelope} {hopCount : ℤ}
    {payload : PaymentIntentPayload}
    {input : Input} {db : DB} {tok : OfflineToken} (hread : input.readFault = none)
    (hfind : getToken db payload.tokenID = some tok) :
    findToken E env hopCount payload input db = .error .badToken ↔
      E.verify E.bankPublicKey (canonicalTokenData tok.tokenID tok.ownerID tok.value tok.expiry)
        tok.tokenSignature = false := by
  unfold findToken
  split
  · next hfault =>
    rw [hread] at hfault
    cases hfault
  · next hnone =>
    rw [hfind] at hnone
    cases hnone
  · next hfind' =>
    obtain rfl := Option.some.inj (hfind.symm.trans hfind')
    exact checkToken_badToken_iff

/-- The signature on the token that is saved is that of the string with its expiry. -/
theorem reserveFunds_signed {ownerID tokenID : String} {value : Int64} {expiry now : Time}
    {tok : OfflineToken} {newAvailable : Int64} {db db' : DB}
    (h : Token.reserveFunds E ownerID tokenID value expiry now db
      = .ok ((tok, newAvailable), db')) :
    tok.expiry = expiry ∧
      E.signBank (canonicalTokenData tok.tokenID tok.ownerID tok.value tok.expiry)
      = .ok tok.tokenSignature := by
  obtain ⟨_, signature, -, -, hsign, -, -, rfl, -⟩ := Token.reserveFunds_inv h
  exact ⟨rfl, hsign⟩

/-- For every owner, value, duration and instant: a token that was issued and is read back passes
the check of the bank's signature exactly if it does not expire in the last half microsecond of a
second. -/
theorem issued_token_verifies_iff (hexact : E.SignsExactly) {ownerID : String}
    {value duration : Int64}
    {tokenID : String} {faults : Token.IssueFaults} {now : Time} {tok : OfflineToken} {db db' : DB}
    (h : Token.issueToken E ownerID value duration tokenID faults now db = (.ok tok, db'))
    (env : EncryptedEnvelope) (hopCount : ℤ) {payload : PaymentIntentPayload}
    (hpayload : payload.tokenID = tokenID) {input : Input} (hread : input.readFault = none) :
    findToken E env hopCount payload input db' ≠ .error .badToken ↔
      (now + duration.toInt) % 1000000000 < 999999500 := by
  have hissued := Token.issueToken_ok h
  obtain ⟨_, _, he, -⟩ | ⟨tok', newAvailable, reserved, deviceID, devices, htok, hv, hres, -⟩ :=
    Token.issueToken_cases h
  · cases he
  obtain rfl : tok = tok' := Except.ok.inj htok
  obtain ⟨hexpiry, hsign⟩ := reserveFunds_signed hres
  obtain ⟨_, -, htokenID, -⟩ := Token.reserveFunds_ok hv hres
  have hfind : getToken db' payload.tokenID = some { tok with expiry := tok.expiry.timestamptz } := by
    rw [getToken, hissued.offlineTokens, hpayload, ← htokenID]
    exact Table.find?_insert_self hissued.fresh
  rw [Ne, findToken_badToken_iff hread hfind, Bool.not_eq_false, hexact _ _ hsign,
    canonicalTokenData_expiry, Time.unix_timestamptz, hexpiry]
  split_ifs with hearly
  · simp [hearly]
  · simp [hearly]

/-! ## A token that expires too late in its second -/

/-- `alice` has an account with 1000. -/
def aliceDB : DB := ((World.start (E := .simple fun _ => none) ()).exec (Label.setup [])).db

/-- `alice`'s token of 100 for an hour, issued at this time. -/
def aliceIssues (now : Time) : Except GoError OfflineToken × DB :=
  Token.issueToken (.simple fun _ => none) "alice" 100 3600000000000 "K" {} now aliceDB

/-- What `Settle` makes of `alice`'s token a minute later. -/
def aliceSpends (now : Time) : Except Failure Order :=
  findToken (.simple fun _ => none) ⟨"", "", "N", "", "T", ""⟩ 0
    ⟨"T", "alice", "bob", 30, "USD", "N", now + 3600000000000, "phone", "K"⟩
    { now := now + 60000000000 } (aliceIssues now).2

theorem simple_signsExactly : (Externals.simple fun _ => none).SignsExactly := by
  intro data signature hsign data'
  obtain rfl := Except.ok.inj hsign
  change (("bank/" ++ data == "bank" ++ "/" ++ data') = true) ↔ _
  rw [beq_iff_eq]
  constructor
  · intro h
    exact ((String.append_right_inj "bank/").mp h).symm
  · rintro rfl
    rfl

/-- Issued on the second, the token verifies. -/
theorem issued_token_verifies_iff_sharp :
    (aliceIssues 1700000000000000000).1.toOption.isSome = true ∧
      aliceSpends 1700000000000000000 ≠ .error .badToken := by
  have hissued : (aliceIssues 1700000000000000000).1.toOption.isSome = true := by decide +kernel
  refine ⟨hissued, ?_⟩
  cases hresult : (aliceIssues 1700000000000000000).1 with
  | error e =>
    rw [hresult] at hissued
    cases hissued
  | ok tok =>
    exact (issued_token_verifies_iff simple_signsExactly (Prod.ext hresult rfl) _ _ rfl rfl).mpr
      (by decide)

/-- Issued in the last half microsecond of a second, the token is refused. -/
theorem late_token_refused : (aliceIssues 1700000000999999500).1.toOption.isSome = true ∧
    aliceSpends 1700000000999999500 = .error .badToken := by
  decide +kernel

/-! ## What the bank's signature binds -/

/-- The string that the bank signs for a token. -/
def OfflineToken.canonicalData (tok : OfflineToken) : String :=
  canonicalTokenData tok.tokenID tok.ownerID tok.value tok.expiry

/-- The characters of the string, with the colons that end the id and begin the numbers apart. -/
theorem OfflineToken.toList_canonicalData (tok : OfflineToken) :
    tok.canonicalData.toList = "token:".toList ++ (tok.tokenID.toList ++ ':' :: ("owner:".toList
      ++ ((tok.ownerID.toList ++ ":value".toList ++ ':' :: (toString tok.value.toInt).toList)
        ++ ":expiry".toList ++ ':' :: (toString tok.expiry.unix).toList))) := by
  have hlabels : ":owner:".toList = ':' :: "owner:".toList ∧ ":value:".toList = ":value".toList ++ [':']
      ∧ ":expiry:".toList = ":expiry".toList ++ [':'] := by decide
  simp only [canonicalData, canonicalTokenData, String.toList_append, hlabels, List.append_assoc,
    List.cons_append, List.nil_append]

theorem OfflineToken.eq_of_canonicalData_eq {tok tok' : OfflineToken}
    (hid : ':' ∉ tok.tokenID.toList) (hid' : ':' ∉ tok'.tokenID.toList)
    (h : tok.canonicalData = tok'.canonicalData) :
    tok.tokenID = tok'.tokenID ∧ tok.ownerID = tok'.ownerID ∧ tok.value = tok'.value ∧
      tok.expiry.unix = tok'.expiry.unix := by
  have hchars := congrArg String.toList h
  rw [toList_canonicalData, toList_canonicalData, List.append_cancel_left_eq] at hchars
  obtain ⟨htokenID, hafter⟩ := Delimited.split_first hid hid' hchars
  rw [List.append_cancel_left_eq] at hafter
  -- from here on from the end: the owner may contain colons
  obtain ⟨hbefore, hexpiry⟩ := Delimited.split_last (colon_notMem_toString _)
    (colon_notMem_toString _) hafter
  rw [List.append_cancel_right_eq] at hbefore
  obtain ⟨howner, hvalue⟩ := Delimited.split_last (colon_notMem_toString _)
    (colon_notMem_toString _) hbefore
  rw [List.append_cancel_right_eq] at howner
  rw [String.toList_inj] at htokenID howner hvalue hexpiry
  exact ⟨htokenID, howner, Int64.toInt_inj.mp (PaymentIntentPayload.toString_inj hvalue),
    PaymentIntentPayload.toString_inj hexpiry⟩

/-- Tokens whose ids contain no colon have the same string only if they agree in all that the string
is made of. `IssueToken` signs this string of the token it returns, and `Settle` verifies this
string of the token it reads. -/
theorem token_signature_binds (E : Externals) :
    (∀ tok tok' : OfflineToken, ':' ∉ tok.tokenID.toList → ':' ∉ tok'.tokenID.toList →
      tok.canonicalData = tok'.canonicalData →
      tok.tokenID = tok'.tokenID ∧ tok.ownerID = tok'.ownerID ∧ tok.value = tok'.value ∧
        tok.expiry.unix = tok'.expiry.unix) ∧
    (∀ ownerID value duration tokenID faults now db tok db',
      Token.issueToken E ownerID value duration tokenID faults now db = (.ok tok, db') →
      E.signBank tok.canonicalData = .ok tok.tokenSignature) ∧
    ∀ env hopCount payload tok token_eq now,
      checkToken E env hopCount payload tok token_eq now = .error .badToken ↔
        E.verify E.bankPublicKey tok.canonicalData tok.tokenSignature = false := by
  refine ⟨fun tok tok' hid hid' h => OfflineToken.eq_of_canonicalData_eq hid hid' h, ?_,
    fun _ _ _ _ _ _ => checkToken_badToken_iff⟩
  intro ownerID value duration tokenID faults now db tok db' h
  obtain ⟨_, _, he, -⟩ | ⟨tok', newAvailable, reserved, deviceID, devices, htok, hv, hres, -⟩ :=
    Token.issueToken_cases h
  · cases he
  · obtain rfl : tok = tok' := Except.ok.inj htok
    exact (reserveFunds_signed hres).2

/-- A token of 100 whose owner's name goes on like the string of another. -/
def labelledToken : OfflineToken :=
  ⟨"K", "alice:value:7:expiry:9", 100, 3600000000000, false, none, "", 0, none, 0, .issued⟩

/-- No token of `alice` has its string. -/
theorem token_signature_binds_labelled : ':' ∉ labelledToken.tokenID.toList ∧
    ∀ tok : OfflineToken, ':' ∉ tok.tokenID.toList → tok.ownerID = "alice" →
      tok.canonicalData ≠ labelledToken.canonicalData := by
  have hid : ':' ∉ labelledToken.tokenID.toList := by decide
  refine ⟨hid, fun tok htok howner h => ?_⟩
  have hsame := ((token_signature_binds (.simple fun _ => none)).1 tok labelledToken htok hid h).2.1
  rw [howner] at hsame
  exact absurd hsame (by decide)

/-! ## What a failed issue leaves behind -/

namespace Token

/-- What `IssueToken` needs of the database to reserve the funds and save the token. -/
def Reservable (E : Externals) (ownerID : String) (value : Int64) (expiry : Time) (tokenID : String)
    (db : DB) : Prop :=
  (∃ bal, db.accountBalances.find? ownerID = some bal ∧ value ≤ bal.availableBalance ∧
    0 ≤ bal.reservedBalance + value) ∧
  (∃ signature, E.signBank (canonicalTokenData tokenID ownerID value expiry) = .ok signature) ∧
  (Pg.varchar 100 tokenID && Pg.varchar 100 ownerID) = true ∧ db.offlineTokens.find? tokenID = none

/-- `IssueToken` gets as far as looking for a device. -/
structure LooksForDevice (E : Externals) (ownerID : String) (value duration : Int64)
    (tokenID : String) (faults : IssueFaults) (now : Time) (db : DB) : Prop where
  value_pos : 0 < value
  limitRead : faults.limit = none
  limit : value ≤ computeOfflineCreditLimit E (getDevicesByOwner db ownerID)
  reserveRead : faults.reserve = none
  reservable : Reservable E ownerID value (now + duration.toInt) tokenID db

/-- The automatic device of the owner is inserted: no device was found, and nothing is in its way.
-/
structure AddsDevice (faults : IssueFaults) (ownerID : String) (db : DB) : Prop where
  unfound : faults.lookup = true ∨ getDevicesByOwner db ownerID = []
  inserts : faults.device = false
  fits : (Pg.varchar 100 ("device-auto-" ++ ownerID) && Pg.varchar 100 ownerID) = true
  free : db.devices.find? ("device-auto-" ++ ownerID) = none

variable {ownerID : String} {value duration : Int64} {tokenID : String} {faults : IssueFaults}
  {expiry now : Time} {db db' : DB}

theorem reservable_of_ok {tok : OfflineToken} {newAvailable : Int64}
    (h : reserveFunds E ownerID tokenID value expiry now db = .ok ((tok, newAvailable), db')) :
    Reservable E ownerID value expiry tokenID db := by
  obtain ⟨bal, signature, hbal, hle, hsign, hfits, hfree, -, -, -, hreserved, -⟩ :=
    reserveFunds_inv h
  exact ⟨⟨bal, hbal, hle, hreserved⟩, ⟨signature, hsign⟩, hfits, hfree⟩

theorem ok_of_reservable (hv : 0 < value) (h : Reservable E ownerID value expiry tokenID db) :
    ∃ r db', reserveFunds E ownerID tokenID value expiry now db = .ok (r, db') := by
  obtain ⟨⟨bal, hbal, hle, hreserved⟩, ⟨signature, hsign⟩, hfits, hfree⟩ := h
  have havailable : 0 ≤ bal.availableBalance - value := by
    have hle' := Checked.toInt_le hle
    rw [Int64.le_iff_toInt_le, Checked.toInt_sub bal.available_check (Int64.le_of_lt hv),
      Int64.toInt_zero]
    omega
  have hupd : updateBalance ownerID (bal.availableBalance - value) (bal.reservedBalance + value)
      now db = .ok ((), _) :=
    (updateBalance_ok (by simp [hbal])).mpr ⟨havailable, hreserved, rfl⟩
  exact ⟨_, _, bind_ok.mpr ⟨bal, db, mapError_ok.mpr (getBalanceForUpdate_ok.mpr ⟨hbal, rfl⟩),
    bind_ok.mpr ⟨(), db, check_ok.mpr ⟨hle, rfl⟩, bind_ok.mpr ⟨(), _, mapError_ok.mpr hupd,
    bind_ok.mpr ⟨signature, _, mapError_ok.mpr (attempt_ok.mpr ⟨hsign, rfl⟩),
    bind_ok.mpr ⟨(), _, mapError_ok.mpr (createToken_ok.mpr ⟨hfits, hfree, rfl⟩),
    pure_ok.mpr ⟨rfl, rfl⟩⟩⟩⟩⟩⟩⟩

variable (ownerID now) in
/-- The automatic device. -/
def autoDevice : Device := ⟨"device-auto-" ++ ownerID, ownerID, "dummy-key", 1, .active, now, none⟩

/-- The automatic device is inserted, or the database stays as it is. -/
theorem ownerDevice_cases (faults : IssueFaults) (ownerID : String) (now : Time) (db : DB) :
    (AddsDevice faults ownerID db ∧ (ownerDevice faults ownerID now db).2
      = { db with devices := db.devices.insert (autoDevice ownerID now) }) ∨
    (¬AddsDevice faults ownerID db ∧ (ownerDevice faults ownerID now db).2 = db) := by
  unfold ownerDevice
  split
  · next dev rest hlookup hfound =>
    refine .inr ⟨fun hadds => ?_, rfl⟩
    obtain hfault | hnone := hadds.unfound
    · rw [hlookup] at hfault
      cases hfault
    · rw [hfound] at hnone
      cases hnone
  · next hunfound =>
    have hlookup : faults.lookup = true ∨ getDevicesByOwner db ownerID = [] := by
      by_contra hnot
      rw [not_or, Bool.not_eq_true] at hnot
      obtain ⟨dev, rest, hfound⟩ := List.exists_cons_of_ne_nil hnot.2
      exact hunfound dev rest hnot.1 hfound
    dsimp only
    generalize hr : withTx _ (createDevice _) db = r
    obtain ⟨res, db'⟩ := r
    cases res with
    | error err =>
      refine .inr ⟨fun hadds => ?_, withTx_error hr⟩
      rw [hadds.inserts] at hr
      obtain hfault | ⟨-, herror⟩ := error_of_withTx hr
      · cases hfault
      · have hok := herror.symm.trans
          ((createDevice_ok (u := ())).mpr ⟨hadds.fits, hadds.free, rfl⟩)
        cases hok
    | ok u =>
      obtain ⟨hfault, hok⟩ := withTx_ok.mp hr
      obtain ⟨hfits, hfree, rfl⟩ := createDevice_ok.mp hok
      refine .inl ⟨⟨hlookup, ?_, hfits, hfree⟩, rfl⟩
      cases hdevice : faults.device with
      | false => rfl
      | true => simp [hdevice] at hfault

variable (E ownerID value duration tokenID faults now db) in
/-- `IssueToken` adds the automatic device, whether it fails or not, or leaves the devices alone. -/
theorem issueToken_devices :
    ((LooksForDevice E ownerID value duration tokenID faults now db ∧
        AddsDevice faults ownerID db) ∧
      (issueToken E ownerID value duration tokenID faults now db).2.devices
        = db.devices.insert (autoDevice ownerID now)) ∨
    (¬(LooksForDevice E ownerID value duration tokenID faults now db ∧
        AddsDevice faults ownerID db) ∧
      (issueToken E ownerID value duration tokenID faults now db).2.devices = db.devices) := by
  unfold issueToken
  split
  · next hv => exact .inr ⟨fun h => Int64.not_le.mpr h.1.value_pos hv, rfl⟩
  next hv =>
  split
  · next hlimit =>
    exact .inr ⟨fun h => Option.some_ne_none _ (hlimit.symm.trans h.1.limitRead), rfl⟩
  next hlimitRead =>
  dsimp only
  split
  · next hlimit => exact .inr ⟨fun h => Int64.not_lt.mpr h.1.limit hlimit, rfl⟩
  next hlimit =>
  split
  · next hreserve =>
    exact .inr ⟨fun h => Option.some_ne_none _ (hreserve.symm.trans h.1.reserveRead), rfl⟩
  · next hreserve =>
    refine .inr ⟨fun h => ?_, rfl⟩
    obtain ⟨r, db₁, hok⟩ := ok_of_reservable h.1.value_pos h.1.reservable
    rw [hreserve] at hok
    cases hok
  · next tok newAvailable reserved hreserveRead hreserve =>
    have hlooks : LooksForDevice E ownerID value duration tokenID faults now db :=
      ⟨Int64.not_le.mp hv, hlimitRead, Int64.not_lt.mp hlimit, hreserveRead,
        reservable_of_ok hreserve⟩
    -- from here on the devices are those that the lookup has left
    have hdevices : ∀ r : Except GoError OfflineToken × DB,
        r.2.devices = (ownerDevice faults ownerID now db).2.devices →
        (((LooksForDevice E ownerID value duration tokenID faults now db ∧
            AddsDevice faults ownerID db) ∧
          r.2.devices = db.devices.insert (autoDevice ownerID now)) ∨
        (¬(LooksForDevice E ownerID value duration tokenID faults now db ∧
            AddsDevice faults ownerID db) ∧ r.2.devices = db.devices)) := by
      intro r hr
      obtain ⟨hadds, hdb⟩ | ⟨hadds, hdb⟩ := ownerDevice_cases faults ownerID now db
      · exact .inl ⟨⟨hlooks, hadds⟩, by rw [hr, hdb]⟩
      · exact .inr ⟨fun h => hadds h.2, by rw [hr, hdb]⟩
    apply hdevices
    split
    · rfl
    · rfl
    · next hbook =>
      obtain ⟨-, -, rfl⟩ := bookReservation_ok hbook
      rfl

/-- For every database, owner, value, duration and pattern of failures: a failed `IssueToken` leaves
everything as it was exactly if it did not get as far as looking for a device, or did not add one.
-/
theorem issue_atomic_iff {e : GoError}
    (h : issueToken E ownerID value duration tokenID faults now db = (.error e, db')) :
    db' = db ↔ ¬(LooksForDevice E ownerID value duration tokenID faults now db ∧
      AddsDevice faults ownerID db) := by
  obtain ⟨-, devices, -, rfl⟩ | ⟨tok, -, -, -, -, htok, -⟩ := issueToken_cases h
  · have hcases := issueToken_devices E ownerID value duration tokenID faults now db
    rw [h] at hcases
    obtain ⟨hboth, rfl⟩ | ⟨hnot, rfl⟩ := hcases
    · refine iff_of_false (fun heq => ?_) (not_not.mpr hboth)
      -- the inserted row was not there
      have hfree : db.devices.find? (autoDevice ownerID now).deviceID = none := hboth.2.free
      have hfind := congrArg (fun db : DB => db.devices.find? (autoDevice ownerID now).deviceID) heq
      dsimp only at hfind
      rw [Table.find?_insert_self hfree, hfree] at hfind
      cases hfind
    · exact iff_of_true rfl hnot
  · cases htok

end Token

/-! ## An automatic device that outlives its token -/

/-- The connection is lost when the transaction of `alice`'s token is about to commit. -/
def aliceLoses : Except GoError OfflineToken × DB :=
  Token.issueToken (.simple fun _ => none) "alice" 100 3600000000000 "K"
    { commit := some ⟨"driver: bad connection", false⟩ } 0 aliceDB

/-- `alice` has a device: nothing is left of the token. -/
theorem issue_atomic_iff_device : aliceLoses.1 = .error ⟨"driver: bad connection", false⟩ ∧
    aliceLoses.2 = aliceDB := by
  have hlost : aliceLoses.1 = .error ⟨"driver: bad connection", false⟩ := by decide +kernel
  refine ⟨hlost, (Token.issue_atomic_iff (Prod.ext hlost rfl)).mpr fun hboth => ?_⟩
  have hfound : getDevicesByOwner aliceDB "alice" ≠ [] := by decide +kernel
  obtain hfault | hnone := hboth.2.unfound
  · cases hfault
  · exact hfound hnone

/-- `carol` has an account with 500 and no device. -/
def carolDB : DB :=
  ((World.start (E := .simple fun _ => none) ()).exec [.createAccount "carol" 500 none 0]).db

/-- The same for `carol`. -/
def carolLoses : Except GoError OfflineToken × DB :=
  Token.issueToken (.simple fun _ => none) "carol" 100 3600000000000 "K"
    { commit := some ⟨"driver: bad connection", false⟩ } 0 carolDB

/-- The token is not issued, and `carol` has a device. -/
theorem device_outlives_token :
    carolLoses.1 = .error ⟨"driver: bad connection", false⟩ ∧
      carolDB.devices.rows = [] ∧
      carolLoses.2.devices.rows
        = [⟨"device-auto-carol", "carol", "dummy-key", 1, .active, 0, none⟩] := by
  decide +kernel

end OfflinePay
