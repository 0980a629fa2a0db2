import Mathlib
import OfflinePay.Common.Delimited
import OfflinePay.Settlement.Solo
import OfflinePay.System.World

/-!
# What a device signature binds

Reference: `internal/intent/service.go`, `GetCanonicalPayloadString`.

A device signs the canonical string of its payment, and `Settle` verifies the signature of this
string only. The string puts labels between the fields and does not escape them, so two payments can
have the same string: the sender `a:rec:b` who pays `c`, and the sender `a` who pays `b:rec:c`.
`canonical_binds_iff` says for which payments this cannot happen: each label occurs once in itself
and the two fields around it. The last section settles a payment of 99 with the signature of a
payment of 1.
-/

namespace OfflinePay

open Delimited

/-! ## The labels -/

/-- `Time.Unix` is an `int64`. -/
def Time.Representable (t : Time) : Prop := -2 ^ 63 ≤ t.unix ∧ t.unix < 2 ^ 63

/-- An `int64` between two labels. -/
def numbered (before after : String) : Set (List Char) :=
  {v | ∃ n : ℤ, (-2 ^ 63 ≤ n ∧ n < 2 ^ 63) ∧ v = before.toList ++ ((toString n).toList ++ after.toList)}

/-- What stands between the fields. -/
def labels : List (Set (List Char)) :=
  [{":sender:".toList}, {":rec:".toList}, numbered ":amt:" ":cur:", {":nonce:".toList},
    numbered ":exp:" ":dev:", {":tok:".toList}]

theorem colon_notMem_toString (n : ℤ) : ':' ∉ (toString n).toList := by
  have hnat : ∀ m : ℕ, ':' ∉ m.repr.toList := by
    intro m hm
    rw [Nat.toList_repr] at hm
    exact absurd (Nat.isDigit_of_mem_toDigits (by decide) (by decide) hm) (by decide)
  rw [Int.toString_eq_repr, Int.repr_eq_if]
  split
  · exact hnat _
  · rw [String.toList_append, List.mem_append, not_or]
    exact ⟨by decide, hnat _⟩

theorem marked_label {label : String} (hhead : label.toList.head? = some ':')
    (hlast : label.toList.getLast? = some ':') (hcount : label.toList.count ':' = 2) :
    Marked ':' 2 {label.toList} := by
  rintro v rfl
  exact ⟨List.head?_eq_some_iff.mp hhead, List.getLast?_eq_some_iff.mp hlast, hcount⟩

theorem marked_numbered {before after : String} (hbefore : Marked ':' 2 {before.toList})
    (hafter : Marked ':' 2 {after.toList}) : Marked ':' 4 (numbered before after) := by
  rintro v ⟨n, -, rfl⟩
  obtain ⟨⟨t, ht⟩, -, hcount⟩ := hbefore _ rfl
  obtain ⟨-, ⟨u, hu⟩, hcount'⟩ := hafter _ rfl
  refine ⟨⟨t ++ ((toString n).toList ++ after.toList), ?_⟩,
    ⟨before.toList ++ ((toString n).toList ++ u), ?_⟩, ?_⟩
  · rw [ht, List.cons_append]
  · rw [hu]
    simp only [List.append_assoc]
  · rw [List.count_append, List.count_append, hcount, hcount',
      List.count_eq_zero.mpr (colon_notMem_toString n)]

theorem labels_marked : Marked ':' 2 {":sender:".toList} ∧ Marked ':' 2 {":rec:".toList} ∧
    Marked ':' 4 (numbered ":amt:" ":cur:") ∧ Marked ':' 2 {":nonce:".toList} ∧
    Marked ':' 4 (numbered ":exp:" ":dev:") ∧ Marked ':' 2 {":tok:".toList} := by
  refine ⟨?_, ?_, marked_numbered ?_ ?_, ?_, marked_numbered ?_ ?_, ?_⟩
  all_goals exact marked_label (by decide) (by decide) (by decide)

theorem labels_infixFree : ∀ D ∈ labels, InfixFree D := by
  obtain ⟨hsender, hrec, hamt, hnonce, hexp, htok⟩ := labels_marked
  simp only [labels, List.forall_mem_cons]
  exact ⟨hsender.infixFree, hrec.infixFree, hamt.infixFree, hnonce.infixFree, hexp.infixFree,
    htok.infixFree, nofun⟩

/-! ## The canonical string -/

namespace PaymentIntentPayload

/-- The labels of the canonical string with the fields after them. -/
def labelled (p : PaymentIntentPayload) : List (List Char × List Char) :=
  [(":sender:".toList, p.senderID.toList), (":rec:".toList, p.receiverID.toList),
    (":amt:".toList ++ ((toString p.amount.toInt).toList ++ ":cur:".toList), p.currency.toList),
    (":nonce:".toList, p.nonce.toList),
    (":exp:".toList ++ ((toString p.expiry.unix).toList ++ ":dev:".toList), p.deviceID.toList),
    (":tok:".toList, p.tokenID.toList)]

/-- The same payment, with the expiry to the second. -/
structure Agrees (q p : PaymentIntentPayload) : Prop where
  txnID : q.txnID = p.txnID
  senderID : q.senderID = p.senderID
  receiverID : q.receiverID = p.receiverID
  amount : q.amount = p.amount
  currency : q.currency = p.currency
  nonce : q.nonce = p.nonce
  expiry : q.expiry.unix = p.expiry.unix
  deviceID : q.deviceID = p.deviceID
  tokenID : q.tokenID = p.tokenID

/-- Each label occurs once in itself and the two fields around it. -/
structure Unambiguous (p : PaymentIntentPayload) : Prop where
  senderID : OccursOnce {":sender:".toList} p.txnID.toList ":sender:".toList p.senderID.toList
  receiverID : OccursOnce {":rec:".toList} p.senderID.toList ":rec:".toList p.receiverID.toList
  amount : OccursOnce (numbered ":amt:" ":cur:") p.receiverID.toList
    (":amt:".toList ++ ((toString p.amount.toInt).toList ++ ":cur:".toList)) p.currency.toList
  nonce : OccursOnce {":nonce:".toList} p.currency.toList ":nonce:".toList p.nonce.toList
  expiry : OccursOnce (numbered ":exp:" ":dev:") p.nonce.toList
    (":exp:".toList ++ ((toString p.expiry.unix).toList ++ ":dev:".toList)) p.deviceID.toList
  tokenID : OccursOnce {":tok:".toList} p.deviceID.toList ":tok:".toList p.tokenID.toList

variable {p q : PaymentIntentPayload}

/-- The characters of labels and fields in turn. -/
theorem toList_turns (s₁ s₂ s₃ s₄ s₅ s₆ s₇ s₈ s₉ t₁ t₂ t₃ t₄ t₅ t₆ t₇ t₈ t₉ : String) :
    (s₁ ++ t₁ ++ s₂ ++ t₂ ++ s₃ ++ t₃ ++ s₄ ++ t₄ ++ s₅ ++ t₅ ++ s₆ ++ t₆ ++ s₇ ++ t₇ ++ s₈ ++ t₈ ++ s₉
        ++ t₉).toList
      = s₁.toList ++ join t₁.toList [(s₂.toList, t₂.toList), (s₃.toList, t₃.toList),
        (s₄.toList ++ (t₄.toList ++ s₅.toList), t₅.toList), (s₆.toList, t₆.toList),
        (s₇.toList ++ (t₇.toList ++ s₈.toList), t₈.toList), (s₉.toList, t₉.toList)] := by
  simp only [String.toList_append, join, List.append_assoc]

theorem toList_canonical (p : PaymentIntentPayload) :
    (getCanonicalPayloadString p).toList = "txn:".toList ++ join p.txnID.toList p.labelled :=
  toList_turns _ _ _ _ _ _ _ _ _ _ _ _ _ _ _ _ _ _

theorem canonical_eq_iff : getCanonicalPayloadString q = getCanonicalPayloadString p ↔
    join q.txnID.toList q.labelled = join p.txnID.toList p.labelled := by
  rw [← String.toList_inj, toList_canonical, toList_canonical, List.append_cancel_left_eq]

theorem fits_labelled (hp : p.expiry.Representable) : Fits labels p.labelled :=
  .cons rfl (.cons rfl (.cons ⟨_, ⟨p.amount.le_toInt, p.amount.toInt_lt⟩, rfl⟩ (.cons rfl
    (.cons ⟨_, hp, rfl⟩ (.cons rfl .nil)))))

theorem toString_inj {m n : ℤ} (h : toString m = toString n) : m = n := by
  rwa [Int.toString_eq_repr, Int.toString_eq_repr, Int.repr_inj] at h

theorem agrees_iff : q.Agrees p ↔ q.txnID.toList = p.txnID.toList ∧ q.labelled = p.labelled := by
  constructor
  · rintro ⟨h₁, h₂, h₃, h₄, h₅, h₆, h₇, h₈, h₉⟩
    simp only [labelled, h₁, h₂, h₃, h₄, h₅, h₆, h₇, h₈, h₉, and_self]
  · rintro ⟨htxn, hlabelled⟩
    simp only [labelled, List.cons.injEq, Prod.mk.injEq, List.append_cancel_left_eq,
      List.append_cancel_right_eq, String.toList_inj, true_and, and_true] at htxn hlabelled
    obtain ⟨hsender, hreceiver, ⟨hamount, hcurrency⟩, hnonce, ⟨hexpiry, hdevice⟩, htoken⟩ :=
      hlabelled
    exact ⟨htxn, hsender, hreceiver, Int64.toInt_inj.mp (toString_inj hamount), hcurrency, hnonce,
      toString_inj hexpiry, hdevice, htoken⟩

/-- Every reading of a canonical string is a payment. -/
theorem exists_of_fits (f : List Char) {ps : List (List Char × List Char)} (h : Fits labels ps) :
    ∃ q : PaymentIntentPayload, q.expiry.Representable ∧ q.txnID.toList = f ∧ q.labelled = ps := by
  obtain ⟨⟨_, g₁⟩, _, rfl, h₁, rfl⟩ := List.forall₂_cons_left_iff.mp h
  obtain ⟨⟨_, g₂⟩, _, rfl, h₂, rfl⟩ := List.forall₂_cons_left_iff.mp h₁
  obtain ⟨⟨_, g₃⟩, _, ⟨n, hn, rfl⟩, h₃, rfl⟩ := List.forall₂_cons_left_iff.mp h₂
  obtain ⟨⟨_, g₄⟩, _, rfl, h₄, rfl⟩ := List.forall₂_cons_left_iff.mp h₃
  obtain ⟨⟨_, g₅⟩, _, ⟨m, hm, rfl⟩, h₅, rfl⟩ := List.forall₂_cons_left_iff.mp h₄
  obtain ⟨⟨_, g₆⟩, _, rfl, h₆, rfl⟩ := List.forall₂_cons_left_iff.mp h₅
  obtain rfl := List.forall₂_nil_left_iff.mp h₆
  have hamount : (Int64.ofInt n).toInt = n := Int64.toInt_ofInt_of_le hn.1 hn.2
  have hexpiry : Time.unix (m * 1000000000) = m := Int.mul_ediv_cancel m (by decide)
  refine ⟨⟨.ofList f, .ofList g₁, .ofList g₂, .ofInt n, .ofList g₃, .ofList g₄, m * 1000000000, .ofList g₅,
    .ofList g₆⟩, ?_, String.toList_ofList, ?_⟩
  · rw [Time.Representable, hexpiry]
    exact hm
  · simp only [labelled, String.toList_ofList, hamount, hexpiry]

theorem unambiguous_iff : p.Unambiguous ↔ Locally labels p.txnID.toList p.labelled :=
  ⟨fun h => ⟨h.senderID, h.receiverID, h.amount, h.nonce, h.expiry, h.tokenID, trivial⟩,
    fun ⟨hsender, hreceiver, hamount, hnonce, hexpiry, htoken, _⟩ =>
      ⟨hsender, hreceiver, hamount, hnonce, hexpiry, htoken⟩⟩

/-- For every payment: no other payment has the same canonical string, exactly if each label of the
string occurs once in itself and the two fields around it. -/
theorem canonical_binds_iff (hp : p.expiry.Representable) :
    (∀ q : PaymentIntentPayload, q.expiry.Representable →
      getCanonicalPayloadString q = getCanonicalPayloadString p → q.Agrees p) ↔ p.Unambiguous := by
  rw [unambiguous_iff, ← unique_iff_locally labels_infixFree (fits_labelled hp)]
  constructor
  · intro h f ps hps heq
    obtain ⟨q, hq, rfl, rfl⟩ := exists_of_fits f hps
    exact agrees_iff.mp (h q hq (canonical_eq_iff.mpr heq))
  · intro h q hq heq
    exact agrees_iff.mpr (h _ _ (fits_labelled hq) (canonical_eq_iff.mp heq))

/-- Fields without a colon cannot be taken for labels. -/
theorem unambiguous_of_colonless (hp : p.expiry.Representable)
    (h : ∀ s ∈ [p.txnID, p.senderID, p.receiverID, p.currency, p.nonce, p.deviceID, p.tokenID],
      ':' ∉ s.toList) : p.Unambiguous := by
  simp only [List.forall_mem_cons] at h
  obtain ⟨htxn, hsender, hreceiver, hcurrency, hnonce, hdevice, htoken, -⟩ := h
  obtain ⟨hlabel₁, hlabel₂, hlabel₃, hlabel₄, hlabel₅, hlabel₆⟩ := labels_marked
  exact {
    senderID := hlabel₁.occursOnce rfl htxn hsender
    receiverID := hlabel₂.occursOnce rfl hsender hreceiver
    amount := hlabel₃.occursOnce ⟨_, ⟨p.amount.le_toInt, p.amount.toInt_lt⟩, rfl⟩ hreceiver hcurrency
    nonce := hlabel₄.occursOnce rfl hcurrency hnonce
    expiry := hlabel₅.occursOnce ⟨_, hp, rfl⟩ hnonce hdevice
    tokenID := hlabel₆.occursOnce rfl hdevice htoken }

end PaymentIntentPayload

/-! ## A payment of 99 with the signature of a payment of 1 -/

/-- A payment of `alice`. -/
def payTo (receiverID : String) (amount : Int64) (currency : String) : PaymentIntentPayload :=
  ⟨"T", "alice", receiverID, amount, currency, "N", 1000000000000, "phone", "K"⟩

/-- The string of a payment of `alice` to `bob` is the string of this payment only. -/
theorem canonical_binds_iff_bob :
    (payTo "bob" 1 "USD").expiry.Representable ∧
      ∀ q : PaymentIntentPayload, q.expiry.Representable →
        getCanonicalPayloadString q = getCanonicalPayloadString (payTo "bob" 1 "USD") →
        q.Agrees (payTo "bob" 1 "USD") := by
  have hp : (payTo "bob" 1 "USD").expiry.Representable := ⟨by decide, by decide⟩
  exact ⟨hp, (PaymentIntentPayload.canonical_binds_iff hp).mpr
    (PaymentIntentPayload.unambiguous_of_colonless hp (by decide))⟩

/-- What `alice` signs: 1 to `bob`, in a currency whose name goes on after the first letter. -/
def signedPayment : PaymentIntentPayload := payTo "bob" 1 "x:amt:99:cur:USD"

/-- What is sent: 99 to an account whose name begins with `bob`. -/
def sentPayment : PaymentIntentPayload := payTo "bob:amt:1:cur:x" 99 "USD"

/-- The bank opens the envelope to the payment that is sent and the signature of the one that is
signed. -/
def forger : Externals :=
  .simple fun _ => some ⟨sentPayment, (signedPayment.signedBy "alice-key").deviceSignature⟩

/-- `alice` holds a token of 100, and the other account is there. -/
def forgedDB : DB :=
  ((World.start (E := forger) ()).exec
    (Label.setup ["K"] ++ [.createAccount "bob:amt:1:cur:x" 0 none 0])).db

/-- The call on the envelope, in which nothing fails. -/
def forgedRun : Settlement.Solo forger :=
  (Settlement.Solo.start ⟨"", "", "N", "", "T", ""⟩ 0 forgedDB ()).exec
    (List.replicate 10 { now := 1 })

/-- The two payments have the same canonical string, and the one that `alice` has not signed is
settled. -/
theorem forged_settled :
    getCanonicalPayloadString sentPayment = getCanonicalPayloadString signedPayment ∧
      sentPayment.amount ≠ signedPayment.amount ∧ sentPayment.receiverID ≠ signedPayment.receiverID ∧
      forgedRun.status? = some .settled ∧
      (forgedRun.db.accountBalances.find? "bob:amt:1:cur:x").map AccountBalance.availableBalance
        = some 99 := by
  decide +kernel

end OfflinePay
