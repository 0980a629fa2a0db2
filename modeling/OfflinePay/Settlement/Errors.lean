import OfflinePay.Settlement.Settle

/-!
# Errors of the settlement saga

Reference: `internal/settlement/service.go`, the error classification of `Service.Settle`;
`internal/saga/saga.go`, `Execute`.

`Settle` tells a duplicate from other failures by `sql.ErrNoRows` and by phrases in the text of the
error that the saga returns, which is the error of the step behind a prefix. The prefixes end in a
colon and no phrase has one, so they neither add nor hide a phrase (`looksDuplicate_wrap`). The
lemmas on the steps say what a step met when its error looks like a duplicate.
-/

namespace OfflinePay

/-! ## Texts -/

theorem prefix_separated {α : Type} {sub as bs : List α} {x : α} (hx : x ∉ sub)
    (h : sub <+: as ++ x :: bs) : sub <+: as := by
  obtain ⟨t, h⟩ := h
  obtain ⟨rest, hsub, -⟩ | ⟨rest, hsub, hrest⟩ := List.append_eq_append_iff.mp h
  · exact ⟨rest, hsub.symm⟩
  · cases rest with
    | nil => exact ⟨[], by simpa using hsub⟩
    | cons y rest =>
      rw [List.cons_append, List.cons.injEq] at hrest
      rw [hsub, hrest.1] at hx
      simp at hx

/-- What has no `x` in it stands in one of the parts that `x` separates. -/
theorem infix_separated {α : Type} {sub as bs : List α} {x : α} (hx : x ∉ sub) :
    sub <:+: as ++ x :: bs ↔ sub <:+: as ∨ sub <:+: bs := by
  constructor
  · intro h
    induction as with
    | nil =>
      obtain h | h := List.infix_cons_iff.mp h
      · exact .inl (prefix_separated hx (show sub <+: [] ++ x :: bs from h)).isInfix
      · exact .inr h
    | cons a as ih =>
      obtain h | h := List.infix_cons_iff.mp h
      · exact .inl (prefix_separated hx (show sub <+: (a :: as) ++ x :: bs from h)).isInfix
      · exact (ih h).imp_left List.infix_cons
  · rintro (h | h)
    · exact h.trans (List.prefix_append as (x :: bs)).isInfix
    · exact h.trans ((List.suffix_cons x bs).trans (List.suffix_append as (x :: bs))).isInfix

/-- The characters of a text. A literal is `String.ofList` of its characters, so they need not be
decoded. -/
def Spells (s : String) (cs : List Char) : Prop := s.toList = cs

theorem Spells.literal {cs : List Char} : Spells (String.ofList cs) cs := String.toList_ofList

theorem Spells.append {s t : String} {cs ds : List Char} (hs : Spells s cs) (ht : Spells t ds) :
    Spells (s ++ t) (cs ++ ds) := by
  rw [Spells, String.toList_append, hs, ht]

/-- What has nothing of `mid` in it stands before it or behind it. -/
theorem infix_around {α : Type} {sub as mid bs : List α} (hne : mid ≠ [])
    (hmid : ∀ x ∈ mid, x ∉ sub) (h : sub <:+: as ++ (mid ++ bs)) : sub <:+: as ∨ sub <:+: bs := by
  induction mid generalizing as with
  | nil => exact absurd rfl hne
  | cons x mid ih =>
    obtain h | h := (infix_separated (hmid x List.mem_cons_self)).mp h
    · exact .inl h
    · cases mid with
      | nil => exact .inr h
      | cons y mid =>
        have hrest : sub <:+: [] ∨ sub <:+: bs :=
          ih nofun (fun z hz => hmid z (List.mem_cons_of_mem _ hz)) h
        exact .inr (hrest.elim (fun hnil => List.infix_nil.mp hnil ▸ List.nil_infix) id)

/-- The text of a number. -/
structure Decimal (s : String) : Prop where
  ne_nil : s.toList ≠ []
  chars : ∀ c ∈ s.toList, c.isDigit = true ∨ c = '-'

theorem decimal_nat (n : ℕ) : Decimal (toString n) := by
  have htoList : (toString n).toList = Nat.toDigits 10 n := by
    rw [Nat.toString_eq_ofList_toDigits, String.toList_ofList]
  refine ⟨?_, fun c hc => .inl ?_⟩
  · rw [htoList]
    exact List.ne_nil_of_length_pos Nat.length_toDigits_pos
  · rw [htoList] at hc
    exact Nat.isDigit_of_mem_toDigits (by decide) (by decide) hc

theorem decimal_int (n : ℤ) : Decimal (toString n) := by
  cases n with
  | ofNat n => exact decimal_nat n
  | negSucc n =>
    rw [show toString (Int.negSucc n) = "-" ++ toString (n + 1) from rfl]
    refine ⟨by simp [String.toList_append], fun c hc => ?_⟩
    rw [String.toList_append] at hc
    obtain hc | hc := List.mem_append.mp hc
    · exact .inr (by simpa using hc)
    · exact (decimal_nat (n + 1)).chars c hc

namespace Settlement

/-- The phrases by which `Settle` knows a duplicate. -/
def duplicatePhrases : List String :=
  ["nonce_reused", "token state mismatch", "insufficient reserved balance", "duplicate key",
    "unique constraint"]

end Settlement

open Settlement in
/-- `Settle` takes the error for a duplicate. -/
def GoError.looksDuplicate (e : GoError) : Bool :=
  e.noRows || duplicatePhrases.any (containsText e.text)

namespace Settlement

open Tx Repository

theorem sagaFailure_status {err : GoError}
    (htext : err.text ≠ "token_already_consumed_concurrent") :
    (sagaFailure err).status = .duplicate ↔ err.looksDuplicate = true := by
  have hlooks : err.looksDuplicate = true ↔
      (err.noRows = true ∨ containsText err.text "nonce_reused" = true) ∨
      (containsText err.text "token state mismatch" = true ∨
        containsText err.text "insufficient reserved balance" = true) ∨
      containsText err.text "duplicate key" = true ∨ containsText err.text "unique constraint" = true := by
    simp [GoError.looksDuplicate, duplicatePhrases, or_assoc]
  rw [hlooks]
  unfold sagaFailure
  simp only [Bool.or_eq_true, beq_iff_eq, htext, or_false]
  split_ifs with h₁ h₂ h₃
  · exact iff_of_true rfl (.inl h₁)
  · exact iff_of_true rfl (.inr (.inl h₂))
  · exact iff_of_true rfl (.inr (.inr h₃))
  · exact iff_of_false (by simp) fun h => h.elim h₁ fun h => h.elim h₂ h₃

/-- The phrases, spelled. -/
def spelledPhrases : { ps : List (List Char) // List.Forall₂ Spells duplicatePhrases ps } :=
  ⟨_, .cons .literal (.cons .literal (.cons .literal (.cons .literal (.cons .literal .nil))))⟩

/-- A spelled text without phrases. -/
theorem containsText_of_spells {s : String} {cs : List Char} (hs : Spells s cs)
    (hplain : spelledPhrases.1.any (Recovery.contains cs) = false) :
    ∀ phrase ∈ duplicatePhrases, containsText s phrase = false := by
  intro phrase hmem
  obtain ⟨p, hp, hspells⟩ : ∃ p ∈ spelledPhrases.1, Spells phrase p := by
    obtain ⟨i, hi, rfl⟩ := List.mem_iff_getElem.mp hmem
    obtain ⟨hlength, hall⟩ := List.forall₂_iff_get.mp spelledPhrases.2
    exact ⟨_, List.getElem_mem (hlength ▸ hi), hall i hi (hlength ▸ hi)⟩
  rw [containsText, hspells, hs]
  exact Bool.not_eq_true _ ▸ List.any_eq_false.mp hplain p hp

theorem looksDuplicate_of_spells {s : String} {cs : List Char} (hs : Spells s cs)
    (hplain : spelledPhrases.1.any (Recovery.contains cs) = false) :
    GoError.looksDuplicate ⟨s, false⟩ = false := by
  rw [GoError.looksDuplicate, Bool.false_or, List.any_eq_false]
  intro phrase hmem hcontains
  rw [containsText_of_spells hs hplain phrase hmem] at hcontains
  cases hcontains

/-- The text of a violated constraint: the names of the table and of the constraint between three
literals. -/
theorem constraint_looksDuplicate {a b c d e : List Char}
    (hplain : spelledPhrases.1.any (Recovery.contains (a ++ b ++ c ++ d ++ e)) = false) :
    GoError.looksDuplicate ⟨String.ofList a ++ String.ofList b ++ String.ofList c ++ String.ofList d
      ++ String.ofList e, false⟩ = false :=
  looksDuplicate_of_spells
    (.append (.append (.append (.append .literal .literal) .literal) .literal) .literal) hplain

/-- The constraints that the writes of the steps can violate, those on keys aside. -/
def violations : List GoError :=
  [Pg.missingReference "payment_intents" "payment_intents_device_id_fkey",
    Pg.missingReference "payment_intents" "payment_intents_token_id_fkey",
    Pg.checkViolation "account_balances" "account_balances_reserved_balance_check",
    Pg.checkViolation "account_balances" "account_balances_available_balance_check",
    Pg.missingReference "ledger_entries" "ledger_entries_txn_id_fkey",
    Pg.missingReference "ledger_entries" "ledger_entries_account_id_fkey",
    Pg.checkViolation "ledger_entries" "ledger_entries_amount_check",
    Pg.missingReference "payment_events" "payment_events_txn_id_fkey"]

theorem violations_looksDuplicate : ∀ e ∈ violations, e.looksDuplicate = false := by
  simp only [violations, List.forall_mem_cons]
  refine ⟨?_, ?_, ?_, ?_, ?_, ?_, ?_, ?_, List.forall_mem_nil _⟩
  all_goals exact constraint_looksDuplicate (by decide +kernel)

/-- A phrase stands before a colon or behind it. -/
theorem containsText_colon (p t : String) {phrase : String} (h : phrase ∈ duplicatePhrases) :
    containsText (p ++ ": " ++ t) phrase = (containsText p phrase || containsText t phrase) := by
  have hcolon : ':' ∉ phrase.toList :=
    (show ∀ phrase ∈ duplicatePhrases, ':' ∉ phrase.toList by decide) phrase h
  have hhead : ¬phrase.toList <+: ' ' :: t.toList := by
    rintro ⟨rest, hrest⟩
    obtain ⟨hblank, hnil⟩ := (show ∀ phrase ∈ duplicatePhrases,
      phrase.toList.head? ≠ some ' ' ∧ phrase.toList ≠ [] by decide) phrase h
    apply hblank
    rw [← List.head?_append_of_ne_nil _ hnil, hrest, List.head?_cons]
  have htoList : (p ++ ": " ++ t).toList = p.toList ++ ':' :: ' ' :: t.toList := by
    simp [String.toList_append]
  have hblank : phrase.toList <:+: ' ' :: t.toList ↔ phrase.toList <:+: t.toList :=
    List.infix_cons_iff.trans (or_iff_right hhead)
  rw [containsText, containsText, containsText, Recovery.contains, Recovery.contains, Recovery.contains,
    htoList, ← Bool.decide_or, decide_eq_decide, infix_separated hcolon, hblank]

/-- A prefix without phrases changes nothing. -/
theorem looksDuplicate_wrap {p : String}
    (hp : ∀ phrase ∈ duplicatePhrases, containsText p phrase = false)
    (e : GoError) : (e.wrap (p ++ ": ")).looksDuplicate = e.looksDuplicate := by
  have hphrases : duplicatePhrases.any (containsText (p ++ ": " ++ e.text))
      = duplicatePhrases.any (containsText e.text) := by
    rw [Bool.eq_iff_iff, List.any_eq_true, List.any_eq_true]
    refine exists_congr fun phrase => and_congr_right fun hmem => ?_
    rw [containsText_colon p e.text hmem, hp phrase hmem, Bool.false_or]
  rw [GoError.looksDuplicate, GoError.looksDuplicate, GoError.wrap, hphrases]

/-- A number between two literals: no phrase has a digit, so it stands in one of them. -/
theorem number_looksDuplicate {a b : List Char} {s : String} (hs : Decimal s)
    (hplain : (spelledPhrases.1.any (Recovery.contains a) || spelledPhrases.1.any (Recovery.contains b))
      = false) :
    GoError.looksDuplicate ⟨String.ofList a ++ s ++ String.ofList b, false⟩ = false := by
  have hspells : Spells (String.ofList a ++ s ++ String.ofList b) (a ++ s.toList ++ b) :=
    .append (.append .literal rfl) .literal
  refine looksDuplicate_of_spells hspells ?_
  rw [Bool.or_eq_false_iff, List.any_eq_false, List.any_eq_false] at hplain
  rw [List.any_eq_false]
  intro p hp hcontains
  have hchars : ∀ c ∈ s.toList, c ∉ p := by
    intro c hc hmem
    have hphrases : spelledPhrases.1.all (fun p => p.all fun c => !c.isDigit && c != '-') = true := by
      decide
    have hplainChar := List.all_eq_true.mp (List.all_eq_true.mp hphrases p hp) c hmem
    obtain hdigit | rfl := hs.chars c hc
    · simp [hdigit] at hplainChar
    · simp at hplainChar
  rw [Recovery.contains, decide_eq_true_eq, List.append_assoc] at hcontains
  obtain h | h := infix_around hs.ne_nil hchars hcontains
  · exact hplain.1 p hp (decide_eq_true h)
  · exact hplain.2 p hp (decide_eq_true h)

theorem valueTooLong_looksDuplicate (n : ℕ) : (Pg.valueTooLong n).looksDuplicate = false :=
  number_looksDuplicate (decimal_nat n) (by decide)

theorem columnError_looksDuplicate (intent : PaymentIntent) :
    intent.columnError.looksDuplicate = false := by
  unfold PaymentIntent.columnError
  split_ifs
  · exact number_looksDuplicate (decimal_int _) (by decide)
  · exact valueTooLong_looksDuplicate 10
  · exact valueTooLong_looksDuplicate 100

/-! ## What a step met -/

section Steps

variable {o : Order} {input : Input} {db : DB} {e : GoError}

theorem lockBalances_error {failed : String → GoError → GoError} {senderID receiverID : String}
    (h : lockBalances failed senderID receiverID db = .error e) :
    ∃ accountID, (accountID = senderID ∨ accountID = receiverID) ∧
      db.accountBalances.find? accountID = none ∧ e = failed accountID .errNoRows := by
  unfold lockBalances at h
  split at h
  all_goals
    simp only [bind_error, mapError_error, mapError_ok, getBalanceForUpdate, select_error, select_ok,
      pure_ne_error, and_false, exists_false, or_false] at h
    rcases h with ⟨_, ⟨hnone, rfl⟩, rfl⟩ | ⟨_, _, ⟨-, rfl⟩, _, ⟨hnone, rfl⟩, rfl⟩
    · exact ⟨_, by simp, hnone, rfl⟩
    · exact ⟨_, by simp, hnone, rfl⟩

/-- An account of the order is missing. -/
def Order.MissesAccount (o : Order) (db : DB) : Prop :=
  db.accountBalances.find? o.payload.senderID = none ∨ db.accountBalances.find? o.payload.receiverID = none

theorem missesAccount_of_lock {failed : String → GoError → GoError}
    (h : lockBalances failed o.payload.senderID o.payload.receiverID db = .error e) :
    o.MissesAccount db := by
  obtain ⟨accountID, rfl | rfl, hnone, -⟩ := lockBalances_error h
  · exact .inl hnone
  · exact .inr hnone

/-- An insert of an intent looks like a duplicate only if it is one. -/
theorem createPaymentIntent_duplicate {intent : PaymentIntent}
    (h : createPaymentIntent intent db = .error e) (hlooks : e.looksDuplicate = true) :
    db.paymentIntents.find? intent.txnID ≠ none := by
  simp only [createPaymentIntent, bind_error, check_error, check_ok, view_ok, view_ne_error, write_ne_error,
    false_or, and_false, exists_false, or_false] at h
  rcases h with ⟨-, rfl⟩ | ⟨_, _, ⟨-, rfl⟩, _, _, ⟨rfl, rfl⟩, ⟨htaken, -⟩ |
    ⟨_, _, ⟨-, rfl⟩, _, _, ⟨rfl, rfl⟩, ⟨-, rfl⟩ | ⟨_, _, ⟨-, rfl⟩, _, _, ⟨rfl, rfl⟩, -, rfl⟩⟩⟩
  · rw [columnError_looksDuplicate] at hlooks
    cases hlooks
  · exact htaken
  · exact absurd hlooks (Bool.eq_false_iff.mp (violations_looksDuplicate _ (by simp [violations])))
  · exact absurd hlooks (Bool.eq_false_iff.mp (violations_looksDuplicate _ (by simp [violations])))

theorem registerNonce_error {nonce txnID : String} {expiry : Time}
    (h : registerNonce nonce txnID expiry db = .error e) :
    (Pg.varchar 100 nonce && Pg.varchar 100 txnID) = false ∨ db.nonceRegistry.find? nonce ≠ none ∨
      db.paymentIntents.find? txnID = none := by
  simp only [registerNonce, bind_error, check_error, check_ok, view_ok, view_ne_error, write_ne_error,
    false_or, and_false, exists_false, or_false] at h
  rcases h with ⟨hfits, -⟩ | ⟨_, _, ⟨-, rfl⟩, _, _, ⟨rfl, rfl⟩, ⟨htaken, -⟩ |
    ⟨_, _, ⟨-, rfl⟩, _, _, ⟨rfl, rfl⟩, hnone, -⟩⟩
  · exact .inl (Bool.not_eq_true _ ▸ hfits)
  · exact .inr (.inl htaken)
  · exact .inr (.inr (not_not.mp hnone))

/-- `RESERVE` looks like a duplicate if an account is missing, the reservation is too small, the
intent or the nonce is taken, or the nonce cannot refer to the envelope's id. -/
theorem reserve_duplicate (h : reserve o input db = .error e) (hlooks : e.looksDuplicate = true) :
    o.MissesAccount db ∨
      (∃ bal, db.accountBalances.find? o.payload.senderID = some bal ∧
        ¬o.token.value ≤ bal.reservedBalance) ∨
      db.paymentIntents.find? o.payload.txnID ≠ none ∨ db.nonceRegistry.find? o.payload.nonce ≠ none ∨
      o.env.txnID ≠ o.payload.txnID ∧
        (Pg.varchar 100 o.env.txnID = false ∨ db.paymentIntents.find? o.env.txnID = none) := by
  simp only [reserve, bind_error, lockBalances_ok, check_ok, check_error, mapError_error, mapError_ok,
    createPaymentIntent_ok] at h
  rcases h with h | ⟨bals, _, ⟨hs, -, rfl⟩, ⟨hlt, -⟩ | ⟨_, _, ⟨-, rfl⟩, ⟨e, h, rfl⟩ |
    ⟨_, _, ⟨hfits, hfree, -, -, rfl⟩, e, hn, rfl⟩⟩⟩
  · exact .inl (missesAccount_of_lock h)
  · exact .inr (.inl ⟨_, hs, hlt⟩)
  · have hsame := looksDuplicate_wrap (p := "failed to create reservation intent") (by decide) e
    exact .inr (.inr (.inl (createPaymentIntent_duplicate h (hsame.symm.trans hlooks))))
  · refine .inr (.inr (.inr ?_))
    obtain hunfit | htaken | hnone := registerNonce_error hn
    · -- the intent under the payload's id and with the nonce was just inserted
      simp only [PaymentIntent.columnsFit, Order.reservedIntent, Bool.and_eq_true] at hfits
      rw [show Pg.varchar 100 o.payload.nonce = true from hfits.1.1.1.1.2, Bool.true_and] at hunfit
      refine .inr ⟨fun heq => ?_, .inl hunfit⟩
      rw [heq, show Pg.varchar 100 o.payload.txnID = true from hfits.1.1.1.1.1.1.1.1] at hunfit
      cases hunfit
    · exact .inl htaken
    · have hfind := Table.find?_insert (r := (o.reservedIntent input.now).stored) hfree o.env.txnID
      rw [hfind] at hnone
      split at hnone
      · cases hnone
      · next hne => exact .inr ⟨Ne.symm hne, .inr hnone⟩

/-- The token of the order is missing. -/
def Order.MissesToken (o : Order) (db : DB) : Prop :=
  db.offlineTokens.find? o.payload.tokenID = none

/-- `CONSUME_TOKEN` fails if the token is missing or not issued. -/
theorem hold_error (h : hold o input db = .error e) : o.MissesToken db ∨
    ∃ tok, db.offlineTokens.find? o.payload.tokenID = some tok ∧ tok.status ≠ .issued := by
  simp only [hold, bind_error, getTokenForUpdate_ok, check_ok, check_error] at h
  rcases h with h | ⟨tok, _, ⟨htok, rfl⟩, ⟨hstatus, -⟩ | ⟨_, _, ⟨hstatus, rfl⟩, h⟩⟩
  · exact .inl (select_error.mp h).1
  · exact .inr ⟨tok, htok, hstatus⟩
  · -- an issued token can be held
    simp only [holdToken, updateToken, bind_error, select_error, select_ok, check_error, write_ne_error,
      and_false, exists_false, or_false] at h
    rcases h with ⟨hnone, -⟩ | ⟨tok', _, ⟨htok', rfl⟩, hinvalid, -⟩
    · exact .inl hnone
    · rw [htok] at htok'
      rw [← Option.some.inj htok', hstatus] at hinvalid
      exact absurd rfl hinvalid

theorem consumeToken_duplicate {tokenID : String} {now : Time}
    (h : consumeToken tokenID now db = .error e) (hlooks : e.looksDuplicate = true) :
    db.offlineTokens.find? tokenID = none := by
  simp only [consumeToken, updateToken, bind_error, select_error, check_error, write_ne_error, and_false,
    exists_false, or_false] at h
  rcases h with ⟨hnone, -⟩ | ⟨tok, _, -, -, rfl⟩
  · exact hnone
  · refine absurd hlooks (Bool.eq_false_iff.mp ?_)
    cases tok.status <;> exact looksDuplicate_of_spells
      (.append (.append (.append .literal .literal) .literal) .literal) (by decide)

theorem updateBalance_duplicate {accountID : String} {available reserved : Int64} {now : Time}
    (h : updateBalance accountID available reserved now db = .error e) :
    e.looksDuplicate = false := by
  unfold updateBalance at h
  split at h
  · cases h
  · split_ifs at h
    all_goals
      obtain rfl := Except.error.inj h
      exact violations_looksDuplicate _ (by simp [violations])

theorem createLedgerEntry_duplicate {txnID accountID : String} {direction : Direction}
    {amount : Int64} {entryType : EntryType} {balanceAfter : Int64}
    (h : createLedgerEntry txnID accountID direction amount entryType balanceAfter db = .error e) :
    e.looksDuplicate = false := by
  unfold createLedgerEntry at h
  split_ifs at h
  all_goals obtain rfl := Except.error.inj h
  · exact valueTooLong_looksDuplicate 100
  · exact violations_looksDuplicate _ (by simp [violations])
  · exact violations_looksDuplicate _ (by simp [violations])
  · exact violations_looksDuplicate _ (by simp [violations])

/-- `LEDGER_COMMIT` looks like a duplicate if the token or an account is missing. -/
theorem commitLedger_duplicate (h : commitLedger o input db = .error e)
    (hlooks : e.looksDuplicate = true) : o.MissesToken db ∨ o.MissesAccount db := by
  have hnot : e.looksDuplicate ≠ false := by rw [hlooks]; decide
  simp only [commitLedger, bind_error, lockBalances_ok] at h
  rcases h with h | ⟨_, db₁, hconsume, h | ⟨bals, _, -, h | ⟨_, _, -, h | ⟨_, _, -, h |
    ⟨_, _, -, h | ⟨_, _, -, h | ⟨_, _, -, h⟩⟩⟩⟩⟩⟩⟩
  · exact .inl (consumeToken_duplicate h hlooks)
  · have hmisses : o.MissesAccount db₁ := missesAccount_of_lock h
    obtain ⟨tok, -, -, rfl⟩ := updateToken_ok.mp hconsume
    exact .inr hmisses
  · exact absurd (updateBalance_duplicate h) hnot
  · exact absurd (updateBalance_duplicate h) hnot
  · exact absurd h write_ne_error
  · exact absurd (createLedgerEntry_duplicate h) hnot
  · exact absurd (createLedgerEntry_duplicate h) hnot
  · exact absurd (createLedgerEntry_duplicate h) hnot

theorem createPaymentEvent_duplicate {txnID eventType : String} {eventVersion : ℕ} {payload : Json}
    {now : Time} (h : createPaymentEvent txnID eventType eventVersion payload now db = .error e) :
    e.looksDuplicate = false := by
  simp only [createPaymentEvent, bind_error, check_error, view_ne_error, write_ne_error, false_or,
    and_false, exists_false, or_false] at h
  rcases h with ⟨-, rfl⟩ | ⟨_, _, -, _, _, -, -, rfl⟩
  · exact valueTooLong_looksDuplicate 100
  · exact violations_looksDuplicate _ (by simp [violations])

/-- `PUBLISH` never looks like a duplicate. -/
theorem publish_duplicate (h : publish o input db = .error e) : e.looksDuplicate = false := by
  simp only [publish, createAuditEvent, createOutboxEvent, bind_error, check_error, view_ne_error,
    write_ne_error, false_or, and_false, exists_false, or_false] at h
  rcases h with ⟨-, rfl⟩ | ⟨_, _, -, _, _, -, _, _, -, h⟩
  · exact valueTooLong_looksDuplicate 100
  · split at h
    · obtain ⟨cause, hcause, rfl⟩ := mapError_error.mp h
      rw [show "failed to save versioned event: " = "failed to save versioned event" ++ ": " from rfl,
        looksDuplicate_wrap (by decide)]
      exact createPaymentEvent_duplicate hcause
    · exact absurd h pure_ne_error

theorem createSagaState_duplicate {txnID : String} (h : createSagaState txnID db = .error e) :
    e.looksDuplicate = false := by
  obtain ⟨-, rfl⟩ := check_error.mp h
  exact valueTooLong_looksDuplicate 100

end Steps

end Settlement

end OfflinePay
