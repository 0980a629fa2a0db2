import OfflinePay.Outbox.Replay
import OfflinePay.Properties.Delivery
import OfflinePay.System.Emitters

/-!
# Dead letters

Reference: `internal/outbox/outbox.go`, `ReplayDLQEvent`.

No payload of the program says which stream it is for, so a replayed event never goes back to its
own stream. And two calls that have both read a letter both replay it: nothing but the order of
calls keeps a letter from being replayed twice.
-/

namespace OfflinePay.Outbox

open Tx State

/-! ## Where replayed events go -/

/-- No event of the program says in its payload which stream it belongs to. -/
theorem replayTarget_of_emitted {streamName eventType : String} {payload : Json}
    (h : Emitted streamName eventType payload) :
    replayTarget payload = ("payment.replayed", "PaymentReplayed") := by
  have hempty : stringMember payload "stream_name" = "" := by
    cases h with
    | settled o now =>
      exact stringMember_eq_empty ["txn_id", "sender", "receiver", "amount", "token_id", "settled_at",
        "relay_hops"] (by simp) (by decide)
    | failed env hopCount f =>
      exact stringMember_eq_empty ["txn_id", "status", "reason", "relay_hops"] (by simp) (by decide)
    | issued tok =>
      refine stringMember_eq_empty ["token_id", "owner_id", "value", "expiry", "consumed",
        "consumed_at", "token_signature", "reserved_at", "released_at", "risk_score_at_issue",
        "status"] ?_ (by decide)
      cases tok.consumedAt <;> cases tok.releasedAt <;> simp [Json.optTime]
    | released tok =>
      exact stringMember_eq_empty ["token_id", "owner_id", "amount"] (by simp) (by decide)
    | diagnosed recoveryID d c =>
      exact stringMember_eq_empty ["recovery_id", "action", "reason", "classification"] (by simp)
        (by decide)
    | retry op attempts | review op attempts =>
      exact stringMember_eq_empty ["recovery_id", "txn_id", "action", "attempt", "idempotency_key"]
        (by simp) (by decide)
  rw [replayTarget, hempty]
  rfl

theorem emitted_ne_replayed {streamName eventType : String} {payload : Json}
    (h : Emitted streamName eventType payload) :
    streamName ≠ "payment.replayed" ∧ eventType ≠ "PaymentReplayed" := by
  cases h <;> exact ⟨by decide, by decide⟩

/-- Whatever event the program has written, when its dead letter is replayed the new row has its
payload, and neither its stream nor its type. -/
theorem replay_never_restores {E : Externals} {w : World E} (hw : Reached w) {ev : OutboxEvent}
    (hev : ev ∈ w.db.outboxEvents) {ι : Type} [DecidableEq ι] [Fintype ι] {maxRetries : ℕ}
    (hmax : 1 ≤ maxRetries) (ls : List (Label ι)) {s : State ι} (hs : s = exec maxRetries start ls)
    {ev' : OutboxEvent} (hev' : ev' ∈ s.inserted)
    (hsame : ev'.streamName = ev.streamName ∧ ev'.eventType = ev.eventType ∧ ev'.payload = ev.payload)
    {d : DeadLetterEvent} (hd : d ∈ s.letters ev'.eventID) :
    ∃ store' row, replayDLQEvent d.eventID s.store = .ok ((), store') ∧
      s.store.outboxEvents.find? row.eventID = none ∧
      store'.outboxEvents = s.store.outboxEvents.insert row ∧ row.payload = ev.payload ∧
      row.streamName ≠ ev.streamName ∧ row.eventType ≠ ev.eventType := by
  have hsound : Sound maxRetries s := hs ▸ Sound.exec hmax ls
  have hemitted := hw.outboxed.emitted ev hev
  -- the letter has the payload of the event, and is still there
  have hletter : d.payload = ev.payload ∧ s.store.deadLetterEvents.find? d.eventID = some d := by
    obtain ⟨p, hp, rfl⟩ := List.mem_map.mp hd
    refine ⟨?_, hsound.letters p (List.mem_filter.mp hp).1⟩
    cases hsound.account ev'.eventID with
    | free _ _ hnew => exact absurd rfl (hnew ev' hev')
    | live _ _ _ _ _ _ _ hletters => simp [hletters] at hd
    | @dead ev₀ d₀ _ _ hev₀ _ hletters hpayload =>
      obtain rfl := (hev₀ ev').mp ⟨hev', rfl⟩
      obtain rfl : p.2 = d₀ := by simpa [hletters] using hd
      exact hpayload.trans hsame.2.2
  have htarget := replayTarget_of_emitted hemitted
  rw [← hletter.1] at htarget
  have hfree : s.store.outboxEvents.find? s.store.nextOutboxID = none := by
    cases hsound.account s.store.nextOutboxID with
    | free _ hrow | dead _ hrow => exact hrow
    | live hlt => exact absurd hlt (lt_irrefl _)
  refine ⟨_, s.store.newRow "payment.replayed" "PaymentReplayed" d.payload,
    bind_ok.mpr ⟨d, _, select_ok.mpr ⟨hletter.2, rfl⟩, bind_ok.mpr ⟨(), _, check_ok.mpr ⟨?_, rfl⟩,
      bind_ok.mpr ⟨(), _, write_ok.mpr rfl, write_ok.mpr rfl⟩⟩⟩, hfree, ?_, hletter.1, ?_, ?_⟩
  · rw [htarget]
    decide
  · simp only [Store.deleteDeadLetterEvent, Store.replayed, Store.createOutboxEvent, htarget]
  · exact Ne.symm (emitted_ne_replayed hemitted).1
  · exact Ne.symm (emitted_ne_replayed hemitted).2

/-- A bank that has issued one token. -/
def tokenIssued : World (.simple fun _ => none) :=
  (World.start ()).exec
    [.createAccount "alice" 1000 none 0, .issueToken "alice" 100 1000000000000 "tok" {} 0]

/-- The stream and the type that an event comes back with, after Redis has refused it five times. -/
def replayedTo (ev : OutboxEvent) : Option (String × String) :=
  let s := exec 5 start (redisDown ev.streamName ev.eventType ev.payload 5)
  match replayDLQEvent 1 s.store with
  | .ok (_, store') => (store'.outboxEvents.find? s.store.nextOutboxID).map fun row =>
      (row.streamName, row.eventType)
  | .error _ => none

/-- The event of the token is replayed to a stream that nobody reads. -/
theorem issued_token_replayed_elsewhere :
    (tokenIssued.db.outboxEvents.map fun ev => ((ev.streamName, ev.eventType), replayedTo ev))
      = [(("token.issued", "TokenIssued"), some ("payment.replayed", "PaymentReplayed"))] := by
  decide +kernel

/-- The event of the token. -/
def tokenEvent : OutboxEvent := tokenIssued.db.outboxEvents.get ⟨0, by decide +kernel⟩

/-- The event of the token, refused twice by a worker that tries twice. -/
theorem replay_never_restores_tokenIssued :
    let s := exec 2 start (redisDown tokenEvent.streamName tokenEvent.eventType tokenEvent.payload 2)
    tokenEvent ∈ tokenIssued.db.outboxEvents ∧ ∃ d ∈ s.letters 1, ∃ store' row,
      replayDLQEvent d.eventID s.store = .ok ((), store') ∧
      store'.outboxEvents = s.store.outboxEvents.insert row ∧
      row.streamName ≠ tokenEvent.streamName ∧ row.eventType ≠ tokenEvent.eventType := by
  intro s
  have hreached : Reached tokenIssued :=
    (Reached.initial (World.start_initial (E := .simple fun _ => none) ())).exec _
  have hev : tokenEvent ∈ tokenIssued.db.outboxEvents := List.get_mem _ _
  -- the worker's rounds leave the row of the first move where it is among the inserted ones
  have hinserted : (Store.newRow start.store tokenEvent.streamName tokenEvent.eventType
      tokenEvent.payload).toOutboxEvent ∈ s.inserted :=
    inserted_exec 2 (start.step 2 (.insert _ _ _)) (List.mem_singleton_self _) _
  have hletters : (s.letters 1).length = 1 := by decide +kernel
  obtain ⟨d, hd⟩ := List.length_eq_one_iff.mp hletters
  have hmem : d ∈ s.letters 1 := hd ▸ List.mem_singleton_self d
  obtain ⟨store', row, hok, _, hins, _, hstream, htype⟩ :=
    replay_never_restores hreached hev (by decide) _ rfl hinserted ⟨rfl, rfl, rfl⟩ hmem
  exact ⟨hev, d, hmem, store', row, hok, hins, hstream, htype⟩

/-! ## How often a letter is replayed -/

/-- The two calls that a dead letter is given to. -/
inductive ReplayCall where
  | replayDLQEvent
  | deleteDeadLetterEvent
  deriving DecidableEq

/-- Where the call begins. -/
def ReplayCall.begin : ReplayCall → ReplayPc
  | replayDLQEvent => .read
  | deleteDeadLetterEvent => .remove

namespace Replays

variable {ι : Type} [DecidableEq ι] {s s' : Replays ι} {i : ι}

/-- At most one row comes from the letter, and none from a call that read after it was gone. -/
def Once (s : Replays ι) : Prop := s.created.length ≤ 1 ∧ ∀ i ∈ s.late, i ∉ s.created

/-- Nobody has the letter in hand when a call reads it. -/
def Apart (s : Replays ι) (move : ι × Option GoError) : Prop :=
  s.calls move.1 = .read → ∀ j, (s.calls j).isOpen = false

/-- What calls that read apart from each other keep. -/
structure Single (s : Replays ι) : Prop where
  alone : ∀ i j, (s.calls i).isOpen → (s.calls j).isOpen → i = j
  gone : s.created ≠ [] → s.letter = none ∧ ∀ i, (s.calls i).isOpen = false
  length : s.created.length ≤ 1
  deleting : ∀ i dlq, s.calls i = .commit dlq → s.deleter = some i ∨ s.letter = none
  returned : ∀ i, i ∈ s.created ∨ i ∈ s.late → s.calls i = .returned
  missed : ∀ i ∈ s.late, i ∉ s.created

theorem letter_committed (s : Replays ι) (i : ι) (dlq : DeadLetterEvent) :
    (s.committed i dlq).deadLetterEvents.find? s.id
      = if s.deleter = some i then none else s.letter := by
  unfold committed
  split
  · exact (Table.find?_erase _ _ _).trans (if_pos rfl)
  · rfl

theorem Single.step {fault : Option GoError} (h : Single s) (hapart : Apart s (i, fault))
    (hmoved : Moved s i s') : Single s' := by
  obtain ⟨halone, hgone, hlength, hdeleting, hreturned, hmissed⟩ := h
  cases hmoved with
  | stay => exact ⟨halone, hgone, hlength, hdeleting, hreturned, hmissed⟩
  | quit | late | insert | delete | rollback =>
    constructor <;> grind [goto, letter, ReplayPc.isOpen]
  | read dlq hi =>
    have hclosed := hapart hi
    constructor <;> grind [goto, letter, ReplayPc.isOpen]
  | commit dlq hi =>
    -- the call is open, so nothing has been created yet, and the letter goes with its row
    have hopen : (s.calls i).isOpen = true := by rw [hi]; rfl
    have hfirst : s.created = [] := by
      by_contra hne
      simp [(hgone hne).2 i] at hopen
    have hletter := letter_committed s i dlq
    constructor <;> grind [goto, letter, ReplayPc.isOpen]
  | remove =>
    have hletter : (s.store.deleteDeadLetterEvent s.id).deadLetterEvents.find? s.id = none :=
      (Table.find?_erase _ _ _).trans (if_pos rfl)
    constructor <;> grind [goto, letter, ReplayPc.isOpen]

/-- When every call reads apart from the others, the letter is replayed at most once. -/
theorem once_of_apart (id : ℕ) (store : Store) (calls : ι → ReplayCall)
    (moves : List (ι × Option GoError))
    (hapart : Run.Steps step Apart (start id store fun i => (calls i).begin) moves) :
    Once ((start id store fun i => (calls i).begin).exec moves) := by
  have hclosed (i : ι) : ((calls i).begin).isOpen = false := by cases calls i <;> rfl
  have hstart : Single (start id store fun i => (calls i).begin) := by
    refine ⟨fun i j hi => ?_, fun h => absurd rfl h, Nat.zero_le 1, fun i dlq hi => ?_, ?_, ?_⟩
    · exact absurd hi (by simp [start, hclosed])
    · have hi : (calls i).begin = .commit dlq := hi
      cases hcall : calls i <;> simp [hcall, ReplayCall.begin] at hi
    all_goals simp [start]
  have hsingle := Run.exec_invariant (I := Single)
    (fun s move h hmove => h.step hmove (step_moved s move.1 move.2)) hstart hapart
  exact ⟨hsingle.length, hsingle.missed⟩

/-- Only calls of `ReplayDLQEvent` read the letter. -/
def ReadByReplays (calls : ι → ReplayCall) (s : Replays ι) : Prop :=
  ∀ i, s.calls i = .read ∨ (s.calls i).isOpen → calls i = .replayDLQEvent

theorem ReadByReplays.step {calls : ι → ReplayCall} (h : ReadByReplays calls s)
    (hmoved : Moved s i s') : ReadByReplays calls s' := by
  unfold ReadByReplays at h ⊢
  cases hmoved <;> grind [goto, ReplayPc.isOpen]

/-- A replay that is the only one reads apart from the others. -/
theorem apart_of_single (id : ℕ) (store : Store) (calls : ι → ReplayCall)
    (hsingle : ∀ i j, calls i = .replayDLQEvent → calls j = .replayDLQEvent → i = j)
    (moves : List (ι × Option GoError)) :
    Run.Steps step Apart (start id store fun i => (calls i).begin) moves := by
  refine Run.steps_of_invariant (I := ReadByReplays calls) (fun s move h _ => ?_) (fun i => ?_)
    (Run.steps_true _ moves)
  · refine ⟨h.step (step_moved s move.1 move.2), fun hread j => ?_⟩
    by_contra hopen
    rw [Bool.not_eq_false] at hopen
    obtain rfl := hsingle _ j (h _ (.inl hread)) (h j (.inr hopen))
    rw [hread] at hopen
    cases hopen
  · cases hcall : calls i <;> simp [start, hcall, ReplayCall.begin, ReplayPc.isOpen]

/-- The letter cannot be inserted as an event, whoever has read it. -/
structure Unfit (s : Replays ι) : Prop where
  letter : ∀ dlq, s.letter = some dlq → checkTarget (replayTarget dlq.payload) ≠ none
  calls : ∀ i dlq, (s.calls i = .insert dlq → checkTarget (replayTarget dlq.payload) ≠ none) ∧
    s.calls i ≠ .delete dlq ∧ s.calls i ≠ .commit dlq
  created : s.created = []

theorem Unfit.step (h : Unfit s) (hmoved : Moved s i s') : Unfit s' := by
  obtain ⟨hletter, hcalls, hcreated⟩ := h
  cases hmoved with
  | stay => exact ⟨hletter, hcalls, hcreated⟩
  | quit | late | read => constructor <;> grind [goto, Replays.letter]
  | insert dlq hi hfits => exact absurd hfits ((hcalls i dlq).1 hi)
  | delete dlq _ hi => exact absurd hi (hcalls i dlq).2.1
  | rollback dlq hi | commit dlq hi => exact absurd hi (hcalls i dlq).2.2
  | remove =>
    have hgone : (s.store.deleteDeadLetterEvent s.id).deadLetterEvents.find? s.id = none :=
      (Table.find?_erase _ _ _).trans (if_pos rfl)
    constructor <;> grind [goto, Replays.letter]

/-- A letter that cannot be inserted as an event leaves no row. -/
theorem once_of_unfit (id : ℕ) (store : Store) (calls : ι → ReplayCall)
    (moves : List (ι × Option GoError))
    (hunfit : ∀ dlq, store.deadLetterEvents.find? id = some dlq →
      checkTarget (replayTarget dlq.payload) ≠ none) :
    Once ((start id store fun i => (calls i).begin).exec moves) := by
  have hstart : Unfit (start id store fun i => (calls i).begin) := by
    refine ⟨hunfit, fun i dlq => ?_, rfl⟩
    cases hcall : calls i <;> simp [start, hcall, ReplayCall.begin]
  have hunfit := Run.exec_invariant (I := Unfit)
    (fun s move h _ => h.step (step_moved s move.1 move.2)) hstart (Run.steps_true _ moves)
  simp [Once, hunfit.created]

/-- A call that has read the letter makes its row, whatever has become of the letter. -/
theorem exec_finish (s : Replays ι) (i : ι) {dlq : DeadLetterEvent} (hi : s.calls i = .insert dlq)
    (hfits : checkTarget (replayTarget dlq.payload) = none) (hfree : s.deleter = none) :
    (s.exec (List.replicate 3 (i, none))).created = s.created ++ [i] ∧
    (s.exec (List.replicate 3 (i, none))).deleter = none ∧
    ∀ j, j ≠ i → (s.exec (List.replicate 3 (i, none))).calls j = s.calls j := by
  cases hletter : s.store.deadLetterEvents.find? s.id with
  | none => simp +contextual [List.replicate, step, goto, hi, hfits, hfree, hletter]
  | some _ => simp +contextual [List.replicate, step, goto, hi, hfits, hfree, hletter]

/-- Every interleaving of calls on a letter replays it at most once exactly when only one of them is
a replay, or the letter cannot be replayed at all. -/
theorem replayed_once_iff (id : ℕ) (store : Store) (calls : ι → ReplayCall) :
    (∀ moves, Once ((start id store fun i => (calls i).begin).exec moves)) ↔
    ((∃ dlq, store.deadLetterEvents.find? id = some dlq ∧
        checkTarget (replayTarget dlq.payload) = none) →
      ∀ i j, calls i = .replayDLQEvent → calls j = .replayDLQEvent → i = j) := by
  constructor
  · rintro honce ⟨dlq, hletter, hfits⟩ i j hi hj
    by_contra hij
    -- both read the letter before one of them deletes it
    let s := (start id store fun i => (calls i).begin).exec [(i, none), (j, none)]
    have hsi : s.calls i = .insert dlq := by
      simp [s, start, step, hi, hj, ReplayCall.begin, hletter, Ne.symm hij, goto, hij]
    have hsj : s.calls j = .insert dlq := by
      simp [s, start, step, hi, hj, ReplayCall.begin, hletter, Ne.symm hij, goto]
    have hs : s.created = [] ∧ s.deleter = none := by
      simp [s, start, step, hi, hj, ReplayCall.begin, hletter, Ne.symm hij, goto]
    obtain ⟨hcreated, hfree, hcalls⟩ := exec_finish s i hsi hfits hs.2
    obtain ⟨hcreated', _⟩ := exec_finish (s.exec (List.replicate 3 (i, none))) j
      ((hcalls j (Ne.symm hij)).trans hsj) hfits hfree
    have hlength := (honce ([(i, none), (j, none)] ++
      (List.replicate 3 (i, none) ++ List.replicate 3 (j, none)))).1
    rw [exec, Run.exec_append, Run.exec_append, hcreated', hcreated, hs.1] at hlength
    exact absurd hlength (by simp)
  · intro hsingle moves
    by_cases hfit : ∃ dlq, store.deadLetterEvents.find? id = some dlq ∧
        checkTarget (replayTarget dlq.payload) = none
    · exact once_of_apart id store calls moves (apart_of_single id store calls (hsingle hfit) moves)
    · exact once_of_unfit id store calls moves fun dlq hletter hfits => hfit ⟨dlq, hletter, hfits⟩

/-- Two calls for the letter of the issued token: both read it, then one commits after the other. -/
def bothRead : Replays (Fin 2) :=
  (start 1 (State.exec 5 State.start (redisDown tokenEvent.streamName tokenEvent.eventType
    tokenEvent.payload 5)).store fun _ => ReplayCall.replayDLQEvent.begin).exec
    [(0, none), (1, none), (0, none), (0, none), (0, none), (1, none), (1, none), (1, none)]

/-- Each of them leaves a row. -/
theorem letter_replayed_twice :
    ¬bothRead.Once ∧ (bothRead.store.outboxEvents.rows.map (·.eventID)) = [2, 3] := by
  have h : bothRead.created.length = 2 ∧
      (bothRead.store.outboxEvents.rows.map (·.eventID)) = [2, 3] := by decide +kernel
  exact ⟨fun honce => absurd honce.1 (by simp [h.1]), h.2⟩

end Replays

end OfflinePay.Outbox
