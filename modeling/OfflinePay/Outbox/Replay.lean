import OfflinePay.Domain.Unmarshal
import OfflinePay.Outbox.Worker

/-!
# Replaying dead letters

Reference: `internal/outbox/outbox.go`, `ReplayDLQEvent`; `internal/repository/repository.go`,
`GetDeadLetterEvent` and `DeleteDeadLetterEvent`.

A dead letter keeps the payload of its event and neither the stream nor the type; `ReplayDLQEvent`
looks for them in the payload. `replayDLQEvent` is the call as one transaction.

Its read goes through another connection, without a lock, and the row count of its delete is not
looked at. What calls on the same letter do to each other is the business of `Replays`, where every
statement is a move of its own. A delete that meets a row deleted by an open transaction waits for
it, and a read sees what is committed.
-/

namespace OfflinePay.Outbox

open Tx
open Json (matchesName)

/-! ## Where a dead letter goes -/

/-- A string field after `json.Unmarshal`, with its error ignored: the last string under the name.
The program writes no timestamp under the names that are asked for. -/
def stringMember (payload : Json) (name : String) : String :=
  match payload with
  | .obj fields => fields.foldl (fun value member =>
      if matchesName member.1 name then
        match member.2 with
        | .str s => s
        | _ => value
      else value) ""
  | _ => ""

/-- The stream and the type of the replayed event. -/
def replayTarget (payload : Json) : String × String :=
  let streamName := stringMember payload "stream_name"
  if streamName = "" then ("payment.replayed", "PaymentReplayed")
  else (streamName, stringMember payload "event_type")

/-- A payload without a member of this name leaves the field empty. -/
theorem stringMember_eq_empty {fields : List (String × Json)} {name : String} (names : List String)
    (hfields : ∀ member ∈ fields, member.1 ∈ names)
    (hnames : ∀ member ∈ names, matchesName member name = false) :
    stringMember (.obj fields) name = "" := by
  unfold stringMember
  dsimp only
  induction fields with
  | nil => rfl
  | cons member fields ih =>
    rw [List.foldl_cons, hnames _ (hfields member List.mem_cons_self)]
    exact ih fun member' hmember => hfields member' (List.mem_cons_of_mem _ hmember)

/-! ## One call -/

/-- The error of an insert whose columns do not fit. -/
def checkTarget (target : String × String) : Option GoError :=
  if Pg.varchar 100 target.1 && Pg.varchar 100 target.2 then none else some (Pg.valueTooLong 100)

/-- The outbox row that the replay of a letter makes. -/
def Store.replayed (store : Store) (dlq : DeadLetterEvent) : Store :=
  let target := replayTarget dlq.payload
  store.createOutboxEvent target.1 target.2 dlq.payload

/-- `DELETE FROM dead_letter_events WHERE event_id = $1`. -/
def Store.deleteDeadLetterEvent (store : Store) (id : ℕ) : Store :=
  { store with deadLetterEvents := store.deadLetterEvents.erase id }

/-- `ReplayDLQEvent`. -/
def replayDLQEvent (eventID : ℕ) : StoreTx Unit := do
  let dlq ← select (fun store => store.deadLetterEvents.find? eventID) .errNoRows
  check (checkTarget (replayTarget dlq.payload) = none) (Pg.valueTooLong 100)
  write fun store => store.replayed dlq
  write fun store => store.deleteDeadLetterEvent eventID

/-! ## Calls on the same letter -/

/-- Where a call on the letter stands. -/
inductive ReplayPc where
  /-- `ReplayDLQEvent`, before its read. -/
  | read
  /-- It has read the letter and is about to insert the row. -/
  | insert (dlq : DeadLetterEvent)
  /-- It has inserted the row and is about to delete the letter. -/
  | delete (dlq : DeadLetterEvent)
  /-- It is about to commit. -/
  | commit (dlq : DeadLetterEvent)
  /-- `DeleteDeadLetterEvent`, before its statement. -/
  | remove
  | returned

/-- The call has read the letter, and its transaction is open. -/
def ReplayPc.isOpen : ReplayPc → Bool
  | insert _ | delete _ | commit _ => true
  | read | remove | returned => false

/-- Calls on the letter with one id. `deleter` is the open transaction that has deleted the letter.
`created` records the calls whose row was committed, and `late` those that read after the letter was
gone; neither is part of the program. -/
structure Replays (ι : Type) where
  id : ℕ
  store : Store
  deleter : Option ι
  calls : ι → ReplayPc
  created : List ι
  late : List ι

namespace Replays

variable {ι : Type} [DecidableEq ι]

/-- The call goes on. -/
def goto (s : Replays ι) (i : ι) (pc : ReplayPc) : Replays ι :=
  { s with calls := Function.update s.calls i pc }

@[simp, grind =]
theorem calls_goto (s : Replays ι) (i j : ι) (pc : ReplayPc) :
    (s.goto i pc).calls j = if j = i then pc else s.calls j :=
  Function.update_apply _ _ _ _

/-- The next statement of a call; `fault` makes it fail, which rolls the transaction back. A
statement that has to wait does nothing. -/
def step (s : Replays ι) (move : ι × Option GoError) : Replays ι :=
  let (i, fault) := move
  match s.calls i, fault with
  | .read, some _ => s.goto i .returned
  | .read, none =>
    match s.store.deadLetterEvents.find? s.id with
    | some dlq => s.goto i (.insert dlq)
    | none => { s with late := s.late ++ [i] }.goto i .returned
  | .insert _, some _ => s.goto i .returned
  | .insert dlq, none =>
    if checkTarget (replayTarget dlq.payload) = none then s.goto i (.delete dlq)
    else s.goto i .returned
  | .delete _, some _ => s.goto i .returned
  | .delete dlq, none =>
    if s.deleter ≠ none then s
    else if s.store.deadLetterEvents.find? s.id = none then s.goto i (.commit dlq)
    else { s with deleter := some i }.goto i (.commit dlq)
  | .commit _, some _ =>
    { s with deleter := if s.deleter = some i then none else s.deleter }.goto i .returned
  | .commit dlq, none =>
    let store := s.store.replayed dlq
    let s' := if s.deleter = some i then
        { s with store := store.deleteDeadLetterEvent s.id, deleter := none }
      else { s with store }
    { s' with created := s.created ++ [i] }.goto i .returned
  | .remove, some _ => s.goto i .returned
  | .remove, none =>
    if s.deleter ≠ none then s
    else { s with store := s.store.deleteDeadLetterEvent s.id }.goto i .returned
  | .returned, _ => s

/-- The letter as others see it. -/
def letter (s : Replays ι) : Option DeadLetterEvent := s.store.deadLetterEvents.find? s.id

/-- The store after the commit of a call. -/
def committed (s : Replays ι) (i : ι) (dlq : DeadLetterEvent) : Store :=
  if s.deleter = some i then (s.store.replayed dlq).deleteDeadLetterEvent s.id
  else s.store.replayed dlq

/-- Everything a move of a call can do. -/
inductive Moved (s : Replays ι) (i : ι) : Replays ι → Prop where
  | stay : Moved s i s
  | quit (hi : ∀ dlq, s.calls i ≠ .commit dlq) : Moved s i (s.goto i .returned)
  | late (hi : s.calls i = .read) (hletter : s.letter = none) :
      Moved s i ({ s with late := s.late ++ [i] }.goto i .returned)
  | read (dlq : DeadLetterEvent) (hi : s.calls i = .read) (hletter : s.letter = some dlq) :
      Moved s i (s.goto i (.insert dlq))
  | insert (dlq : DeadLetterEvent) (hi : s.calls i = .insert dlq)
      (hfits : checkTarget (replayTarget dlq.payload) = none) : Moved s i (s.goto i (.delete dlq))
  | delete (dlq : DeadLetterEvent) (deleter : Option ι) (hi : s.calls i = .delete dlq)
      (hfree : s.deleter = none) (hdeleter : deleter = some i ∨ deleter = none ∧ s.letter = none) :
      Moved s i ({ s with deleter }.goto i (.commit dlq))
  | rollback (dlq : DeadLetterEvent) (hi : s.calls i = .commit dlq) :
      Moved s i ({ s with deleter := if s.deleter = some i then none else s.deleter }.goto i .returned)
  | commit (dlq : DeadLetterEvent) (hi : s.calls i = .commit dlq) :
      Moved s i ({ s with
        store := s.committed i dlq
        deleter := if s.deleter = some i then none else s.deleter
        created := s.created ++ [i] }.goto i .returned)
  | remove (hi : s.calls i = .remove) (hfree : s.deleter = none) :
      Moved s i ({ s with store := s.store.deleteDeadLetterEvent s.id }.goto i .returned)

theorem step_moved (s : Replays ι) (i : ι) (fault : Option GoError) :
    Moved s i (s.step (i, fault)) := by
  unfold step
  dsimp only
  cases hi : s.calls i with
  | read =>
    cases fault with
    | some _ => exact .quit (by simp [hi])
    | none =>
      cases hletter : s.store.deadLetterEvents.find? s.id with
      | none => exact .late hi hletter
      | some dlq => exact .read dlq hi hletter
  | insert dlq =>
    cases fault with
    | some _ => exact .quit (by simp [hi])
    | none =>
      dsimp only
      split
      · next hfits => exact .insert dlq hi hfits
      · exact .quit (by simp [hi])
  | delete dlq =>
    cases fault with
    | some _ => exact .quit (by simp [hi])
    | none =>
      dsimp only
      split
      · exact .stay
      · next hfree =>
        rw [not_not] at hfree
        split
        · next hletter =>
          have hmoved := Moved.delete (s := s) dlq none hi hfree (.inr ⟨rfl, hletter⟩)
          rwa [← hfree] at hmoved
        · exact .delete dlq (some i) hi hfree (.inl rfl)
  | commit dlq =>
    cases fault with
    | some _ => exact .rollback dlq hi
    | none =>
      have hmoved := Moved.commit dlq hi
      dsimp only
      split
      · next hdeleter => simpa only [committed, if_pos hdeleter] using hmoved
      · next hdeleter => simpa only [committed, if_neg hdeleter] using hmoved
  | remove =>
    cases fault with
    | some _ => exact .quit (by simp [hi])
    | none =>
      dsimp only
      split
      · exact .stay
      · next hfree => exact .remove hi (not_not.mp hfree)
  | returned => exact .stay

/-- No call has begun. -/
def start (id : ℕ) (store : Store) (calls : ι → ReplayPc) : Replays ι :=
  ⟨id, store, none, calls, [], []⟩

/-- The state after a run. -/
abbrev exec (s : Replays ι) (moves : List (ι × Option GoError)) : Replays ι := Run.exec step s moves

/-- A call that runs alone does what its transaction says. -/
theorem exec_alone (s : Replays ι) (i : ι) (hi : s.calls i = .read) (hdeleter : s.deleter = none) :
    (s.exec (List.replicate 4 (i, none))).store = (withTx none (replayDLQEvent s.id) s.store).2 := by
  cases hdlq : s.store.deadLetterEvents.find? s.id with
  | none =>
    have htx : replayDLQEvent s.id s.store = .error .errNoRows :=
      bind_error.mpr (.inl (select_error.mpr ⟨hdlq, rfl⟩))
    simp [List.replicate, step, goto, hi, hdlq, withTx, htx]
  | some dlq =>
    by_cases hfits : checkTarget (replayTarget dlq.payload) = none
    · have htx : replayDLQEvent s.id s.store
          = .ok ((), (s.store.replayed dlq).deleteDeadLetterEvent s.id) :=
        bind_ok.mpr ⟨dlq, _, select_ok.mpr ⟨hdlq, rfl⟩, bind_ok.mpr ⟨(), _, check_ok.mpr ⟨hfits, rfl⟩,
          bind_ok.mpr ⟨(), _, write_ok.mpr rfl, write_ok.mpr rfl⟩⟩⟩
      simp [List.replicate, step, goto, hi, hdlq, hdeleter, hfits, withTx, htx]
    · have htx : replayDLQEvent s.id s.store = .error (Pg.valueTooLong 100) :=
        bind_error.mpr (.inr ⟨dlq, _, select_ok.mpr ⟨hdlq, rfl⟩,
          bind_error.mpr (.inl (check_error.mpr ⟨hfits, rfl⟩))⟩)
      simp [List.replicate, step, goto, hi, hdlq, hfits, withTx, htx]

end Replays

end OfflinePay.Outbox
