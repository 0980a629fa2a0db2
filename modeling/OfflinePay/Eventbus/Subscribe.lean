import OfflinePay.Outbox.Worker

/-!
# The loop that reads a stream

Reference: `internal/eventbus/eventbus.go`, `Publish`, `Subscribe`, `shouldAcknowledgeMessage` and
`readMessageValue`.

A consumer reads up to ten messages that were never delivered to its group, hands them to its
handler one by one and acknowledges those that the handler took. Of the stream the model keeps the
messages up to the last one delivered apart from those after it, and the list of pending ones:
`XREADGROUP` with `>` moves messages from `waiting` to `delivered` and makes them pending, and
`XACK` takes one off the list. The label of a move says what the handler and Redis answer.
-/

namespace OfflinePay.Eventbus

open Outbox (Reply)

/-! ## Messages -/

/-- A value of `XMessage.Values`; a value that is neither a string nor bytes is given as
`fmt.Sprint` prints it. -/
inductive RawValue where
  | nil
  | str (value : String)
  | bytes (value : String)
  | other (printed : String)
deriving DecidableEq

/-- `redis.XMessage`. -/
structure XMessage where
  id : ℕ
  values : List (String × RawValue)
deriving DecidableEq

/-- `readMessageValue`. -/
def readMessageValue (message : XMessage) (key : String) : Option String :=
  match message.values.lookup key with
  | none | some .nil => none
  | some (.str value) | some (.bytes value) => some value
  | some (.other printed) => some printed

/-- What a subscriber does with a message. -/
abbrev Handler : Type := (eventID eventType payload : String) → Option GoError

/-- `shouldAcknowledgeMessage`. -/
def shouldAcknowledgeMessage (message : XMessage) (handler : Handler) : Bool :=
  let eventID := (readMessageValue message "event_id").getD ""
  match readMessageValue message "type", readMessageValue message "payload" with
  | some evType, some payload => (handler eventID evType payload).isNone
  | _, _ => false

/-- The values that `Publish` gives a message. -/
def publishValues (eventType payload eventID timestamp : String) : List (String × RawValue) :=
  [("event_id", .str eventID), ("type", .str eventType), ("payload", .str payload),
    ("timestamp", .str timestamp)]

/-- The message has what the handler is called with. -/
def XMessage.Valid (message : XMessage) : Prop :=
  (readMessageValue message "type").isSome ∧ (readMessageValue message "payload").isSome

instance (message : XMessage) : Decidable message.Valid :=
  inferInstanceAs (Decidable (_ ∧ _))

/-- The call of the handler for a message. -/
def XMessage.handled (message : XMessage) (handler : Handler) : Option GoError :=
  handler ((readMessageValue message "event_id").getD "")
    ((readMessageValue message "type").getD "") ((readMessageValue message "payload").getD "")

/-- A message is acknowledged when it could be given to the handler and the handler took it. -/
theorem shouldAcknowledgeMessage_iff (message : XMessage) (handler : Handler) :
    shouldAcknowledgeMessage message handler ↔
      message.Valid ∧ message.handled handler = none := by
  unfold shouldAcknowledgeMessage XMessage.Valid XMessage.handled
  cases readMessageValue message "type" <;> cases readMessageValue message "payload" <;> simp

/-- What the program publishes can be given to a handler. -/
theorem valid_publishValues (id : ℕ) (eventType payload eventID timestamp : String) :
    XMessage.Valid ⟨id, publishValues eventType payload eventID timestamp⟩ := ⟨rfl, rfl⟩

/-! ## The loop -/

/-- Where the loop stands. -/
inductive Phase where
  /-- Still to be handled of the last read; with nothing left the loop begins again. -/
  | working (batch : List XMessage)
  | stopped

/-- The messages in hand. -/
def Phase.batch : Phase → List XMessage
  | working batch => batch
  | stopped => []

/-- A stream, a group with its only consumer, and the consumer's loop. -/
structure Consumer where
  delivered : List XMessage
  waiting : List XMessage
  nextID : ℕ
  pending : List ℕ
  phase : Phase

/-- The moves. -/
inductive Label where
  /-- Somebody adds a message to the stream. -/
  | publish (values : List (String × RawValue))
  /-- `XREADGROUP`. -/
  | read (reply : Reply)
  /-- `shouldAcknowledgeMessage` for the next message in hand and, if it says so, `XACK`. -/
  | handle (handler : Handler) (ack : Reply)
  /-- The context is done when the loop begins again. -/
  | stop

namespace Consumer

/-- A new stream and a new group. -/
def start : Consumer := ⟨[], [], 0, [], .working []⟩

/-- The messages that the next read delivers. -/
def fresh (s : Consumer) : List XMessage := s.waiting.take 10

/-- `XREADGROUP GROUP … COUNT 10 STREAMS … >`, as far as Redis is concerned. -/
def xReadGroup (s : Consumer) : Consumer :=
  { s with
    delivered := s.delivered ++ s.fresh
    waiting := s.waiting.drop 10
    pending := s.pending ++ s.fresh.map (·.id) }

/-- `XACK`. -/
def xAck (s : Consumer) (id : ℕ) : Consumer := { s with pending := s.pending.filter (· ≠ id) }

/-- One move. A move that the loop cannot make does nothing. -/
def step (s : Consumer) : Label → Consumer
  | .publish values =>
    { s with waiting := s.waiting ++ [⟨s.nextID, values⟩], nextID := s.nextID + 1 }
  | .read reply =>
    match s.phase with
    | .working [] =>
      match reply with
      -- without a message the reply is `redis.Nil`, which is an empty batch as well
      | .ok => { s.xReadGroup with phase := .working s.fresh }
      | .error _ executed => if executed then s.xReadGroup else s
    | _ => s
  | .handle handler ack =>
    match s.phase with
    | .working (message :: rest) =>
      let s' := if shouldAcknowledgeMessage message handler && ack.executed then s.xAck message.id
        else s
      { s' with phase := .working rest }
    | _ => s
  | .stop =>
    match s.phase with
    | .working [] => { s with phase := .stopped }
    | _ => s

/-- The state after a run. -/
abbrev exec (s : Consumer) (ls : List Label) : Consumer := Run.exec step s ls

/-- The messages in hand. -/
abbrev batch (s : Consumer) : List XMessage := s.phase.batch

/-- Everything a move can do. -/
inductive Moved (s : Consumer) : Consumer → Prop where
  | stay : Moved s s
  | publish (values : List (String × RawValue)) :
      Moved s { s with waiting := s.waiting ++ [⟨s.nextID, values⟩], nextID := s.nextID + 1 }
  | read (hphase : s.phase = .working []) :
      Moved s { s.xReadGroup with phase := .working s.fresh }
  | readLost (hphase : s.phase = .working []) : Moved s s.xReadGroup
  | acknowledge (message : XMessage) (rest : List XMessage)
      (hphase : s.phase = .working (message :: rest)) :
      Moved s { s.xAck message.id with phase := .working rest }
  | skip (message : XMessage) (rest : List XMessage)
      (hphase : s.phase = .working (message :: rest)) : Moved s { s with phase := .working rest }
  | stop (hphase : s.phase = .working []) : Moved s { s with phase := .stopped }

theorem step_moved (s : Consumer) (l : Label) : Moved s (s.step l) := by
  cases l with
  | publish values => exact .publish values
  | read reply =>
    simp only [step]
    split
    · next hphase =>
      cases reply with
      | ok => exact .read hphase
      | error err executed =>
        cases executed with
        | false => exact .stay
        | true => exact .readLost hphase
    · exact .stay
  | handle handler ack =>
    simp only [step]
    split
    · next message rest hphase =>
      split
      · exact .acknowledge message rest hphase
      · exact .skip message rest hphase
    · exact .stay
  | stop =>
    simp only [step]
    split
    · next hphase => exact .stop hphase
    · exact .stay

/-- What holds of the stream, the group and the messages in hand in every state. -/
structure Wf (s : Consumer) : Prop where
  nodup : ((s.delivered ++ s.waiting).map (·.id)).Nodup
  lt : ∀ message ∈ s.delivered ++ s.waiting, message.id < s.nextID
  held : ∀ message ∈ s.batch, message ∈ s.delivered ∧ message.id ∈ s.pending
  batch_nodup : (s.batch.map (·.id)).Nodup

theorem Wf.start : Wf start := by
  constructor <;> simp [Consumer.start, Consumer.batch, Phase.batch]

variable {s s' : Consumer}

theorem stream_xReadGroup (s : Consumer) :
    s.xReadGroup.delivered ++ s.xReadGroup.waiting = s.delivered ++ s.waiting := by
  simp [xReadGroup, fresh]

/-- Ids tell messages apart. -/
theorem Wf.eq_of_id_eq (h : Wf s) {m m' : XMessage} (hm : m ∈ s.delivered ++ s.waiting)
    (hm' : m' ∈ s.delivered ++ s.waiting) (hid : m.id = m'.id) : m = m' :=
  List.inj_on_of_nodup_map h.nodup hm hm' hid

/-- A message that was delivered is not delivered again. -/
theorem Wf.id_ne_of_fresh (h : Wf s) {m m' : XMessage} (hm : m ∈ s.delivered) (hm' : m' ∈ s.fresh) :
    m.id ≠ m'.id := by
  have hnodup := h.nodup
  rw [List.map_append] at hnodup
  exact (List.nodup_append.mp hnodup).2.2 _ (List.mem_map_of_mem hm) _
    (List.mem_map_of_mem (List.mem_of_mem_take hm'))

theorem Wf.moved (h : Wf s) (hmoved : Moved s s') : Wf s' := by
  cases hmoved with
  | stay => exact h
  | publish values =>
    have hnew : ∀ m ∈ s.delivered ++ s.waiting, m.id ≠ s.nextID := fun m hm => (h.lt m hm).ne
    refine ⟨?_, fun m hm => ?_, h.held, h.batch_nodup⟩
    · rw [← List.append_assoc, List.map_append, List.nodup_append]
      refine ⟨h.nodup, List.nodup_singleton _, fun a ha b hb => ?_⟩
      obtain ⟨m, hm, rfl⟩ := List.mem_map.mp ha
      rw [List.map_singleton, List.mem_singleton] at hb
      exact hb ▸ hnew m hm
    · rw [← List.append_assoc, List.mem_append, List.mem_singleton] at hm
      rcases hm with hm | rfl
      · exact (h.lt m hm).trans (Nat.lt_succ_self _)
      · exact Nat.lt_succ_self _
  | read hphase =>
    have hsublist : s.fresh.Sublist (s.delivered ++ s.waiting) :=
      (List.take_sublist _ _).trans (List.sublist_append_right _ _)
    refine ⟨?_, ?_, fun m hm => ⟨?_, ?_⟩, h.nodup.sublist (hsublist.map _)⟩
    · exact stream_xReadGroup s ▸ h.nodup
    · exact stream_xReadGroup s ▸ h.lt
    · exact List.mem_append_right _ hm
    · exact List.mem_append_right _ (List.mem_map_of_mem hm)
  | readLost hphase =>
    have hbatch : s.xReadGroup.batch = [] := by simp [batch, xReadGroup, hphase, Phase.batch]
    refine ⟨stream_xReadGroup s ▸ h.nodup, stream_xReadGroup s ▸ h.lt, ?_, ?_⟩
    · simp [hbatch]
    · simp [hbatch]
  | acknowledge message rest hphase =>
    have hbatch : s.batch = message :: rest := by rw [batch, hphase]; rfl
    have hnodup := h.batch_nodup
    rw [hbatch, List.map_cons, List.nodup_cons] at hnodup
    refine ⟨h.nodup, h.lt, fun m hm => ?_, hnodup.2⟩
    have hheld := h.held m (hbatch ▸ List.mem_cons_of_mem _ hm)
    refine ⟨hheld.1, List.mem_filter.mpr ⟨hheld.2, ?_⟩⟩
    have hne : m.id ≠ message.id := fun hid => hnodup.1 (hid ▸ List.mem_map_of_mem hm)
    simpa using hne
  | skip message rest hphase =>
    have hbatch : s.batch = message :: rest := by rw [batch, hphase]; rfl
    have hnodup := h.batch_nodup
    rw [hbatch, List.map_cons, List.nodup_cons] at hnodup
    exact ⟨h.nodup, h.lt, fun m hm => h.held m (hbatch ▸ List.mem_cons_of_mem _ hm), hnodup.2⟩
  | stop => exact ⟨h.nodup, h.lt, by simp [batch, Phase.batch], by simp [batch, Phase.batch]⟩

end Consumer

end OfflinePay.Eventbus
