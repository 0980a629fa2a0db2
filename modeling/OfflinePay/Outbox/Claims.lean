import OfflinePay.Outbox.Worker

/-!
# Who holds an event, and what has become of it

Reference: `internal/outbox/outbox.go`.

`Moved` lists everything a move can do. Two invariants of every run follow from it. `Owned` is about
the workers: the events a worker has locked are `PENDING`, those of its batch are `PROCESSING`, and
nobody else has them. `Account` is about a single event: what its row, its recorded failures and its
dead letter say about each other.
-/

namespace OfflinePay.Outbox

open Tx State

/-! ## Everything a move can do -/

section Moved

variable {ι : Type} [DecidableEq ι] [Fintype ι] (maxRetries : ℕ) (s : State ι)

/-- The effect of one move. -/
inductive Moved : State ι → Prop where
  | stay : Moved s
  | insert (streamName eventType : String) (payload : Json) :
      Moved { s with
        store := s.store.createOutboxEvent streamName eventType payload
        inserted := s.inserted ++ [(s.store.newRow streamName eventType payload).toOutboxEvent] }
  | select (k : ι) (hk : s.workers k = .working []) :
      Moved (s.goto k (.claiming (s.store.selectPending 5 s.isLocked)))
  | claim (k : ι) (events : List OutboxEvent) (workerID : String) (now : Time) (store' : Store)
      (hk : s.workers k = .claiming events)
      (h : markProcessing (events.map (·.eventID)) workerID now s.store = .ok ((), store')) :
      Moved ({ s with store := store' }.goto k (.working events))
  | giveUp (k : ι) (events : List OutboxEvent) (hk : s.workers k = .claiming events) :
      Moved (s.goto k (.working []))
  | publish (k : ι) (ev : OutboxEvent) (rest : List OutboxEvent)
      (hk : s.workers k = .working (ev :: rest)) :
      Moved ({ s with streams := s.streams ++ [entry ev] }.goto k (.sent ev rest))
  | refuse (k : ι) (ev : OutboxEvent) (rest : List OutboxEvent) (err : GoError)
      (streams : List StreamEntry) (hk : s.workers k = .working (ev :: rest))
      (hstreams : ∀ e ∈ s.streams, e ∈ streams) :
      Moved ({ s with streams }.goto k (.refused ev err rest))
  | mark (k : ι) (ev : OutboxEvent) (rest : List OutboxEvent) (store' : Store)
      (hk : s.workers k = .sent ev rest)
      (h : store' = s.store ∨ markOutboxEventPublished ev.eventID s.store = .ok ((), store')) :
      Moved ({ s with store := store' }.goto k (.working rest))
  | fail (k : ι) (ev : OutboxEvent) (err : GoError) (rest : List OutboxEvent) (now : Time)
      (letter : Option DeadLetterEvent) (store' : Store) (hk : s.workers k = .refused ev err rest)
      (h : recordFailure maxRetries ev err now s.store = .ok (letter, store')) :
      Moved ({ s with
        store := store'
        failures := s.failures ++ [ev.eventID]
        routed := s.routed ++ letter.toList.map (ev.eventID, ·) }.goto k (.working rest))
  | drop (k : ι) (ev : OutboxEvent) (err : GoError) (rest : List OutboxEvent)
      (hk : s.workers k = .refused ev err rest) : Moved (s.goto k (.working rest))
  | stop (k : ι) : Moved (s.goto k (.stopped (s.workers k).batch))

theorem step_moved (l : Label ι) : Moved maxRetries s (s.step maxRetries l) := by
  cases l with
  | insert streamName eventType payload => exact .insert streamName eventType payload
  | select k =>
    simp only [step]
    split
    · next hk => exact .select k hk
    · exact .stay
  | claim k workerID fault now =>
    simp only [step]
    split
    · next events hk =>
      split
      · next store' htx => exact .claim k events workerID now store' hk (withTx_ok.mp htx).2
      · exact .giveUp k events hk
    · exact .stay
  | publish k reply =>
    simp only [step]
    split
    · next ev rest hk =>
      cases reply with
      | ok => exact .publish k ev rest hk
      | error err executed =>
        refine .refuse k ev rest err _ hk fun e he => ?_
        split
        · exact List.mem_append_left _ he
        · exact he
    · exact .stay
  | mark k fault =>
    simp only [step]
    split
    · next ev rest hk =>
      refine .mark k ev rest _ hk ?_
      obtain hsame | ⟨-, u, hok⟩ :=
        withTx_state fault (markOutboxEventPublished ev.eventID) s.store
      · exact .inl hsame
      · exact .inr hok
    · exact .stay
  | fail k fault now =>
    simp only [step]
    split
    · next ev err rest hk =>
      split
      · next letter store' htx =>
        exact .fail k ev err rest now letter store' hk (withTx_ok.mp htx).2
      · exact .drop k ev err rest hk
    · exact .stay
  | stop k => exact .stop k

/-- An event once inserted stays so. -/
theorem inserted_exec {ev : OutboxEvent} (hev : ev ∈ s.inserted) (ls : List (Label ι)) :
    ev ∈ (exec maxRetries s ls).inserted := by
  refine Run.exec_invariant (I := fun s => ev ∈ s.inserted) (fun s l hev _ => ?_) hev
    (Run.steps_true s ls)
  have hmoved := step_moved maxRetries s l
  generalize s.step maxRetries l = s' at hmoved ⊢
  cases hmoved with
  | insert => exact List.mem_append_left _ hev
  | _ => exact hev

end Moved

/-! ## Who holds an event -/

/-- The row has what a worker read of the event. -/
structure OutboxRow.Carries (row : OutboxRow) (ev : OutboxEvent) : Prop where
  streamName : row.streamName = ev.streamName
  eventType : row.eventType = ev.eventType
  payload : row.payload = ev.payload

/-- The event's row is there, in this status. -/
def Store.Has (store : Store) (ev : OutboxEvent) (status : OutboxStatus) : Prop :=
  ∃ row, store.outboxEvents.find? ev.eventID = some row ∧ row.status = status ∧ row.Carries ev

namespace Phase

/-- The events that are nobody else's: locked, or in the batch. -/
def events (phase : Phase) : List OutboxEvent := phase.locked ++ phase.batch

/-- The status of their rows. -/
def rowStatus : Phase → OutboxStatus
  | claiming _ => .pending
  | _ => .processing

end Phase

/-- Every worker's events are in the right status and its own. -/
structure Owned {ι : Type} (s : State ι) : Prop where
  backed : ∀ k, ∀ ev ∈ (s.workers k).events, s.store.Has ev (s.workers k).rowStatus
  nodup : ∀ k, ((s.workers k).events.map (·.eventID)).Nodup
  exclusive : ∀ k j, k ≠ j → ∀ ev ∈ (s.workers k).events, ∀ ev' ∈ (s.workers j).events,
    ev.eventID ≠ ev'.eventID

namespace Owned

variable {ι : Type} {s s' : State ι}

theorem start : Owned (State.start : State ι) where
  backed := by simp [State.start, Phase.events, Phase.locked, Phase.batch]
  nodup := by simp [State.start, Phase.events, Phase.locked, Phase.batch]
  exclusive := by simp [State.start, Phase.events, Phase.locked, Phase.batch]

/-- A new row is nobody's. -/
theorem insert (hs : Owned s) (streamName eventType : String) (payload : Json)
    (hworkers : s'.workers = s.workers)
    (hstore : s'.store = s.store.createOutboxEvent streamName eventType payload) : Owned s' where
  backed k ev hev := by
    rw [hworkers] at hev ⊢
    obtain ⟨row, hrow, hrest⟩ := hs.backed k ev hev
    refine ⟨row, ?_, hrest⟩
    rw [hstore]
    exact Table.find?_insert_of_find? hrow
  nodup := by
    rw [hworkers]
    exact hs.nodup
  exclusive := by
    rw [hworkers]
    exact hs.exclusive

variable [DecidableEq ι]

/-- A worker may go on with some of its events, and change their rows. -/
theorem goto (hs : Owned s) (k : ι) (phase : Phase)
    (hworkers : s'.workers = Function.update s.workers k phase)
    (hsub : phase.events.Sublist (s.workers k).events)
    (hoff : ∀ id, (∀ ev ∈ (s.workers k).events, ev.eventID ≠ id) →
      s'.store.outboxEvents.find? id = s.store.outboxEvents.find? id)
    (hback : ∀ ev ∈ phase.events, s'.store.Has ev phase.rowStatus) : Owned s' where
  backed j ev hev := by
    by_cases hj : j = k
    · subst hj
      rw [hworkers, Function.update_self] at hev ⊢
      exact hback ev hev
    · rw [hworkers, Function.update_of_ne hj] at hev ⊢
      obtain ⟨row, hrow, hstatus, hcarries⟩ := hs.backed j ev hev
      refine ⟨row, ?_, hstatus, hcarries⟩
      rw [hoff ev.eventID fun ev' hev' => hs.exclusive k j (Ne.symm hj) ev' hev' ev hev]
      exact hrow
  nodup j := by
    by_cases hj : j = k
    · subst hj
      rw [hworkers, Function.update_self]
      exact (hsub.map _).nodup (hs.nodup j)
    · rw [hworkers, Function.update_of_ne hj]
      exact hs.nodup j
  exclusive i j hij ev hev ev' hev' := by
    -- whoever moved had these events before
    have hold : ∀ i, ∀ ev ∈ (s'.workers i).events, ev ∈ (s.workers i).events := by
      intro i ev hev
      by_cases hi : i = k
      · subst hi
        rw [hworkers, Function.update_self] at hev
        exact hsub.subset hev
      · rwa [hworkers, Function.update_of_ne hi] at hev
    exact hs.exclusive i j hij ev (hold i ev hev) ev' (hold j ev' hev')

/-- The same with the rows left alone. -/
theorem goto_same (hs : Owned s) (k : ι) (phase : Phase)
    (hworkers : s'.workers = Function.update s.workers k phase) (hstore : s'.store = s.store)
    (hsub : phase.events.Sublist (s.workers k).events)
    (hstatus : phase.events = [] ∨ phase.rowStatus = (s.workers k).rowStatus) : Owned s' := by
  refine hs.goto k phase hworkers hsub (fun id _ => by rw [hstore]) fun ev hev => ?_
  rcases hstatus with hnil | hstatus
  · simp [hnil] at hev
  · rw [hstore, hstatus]
    exact hs.backed k ev (hsub.subset hev)

/-- A worker is done with the first event of its batch. -/
theorem finish (hs : Owned s) (k : ι) (ev : OutboxEvent) (rest : List OutboxEvent)
    (hevents : (s.workers k).events = ev :: rest)
    (hprocessing : (s.workers k).rowStatus = .processing)
    (hworkers : s'.workers = Function.update s.workers k (.working rest))
    (hoff : ∀ id, id ≠ ev.eventID →
      s'.store.outboxEvents.find? id = s.store.outboxEvents.find? id) : Owned s' := by
  refine hs.goto k _ hworkers ?_ (fun id hid => hoff id ?_) fun ev' hev' => ?_
  · rw [hevents]
    exact List.sublist_cons_self ev rest
  · exact Ne.symm (hid ev (hevents ▸ List.mem_cons_self))
  · have hmem : ev' ∈ (s.workers k).events := hevents ▸ List.mem_cons_of_mem _ hev'
    obtain ⟨row, hrow, hstatus, hcarries⟩ := hs.backed k ev' hmem
    -- the batch has every event once
    have hne : ev'.eventID ≠ ev.eventID := by
      have hnodup := hs.nodup k
      rw [hevents, List.map_cons, List.nodup_cons] at hnodup
      exact fun heq => hnodup.1 (heq ▸ List.mem_map_of_mem hev')
    exact ⟨row, (hoff _ hne).trans hrow, hstatus.trans hprocessing, hcarries⟩

variable [Fintype ι]

/-- What the open claims have locked is left to them. -/
theorem select (hs : Owned s) {k : ι} (hk : s.workers k = .working []) :
    Owned (s.goto k (.claiming (s.store.selectPending 5 s.isLocked))) := by
  -- nobody has an event that is pending and not locked
  have hfree : ∀ ev ∈ s.store.selectPending 5 s.isLocked, ∀ j, ∀ ev' ∈ (s.workers j).events,
      ev.eventID ≠ ev'.eventID := by
    intro ev hev j ev' hev' heq
    obtain ⟨⟨row, hrow, rfl⟩, hpending, hunlocked⟩ := Store.mem_selectPending hev
    obtain ⟨row', hrow', hstatus, -⟩ := hs.backed j ev' hev'
    rw [← heq, hrow, Option.some.injEq] at hrow'
    subst hrow'
    rw [hpending] at hstatus
    cases hphase : s.workers j with
    | claiming events =>
      rw [hphase] at hev'
      have hlocked : s.isLocked row.eventID = true := by
        rw [isLocked, decide_eq_true_eq]
        refine ⟨j, ev', ?_, heq.symm⟩
        rw [hphase]
        simpa [Phase.events, Phase.locked, Phase.batch] using hev'
      rw [hlocked] at hunlocked
      exact absurd hunlocked (by simp)
    | working | sent | refused | stopped =>
      rw [hphase] at hstatus
      exact absurd hstatus (by simp [Phase.rowStatus])
  have hevents : ∀ j, ((s.goto k (.claiming (s.store.selectPending 5 s.isLocked))).workers j).events
      = if j = k then s.store.selectPending 5 s.isLocked else (s.workers j).events := by
    intro j
    by_cases hj : j = k
    · subst hj
      simp [State.goto, Phase.events, Phase.locked, Phase.batch]
    · simp [State.goto, hj]
  constructor
  · intro j ev hev
    by_cases hj : j = k
    · subst hj
      rw [hevents, if_pos rfl] at hev
      obtain ⟨⟨row, hrow, hrow'⟩, hpending, -⟩ := Store.mem_selectPending hev
      refine ⟨row, hrow, ?_, ?_⟩
      · simp only [State.goto, Function.update_self, Phase.rowStatus]
        rw [hrow', hpending]
      · subst hrow'
        exact ⟨rfl, rfl, rfl⟩
    · rw [hevents, if_neg hj] at hev
      simp only [State.goto, Function.update_of_ne hj]
      exact hs.backed j ev hev
  · intro j
    rw [hevents]
    split
    · exact Store.nodup_selectPending _ _ _
    · exact hs.nodup j
  · intro i j hij ev hev ev' hev'
    rw [hevents] at hev hev'
    split at hev <;> split at hev'
    · next hi hj => exact absurd (hi.trans hj.symm) hij
    · exact hfree ev hev j ev' hev'
    · exact Ne.symm (hfree ev' hev' i ev hev)
    · exact hs.exclusive i j hij ev hev ev' hev'

/-- Every move keeps the workers apart. -/
theorem step {maxRetries : ℕ} (hs : Owned s) (hmoved : Moved maxRetries s s') : Owned s' := by
  cases hmoved with
  | stay => exact hs
  | insert streamName eventType payload => exact hs.insert streamName eventType payload rfl rfl
  | select k hk => exact hs.select hk
  | claim k events workerID now store' hk h =>
    have hupdated := markProcessing_ok h
    have hevents : (s.workers k).events = events := by
      simp [hk, Phase.events, Phase.locked, Phase.batch]
    refine hs.goto k (.working events) rfl ?_ (fun id hid => ?_) fun ev hev => ?_
    · rw [hevents]
      exact List.Sublist.refl _
    · rw [hevents] at hid
      exact hupdated.find?_of_notMem (by simpa using hid)
    · obtain ⟨row, hrow, -, hcarries⟩ := hs.backed k ev (hevents ▸ hev)
      have hmem : ev.eventID ∈ events.map (·.eventID) := List.mem_map_of_mem hev
      refine ⟨row.claimed workerID now, ?_, rfl, ?_⟩
      · show store'.outboxEvents.find? ev.eventID = _
        rw [hupdated.find?, hrow, Option.map_some, if_pos hmem]
      · exact ⟨hcarries.streamName, hcarries.eventType, hcarries.payload⟩
  | giveUp k events hk =>
    exact hs.goto_same k _ rfl rfl (List.nil_sublist _) (.inl rfl)
  | publish k ev rest hk =>
    refine hs.goto_same k _ rfl rfl ?_ (.inr ?_)
    · rw [hk]
      exact List.Sublist.refl _
    · rw [hk]
      rfl
  | refuse k ev rest err streams hk hstreams =>
    refine hs.goto_same k _ rfl rfl ?_ (.inr ?_)
    · rw [hk]
      exact List.Sublist.refl _
    · rw [hk]
      rfl
  | mark k ev rest store' hk h =>
    refine hs.finish k ev rest (by rw [hk]; rfl) (by rw [hk]; rfl) rfl fun id hid => ?_
    rcases h with rfl | h
    · rfl
    · exact (markOutboxEventPublished_ok h).find?_of_notMem (by simpa using hid)
  | fail k ev err rest now letter store' hk h =>
    have hevents : (s.workers k).events = ev :: rest := by rw [hk]; rfl
    obtain ⟨row, hrow, -⟩ := hs.backed k ev (hevents ▸ List.mem_cons_self)
    exact hs.finish k ev rest hevents (by rw [hk]; rfl) rfl (recordFailure_ok hrow h).2.1
  | drop k ev err rest hk =>
    exact hs.finish k ev rest (by rw [hk]; rfl) (by rw [hk]; rfl) rfl fun _ _ => rfl
  | stop k =>
    refine hs.goto_same k _ rfl rfl ?_ ?_
    · exact List.sublist_append_right _ _
    · cases hk : s.workers k with
      | claiming events => exact .inl rfl
      | working | sent | refused | stopped => exact .inr rfl

end Owned

/-! ## What has become of an event -/

section Account

variable {ι : Type}

/-- The dead letters an event was moved to. -/
def State.letters (s : State ι) (id : ℕ) : List DeadLetterEvent :=
  (s.routed.filter fun p => p.1 = id).map Prod.snd

/-- This is the event that was inserted under the id. -/
def State.Inserted (s : State ι) (id : ℕ) (ev : OutboxEvent) : Prop :=
  ∀ ev', ev' ∈ s.inserted ∧ ev'.eventID = id ↔ ev' = ev

/-- An id is free, or its event is in the outbox with its failures counted, or it is a dead letter.
-/
inductive Account (maxRetries : ℕ) (s : State ι) (id : ℕ) : Prop where
  | free (hid : id = 0 ∨ s.store.nextOutboxID ≤ id) (hrow : s.store.outboxEvents.find? id = none)
      (hnew : ∀ ev ∈ s.inserted, ev.eventID ≠ id) (hcount : s.failures.count id = 0)
      (hletters : s.letters id = [])
  | live {row : OutboxRow} {ev : OutboxEvent} (hid : id < s.store.nextOutboxID)
      (hrow : s.store.outboxEvents.find? id = some row) (hev : s.Inserted id ev)
      (hcarries : row.Carries ev) (hcount : row.retryCount = s.failures.count id)
      (hlimit : row.retryCount < maxRetries) (hstatus : row.status ≠ .failed)
      (hletters : s.letters id = [])
  | dead {ev : OutboxEvent} {d : DeadLetterEvent} (hid : id < s.store.nextOutboxID)
      (hrow : s.store.outboxEvents.find? id = none) (hev : s.Inserted id ev)
      (hcount : s.failures.count id = maxRetries) (hletters : s.letters id = [d])
      (hpayload : d.payload = ev.payload)

variable {maxRetries : ℕ} {s s' : State ι}

theorem Account.start (maxRetries id : ℕ) : Account maxRetries (State.start : State ι) id :=
  .free (Nat.eq_zero_or_pos id) rfl (by simp [State.start]) rfl rfl

/-- The account of an event whose row is in the outbox. -/
theorem Account.of_row {id : ℕ} {row : OutboxRow} (h : Account maxRetries s id)
    (hrow : s.store.outboxEvents.find? id = some row) :
    row.retryCount = s.failures.count id ∧ row.retryCount < maxRetries ∧
      ∃ ev, s.Inserted id ev ∧ row.Carries ev := by
  cases h with
  | free _ hnone | dead _ hnone => exact absurd (hrow.symm.trans hnone) (by simp)
  | @live row' ev _ hrow' hins hcarries hcount hlimit =>
    obtain rfl := Option.some.inj (hrow.symm.trans hrow')
    exact ⟨hcount, hlimit, ev, hins, hcarries⟩

/-- Nothing that the account of an event is about has changed. -/
theorem Account.congr {id : ℕ} (h : Account maxRetries s id)
    (hnext : s'.store.nextOutboxID = s.store.nextOutboxID)
    (hrow : s'.store.outboxEvents.find? id = s.store.outboxEvents.find? id)
    (hinserted : s'.inserted = s.inserted)
    (hcount : s'.failures.count id = s.failures.count id)
    (hletters : s'.letters id = s.letters id) :
    Account maxRetries s' id := by
  cases h with
  | free hid hrow₀ hnew hcount₀ hletters₀ =>
    exact .free (hnext ▸ hid) (hrow.trans hrow₀) (hinserted ▸ hnew) (hcount.trans hcount₀)
      (hletters.trans hletters₀)
  | live hid hrow₀ hev hcarries hcount₀ hlimit hstatus hletters₀ =>
    refine .live (hnext ▸ hid) (hrow.trans hrow₀) ?_ hcarries (hcount₀.trans hcount.symm) hlimit
      hstatus (hletters.trans hletters₀)
    rwa [State.Inserted, hinserted]
  | dead hid hrow₀ hev hcount₀ hletters₀ hpayload =>
    refine .dead (hnext ▸ hid) (hrow.trans hrow₀) ?_ (hcount.trans hcount₀)
      (hletters.trans hletters₀) hpayload
    rwa [State.Inserted, hinserted]

/-- An update that changes neither the count nor what was read, nor makes the row `FAILED`. -/
theorem Account.update {id : ℕ} (h : Account maxRetries s id) (f : OutboxRow → OutboxRow)
    (hf : ∀ row : OutboxRow, row.status ≠ .failed → (f row).Carries row.toOutboxEvent ∧
      (f row).retryCount = row.retryCount ∧ (f row).status ≠ .failed)
    (hnext : s'.store.nextOutboxID = s.store.nextOutboxID)
    (hrow : s'.store.outboxEvents.find? id = (s.store.outboxEvents.find? id).map f)
    (hinserted : s'.inserted = s.inserted) (hfailures : s'.failures = s.failures)
    (hrouted : s'.routed = s.routed) : Account maxRetries s' id := by
  have hletters : s'.letters id = s.letters id := by rw [State.letters, hrouted, State.letters]
  cases h with
  | free hid hrow₀ hnew hcount₀ hletters₀ =>
    refine .free (hnext ▸ hid) ?_ (hinserted ▸ hnew) (hfailures ▸ hcount₀) (hletters.trans hletters₀)
    rw [hrow, hrow₀, Option.map_none]
  | @live row ev hid hrow₀ hev hcarries hcount₀ hlimit hstatus hletters₀ =>
    obtain ⟨hsame, hretry, hnot⟩ := hf row hstatus
    refine @Account.live _ _ _ _ (f row) ev (hnext ▸ hid) ?_ ?_ ?_ ?_ ?_ hnot
      (hletters.trans hletters₀)
    · rw [hrow, hrow₀, Option.map_some]
    · rwa [State.Inserted, hinserted]
    · exact ⟨hsame.streamName.trans hcarries.streamName, hsame.eventType.trans hcarries.eventType,
        hsame.payload.trans hcarries.payload⟩
    · rw [hretry, hcount₀, hfailures]
    · rwa [hretry]
  | dead hid hrow₀ hev hcount₀ hletters₀ hpayload =>
    refine .dead (hnext ▸ hid) ?_ ?_ (hfailures ▸ hcount₀) (hletters.trans hletters₀) hpayload
    · rw [hrow, hrow₀, Option.map_none]
    · rwa [State.Inserted, hinserted]

/-- A new event takes the next id. -/
theorem Account.insert (h : ∀ id, Account maxRetries s id) (hmax : 1 ≤ maxRetries)
    (streamName eventType : String) (payload : Json) (id : ℕ) :
    Account maxRetries { s with
      store := s.store.createOutboxEvent streamName eventType payload
      inserted := s.inserted ++ [(s.store.newRow streamName eventType payload).toOutboxEvent] } id := by
  set row := s.store.newRow streamName eventType payload
  -- the next id is free
  obtain ⟨hrow₀, hnew₀, hcount₀, hletters₀⟩ : s.store.outboxEvents.find? row.eventID = none ∧
      (∀ ev ∈ s.inserted, ev.eventID ≠ row.eventID) ∧ s.failures.count row.eventID = 0 ∧
      s.letters row.eventID = [] := by
    cases h row.eventID with
    | free _ hrow hnew hcount hletters => exact ⟨hrow, hnew, hcount, hletters⟩
    | live hlt | dead hlt => exact absurd hlt (lt_irrefl _)
  by_cases heq : id = row.eventID
  · subst heq
    refine @Account.live _ _ _ _ row row.toOutboxEvent (Nat.lt_succ_self _)
      (Table.find?_insert_self hrow₀) (fun ev' => ?_) ⟨rfl, rfl, rfl⟩ hcount₀.symm hmax
      (by simp [row, Store.newRow]) hletters₀
    constructor
    · rintro ⟨hmem, hid'⟩
      rcases List.mem_append.mp hmem with hmem | hmem
      · exact absurd hid' (hnew₀ ev' hmem)
      · exact List.mem_singleton.mp hmem
    · rintro rfl
      exact ⟨by simp, rfl⟩
  · have hfind : (s.store.createOutboxEvent streamName eventType payload).outboxEvents.find? id
        = s.store.outboxEvents.find? id := Table.find?_insert_ne _ (Ne.symm heq)
    have hins : ∀ ev, s.Inserted id ev → State.Inserted { s with
        store := s.store.createOutboxEvent streamName eventType payload
        inserted := s.inserted ++ [row.toOutboxEvent] } id ev := by
      intro ev hev ev'
      rw [← hev ev']
      constructor
      · rintro ⟨hmem, hid'⟩
        rcases List.mem_append.mp hmem with hmem | hmem
        · exact ⟨hmem, hid'⟩
        · rw [List.mem_singleton.mp hmem] at hid'
          exact absurd hid'.symm heq
      · rintro ⟨hmem, hid'⟩
        exact ⟨List.mem_append_left _ hmem, hid'⟩
    cases h id with
    | free hle hrow hnew hcount hletters =>
      refine .free (hle.imp_right fun hle => Nat.lt_of_le_of_ne hle (Ne.symm heq)) (hfind.trans hrow)
        (fun ev hev => ?_) hcount hletters
      rcases List.mem_append.mp hev with hev | hev
      · exact hnew ev hev
      · rw [List.mem_singleton.mp hev]
        exact Ne.symm heq
    | live hlt hrow hev hcarries hcount hlimit hstatus hletters =>
      exact .live (Nat.lt_succ_of_lt hlt) (hfind.trans hrow) (hins _ hev) hcarries hcount hlimit
        hstatus hletters
    | dead hlt hrow hev hcount hletters hpayload =>
      exact .dead (Nat.lt_succ_of_lt hlt) (hfind.trans hrow) (hins _ hev) hcount hletters hpayload

/-- The failure of an event is on nobody else's account. -/
theorem Account.fail_other {id : ℕ} (h : Account maxRetries s id) {ev : OutboxEvent}
    (letter : Option DeadLetterEvent) (hid : id ≠ ev.eventID)
    (hnext : s'.store.nextOutboxID = s.store.nextOutboxID)
    (hrow : s'.store.outboxEvents.find? id = s.store.outboxEvents.find? id)
    (hinserted : s'.inserted = s.inserted) (hfailures : s'.failures = s.failures ++ [ev.eventID])
    (hrouted : s'.routed = s.routed ++ letter.toList.map (ev.eventID, ·)) :
    Account maxRetries s' id := by
  refine h.congr hnext hrow hinserted ?_ ?_
  · rw [hfailures, List.count_append, List.count_singleton]
    simp [Ne.symm hid]
  · rw [State.letters, hrouted, State.letters, List.filter_append, List.map_append]
    cases letter <;> simp [Ne.symm hid]

/-- A failure is counted, and the last one makes the event a dead letter. -/
theorem Account.fail_self {ev : OutboxEvent} (h : Account maxRetries s ev.eventID)
    {status : OutboxStatus} (hhas : s.store.Has ev status) {err : GoError} {now : Time}
    {letter : Option DeadLetterEvent} {store' : Store}
    (hok : recordFailure maxRetries ev err now s.store = .ok (letter, store'))
    (hstore : s'.store = store') (hinserted : s'.inserted = s.inserted)
    (hfailures : s'.failures = s.failures ++ [ev.eventID])
    (hrouted : s'.routed = s.routed ++ letter.toList.map (ev.eventID, ·)) :
    Account maxRetries s' ev.eventID := by
  obtain ⟨row, hrow, -, hread⟩ := hhas
  obtain ⟨hnext, -, hcases⟩ := recordFailure_ok hrow hok
  have hcount : s'.failures.count ev.eventID = s.failures.count ev.eventID + 1 := by
    rw [hfailures, List.count_append, List.count_singleton_self]
  have hletters : s'.letters ev.eventID = s.letters ev.eventID ++ letter.toList := by
    rw [State.letters, hrouted, State.letters, List.filter_append, List.map_append]
    cases letter <;> simp
  cases h with
  | free _ hnone | dead _ hnone =>
    rw [hrow] at hnone
    exact absurd hnone (by simp)
  | @live row' ev₀ hid hrow' hev hcarries hretry hlimit hstatus hnoletters =>
    obtain rfl : row = row' := Option.some.inj (hrow.symm.trans hrow')
    have hins : s'.Inserted ev.eventID ev₀ := by rwa [State.Inserted, hinserted]
    rw [hnoletters, List.nil_append] at hletters
    rw [← hstore] at hnext hcases
    rcases hcases with ⟨hmore, rfl, hrow₁, -⟩ | ⟨hlast, d, rfl, hpayload, -, hrow₁, -⟩
    · refine .live (hnext ▸ hid) hrow₁ hins ⟨hcarries.streamName, hcarries.eventType,
        hcarries.payload⟩ ?_ hmore ?_ hletters
      · rw [hcount, ← hretry]
        rfl
      · simp [OutboxRow.failedOnce, Nat.not_le.mpr hmore]
    · refine .dead (hnext ▸ hid) hrow₁ hins ?_ hletters ?_
      · rw [hcount, ← hretry]
        omega
      · rw [hpayload, ← hread.payload, hcarries.payload]

end Account

/-! ## Every run -/

/-- The invariant of the workers and their outbox. -/
structure Sound {ι : Type} (maxRetries : ℕ) (s : State ι) : Prop where
  owned : Owned s
  account : ∀ id, Account maxRetries s id
  letters : ∀ p ∈ s.routed, s.store.deadLetterEvents.find? p.2.eventID = some p.2
  letters_lt : ∀ d ∈ s.store.deadLetterEvents.rows, d.eventID < s.store.nextDeadLetterID

namespace Sound

variable {ι : Type} {maxRetries : ℕ} {s s' : State ι}

theorem start (maxRetries : ℕ) : Sound maxRetries (State.start : State ι) where
  owned := .start
  account := .start maxRetries
  letters := by simp [State.start]
  letters_lt := by simp [State.start, Table.empty]

/-- The next dead letter has an id of its own. -/
theorem find?_letter_eq_none (hs : Sound maxRetries s) {d : DeadLetterEvent}
    (hd : d.eventID = s.store.nextDeadLetterID) :
    s.store.deadLetterEvents.find? d.eventID = none := by
  rw [Table.find?_eq_none]
  intro d' hd' heq
  exact absurd (hs.letters_lt d' hd') (by rw [heq, hd]; exact lt_irrefl _)

/-- Only the failure transaction writes dead letters. -/
theorem of_letters (hs : Sound maxRetries s) (howned : Owned s')
    (haccount : ∀ id, Account maxRetries s' id) (hrouted : s'.routed = s.routed)
    (hdead : s'.store.deadLetterEvents = s.store.deadLetterEvents)
    (hnext : s'.store.nextDeadLetterID = s.store.nextDeadLetterID) : Sound maxRetries s' where
  owned := howned
  account := haccount
  letters := by
    rw [hrouted, hdead]
    exact hs.letters
  letters_lt := by
    rw [hdead, hnext]
    exact hs.letters_lt

variable [DecidableEq ι]

/-- A move of a worker that leaves the tables alone. -/
theorem goto (hs : Sound maxRetries s) (k : ι) (phase : Phase)
    (howned : Owned (s.goto k phase)) : Sound maxRetries (s.goto k phase) :=
  hs.of_letters howned (fun id => (hs.account id).congr rfl rfl rfl rfl rfl) rfl rfl rfl

variable [Fintype ι]

theorem step (hmax : 1 ≤ maxRetries) (hs : Sound maxRetries s) (hmoved : Moved maxRetries s s') :
    Sound maxRetries s' := by
  have howned := hs.owned.step hmoved
  cases hmoved with
  | stay => exact hs
  | insert streamName eventType payload =>
    exact hs.of_letters howned (Account.insert hs.account hmax streamName eventType payload) rfl rfl
      rfl
  | select k | giveUp k | drop k | stop k => exact hs.goto k _ howned
  | claim k events workerID now store' hk h =>
    have hupdated := markProcessing_ok h
    refine hs.of_letters howned (fun id => ?_) rfl hupdated.deadLetterEvents
      hupdated.nextDeadLetterID
    refine (hs.account id).update _ (fun row hstatus => ?_) hupdated.nextOutboxID (hupdated.find? id)
      rfl rfl rfl
    split
    · exact ⟨⟨rfl, rfl, rfl⟩, rfl, by simp [OutboxRow.claimed]⟩
    · exact ⟨⟨rfl, rfl, rfl⟩, rfl, hstatus⟩
  | publish k | refuse k =>
    exact hs.of_letters howned (fun id => (hs.account id).congr rfl rfl rfl rfl rfl) rfl rfl rfl
  | mark k ev rest store' hk h =>
    rcases h with rfl | h
    · exact hs.goto k _ howned
    · have hupdated := markOutboxEventPublished_ok h
      refine hs.of_letters howned (fun id => ?_) rfl hupdated.deadLetterEvents
        hupdated.nextDeadLetterID
      refine (hs.account id).update _ (fun row hstatus => ?_) hupdated.nextOutboxID
        (hupdated.find? id) rfl rfl rfl
      split
      · exact ⟨⟨rfl, rfl, rfl⟩, rfl, by simp [OutboxRow.delivered]⟩
      · exact ⟨⟨rfl, rfl, rfl⟩, rfl, hstatus⟩
  | fail k ev err rest now letter store' hk h =>
    obtain ⟨row, hrow, hread⟩ := hs.owned.backed k ev (by rw [hk]; exact List.mem_cons_self)
    obtain ⟨hnext, hoff, hcases⟩ := recordFailure_ok hrow h
    refine ⟨howned, fun id => ?_, fun p hp => ?_, fun d hd => ?_⟩
    · by_cases hid : id = ev.eventID
      · subst hid
        exact (hs.account _).fail_self ⟨row, hrow, hread⟩ h rfl rfl rfl rfl
      · exact (hs.account id).fail_other letter hid hnext (hoff id hid) rfl rfl rfl
    · show store'.deadLetterEvents.find? p.2.eventID = some p.2
      rcases hcases with ⟨-, rfl, -, hdead, -⟩ | ⟨-, d, rfl, -, hid, -, hdead, -⟩
      · rw [hdead]
        exact hs.letters p (by simpa using hp)
      · rw [hdead]
        rcases List.mem_append.mp hp with hp | hp
        · exact Table.find?_insert_of_find? (hs.letters p hp)
        · obtain rfl : p = (ev.eventID, d) := by simpa using hp
          exact Table.find?_insert_self (hs.find?_letter_eq_none hid)
    · replace hd : d ∈ store'.deadLetterEvents.rows := hd
      show d.eventID < store'.nextDeadLetterID
      rcases hcases with ⟨-, -, -, hdead, hnextDead⟩ | ⟨-, d', -, -, hid, -, hdead, hnextDead⟩
      · rw [hdead] at hd
        rw [hnextDead]
        exact hs.letters_lt d hd
      · rw [hdead] at hd
        rw [hnextDead]
        rcases Table.mem_or_eq_of_mem_insert hd with hd | rfl
        · exact Nat.lt_succ_of_lt (hs.letters_lt d hd)
        · rw [hid]
          exact Nat.lt_succ_self _

/-- Whatever the workers do and whatever fails. -/
theorem exec (hmax : 1 ≤ maxRetries) (ls : List (Label ι)) :
    Sound maxRetries (State.exec maxRetries State.start ls) :=
  Run.exec_invariant (I := Sound maxRetries) (fun s l hs _ => hs.step hmax (step_moved maxRetries s l))
    (.start maxRetries) (Run.steps_true _ ls)

end Sound

end OfflinePay.Outbox
