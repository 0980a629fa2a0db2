import OfflinePay.Outbox.Claims

/-!
# What becomes of outbox events

Reference: `internal/outbox/outbox.go`, `internal/repository/repository.go`.

Claims are exclusive and failures are counted exactly, whatever fails: this is `Sound`, read off
state by state. Delivery is another matter. A claim is a status and not a lock that ends with the
worker, and nothing looks for rows that are `PROCESSING`. An event is lost as soon as its worker
stops, and also when it cannot be published and the failure cannot be recorded.
-/

namespace OfflinePay.Outbox

open Tx State

variable {ι : Type}

/-! ## Exclusive claims and exact counts -/

section Counts

variable [DecidableEq ι] [Fintype ι]

/-- In every state of every run no event is in two unfinished batches, the retry count of a row is
the number of its failures that were recorded, and an event becomes a dead letter, with its payload
and at the cost of its row, exactly when that number reaches the limit. -/
theorem claims_exclusive_retries_exact (maxRetries : ℕ) (hmax : 1 ≤ maxRetries)
    (ls : List (Label ι)) :
    let s := exec maxRetries (start : State ι) ls
    (∀ k j, k ≠ j → ∀ ev ∈ (s.workers k).batch, ∀ ev' ∈ (s.workers j).batch,
      ev.eventID ≠ ev'.eventID) ∧
    (∀ row ∈ s.store.outboxEvents.rows, row.retryCount = s.failures.count row.eventID) ∧
    ∀ ev ∈ s.inserted,
      s.failures.count ev.eventID ≤ maxRetries ∧
      (s.letters ev.eventID ≠ [] ↔ s.failures.count ev.eventID = maxRetries) ∧
      (s.store.outboxEvents.find? ev.eventID = none ↔ s.letters ev.eventID ≠ []) ∧
      (s.letters ev.eventID).length ≤ 1 ∧
      ∀ d ∈ s.letters ev.eventID,
        d.payload = ev.payload ∧ s.store.deadLetterEvents.find? d.eventID = some d := by
  intro s
  have hs : Sound maxRetries s := Sound.exec hmax ls
  refine ⟨fun k j hkj ev hev ev' hev' => ?_, fun row hrow => ?_, fun ev hev => ?_⟩
  · exact hs.owned.exclusive k j hkj ev (List.mem_append_right _ hev) ev'
      (List.mem_append_right _ hev')
  · exact ((hs.account row.eventID).of_row (Table.find?_of_mem hrow)).1
  · cases hs.account ev.eventID with
    | free _ _ hnew => exact absurd rfl (hnew ev hev)
    | live _ hrow _ _ hcount hlimit _ hletters =>
      have hlt : s.failures.count ev.eventID < maxRetries := hcount ▸ hlimit
      simp [hletters, hrow, hlt.le, hlt.ne]
    | @dead ev' d _ hrow hev' hcount hletters hpayload =>
      obtain rfl : ev = ev' := (hev' ev).mp ⟨hev, rfl⟩
      refine ⟨hcount.le, by simp [hletters, hcount], by simp [hletters, hrow], by simp [hletters],
        fun d' hd' => ?_⟩
      obtain rfl : d' = d := by simpa [hletters] using hd'
      refine ⟨hpayload, ?_⟩
      have hmem : d' ∈ s.letters ev.eventID := hd'
      obtain ⟨p, hp, rfl⟩ := List.mem_map.mp hmem
      exact hs.letters p (List.mem_filter.mp hp).1

/-- One worker tries to publish the only event, and Redis is down every time. -/
def redisDown (streamName eventType : String) (payload : Json) (tries : ℕ) : List (Label (Fin 1)) :=
  .insert streamName eventType payload :: (List.replicate tries [.select 0,
    .claim 0 "worker-1" none 0, .publish 0 (.error ⟨"redis is down", false⟩ false),
    .fail 0 none 0]).flatten

/-- With two tries the event is a dead letter after the second, and its row is gone. -/
theorem claims_exclusive_retries_exact_redisDown :
    let s := exec 2 start (redisDown "payment.settled" "PaymentSettled" (.obj []) 2)
    s.failures.count 1 = 2 ∧ s.letters 1 ≠ [] ∧ s.store.outboxEvents.find? 1 = none := by
  intro s
  have hcount : s.failures.count 1 = 2 := by decide
  have hinserted : s.inserted
      = [⟨1, "payment.settled", "PaymentSettled", .obj [], false, .pending, 0⟩] := rfl
  have hexact := claims_exclusive_retries_exact 2 (by decide)
    (redisDown "payment.settled" "PaymentSettled" (.obj []) 2)
  obtain ⟨-, hiff, hrow, -⟩ := hexact.2.2 _ (hinserted ▸ List.mem_singleton_self _)
  exact ⟨hcount, hiff.mpr hcount, hrow.mpr (hiff.mpr hcount)⟩

end Counts

/-! ## Lost events -/

namespace State

/-- A worker that is still running has the event in its batch. -/
def Held (s : State ι) (id : ℕ) : Prop := ∃ k, ∃ ev ∈ (s.workers k).held, ev.eventID = id

/-- A later batch can claim the event. -/
def Queued (s : State ι) (id : ℕ) : Prop :=
  ∃ row, s.store.outboxEvents.find? id = some row ∧ row.status = .pending

/-- The event is on its stream, or its payload is among the dead letters. -/
def Covered (s : State ι) (ev : OutboxEvent) : Prop :=
  entry ev ∈ s.streams ∨ ∃ d ∈ s.store.deadLetterEvents.rows, d.payload = ev.payload

/-- Every event that nobody holds can still be claimed or has arrived somewhere. -/
def NoneLost (s : State ι) : Prop :=
  ∀ ev ∈ s.inserted, ¬s.Held ev.eventID → s.Queued ev.eventID ∨ s.Covered ev

/-- The move loses nothing: a worker that stops has nothing in hand that is not covered, and a
failure that is not covered is recorded, which needs a limit that fits its column. -/
def Careful (maxRetries : ℕ) (s : State ι) : Label ι → Prop
  | .fail k fault _ =>
    ∀ ev err rest, s.workers k = .refused ev err rest →
      (fault = none ∧ maxRetries ≤ 2147483647) ∨ s.Covered ev
  | .stop k => ∀ ev ∈ (s.workers k).held, s.Covered ev
  | _ => True

/-- What is published is on its stream before the row is marked. -/
def SentIsPublished (s : State ι) : Prop :=
  ∀ k ev rest, s.workers k = .sent ev rest → entry ev ∈ s.streams

variable {s s' : State ι}

theorem noneLost_iff : s.NoneLost ↔
    ∀ ev ∈ s.inserted, s.Held ev.eventID ∨ s.Queued ev.eventID ∨ s.Covered ev := by
  refine forall₂_congr fun ev _ => ?_
  by_cases h : s.Held ev.eventID <;> simp [h]

/-- Streams and dead letters only grow. -/
theorem Covered.mono {ev : OutboxEvent} (h : s.Covered ev)
    (hstreams : ∀ e ∈ s.streams, e ∈ s'.streams)
    (hdead : ∀ d ∈ s.store.deadLetterEvents.rows, d ∈ s'.store.deadLetterEvents.rows) :
    s'.Covered ev := by
  rcases h with h | ⟨d, hd, hpayload⟩
  · exact .inl (hstreams _ h)
  · exact .inr ⟨d, hdead d hd, hpayload⟩

variable [DecidableEq ι]

/-- Nobody but the worker that moves has to be looked at. -/
theorem NoneLost.goto {k : ι} (h : s.NoneLost) (phase : Phase)
    (hworkers : s'.workers = Function.update s.workers k phase)
    (hinserted : s'.inserted = s.inserted) (hcovered : ∀ ev, s.Covered ev → s'.Covered ev)
    (hheld : ∀ ev ∈ s.inserted, ∀ ev' ∈ (s.workers k).held, ev'.eventID = ev.eventID →
      (∃ ev'' ∈ phase.held, ev''.eventID = ev.eventID) ∨ s'.Queued ev.eventID ∨ s'.Covered ev)
    (hqueued : ∀ ev ∈ s.inserted, s.Queued ev.eventID →
      (∃ ev'' ∈ phase.held, ev''.eventID = ev.eventID) ∨ s'.Queued ev.eventID ∨ s'.Covered ev) :
    s'.NoneLost := by
  rw [noneLost_iff] at h ⊢
  rw [hinserted]
  intro ev hev
  have hself : (∃ ev'' ∈ phase.held, ev''.eventID = ev.eventID) → s'.Held ev.eventID := by
    rintro ⟨ev'', hev'', hid⟩
    exact ⟨k, ev'', by rwa [hworkers, Function.update_self], hid⟩
  rcases h ev hev with ⟨j, ev', hev', hid⟩ | h | h
  · by_cases hj : j = k
    · subst hj
      exact (hheld ev hev ev' hev' hid).imp_left hself
    · exact .inl ⟨j, ev', by rwa [hworkers, Function.update_of_ne hj], hid⟩
  · exact (hqueued ev hev h).imp_left hself
  · exact .inr (.inr (hcovered ev h))

end State

namespace Sound

variable {maxRetries : ℕ} {s s' : State ι}

/-- What a worker has read of an event is what was inserted. -/
theorem entry_eq (hs : Sound maxRetries s) {k : ι} {ev ev' : OutboxEvent}
    (hev' : ev' ∈ (s.workers k).events) (hev : ev ∈ s.inserted) (hid : ev'.eventID = ev.eventID) :
    entry ev' = entry ev := by
  obtain ⟨row, hrow, -, hread⟩ := hs.owned.backed k ev' hev'
  obtain ⟨-, -, ev₀, hins, hcarries⟩ := (hs.account ev'.eventID).of_row hrow
  obtain rfl := (hins ev).mp ⟨hev, hid.symm⟩
  simp only [entry, hid, ← hread.streamName, ← hread.eventType, ← hread.payload,
    hcarries.streamName, hcarries.eventType, hcarries.payload]

theorem covered_iff (hs : Sound maxRetries s) {k : ι} {ev ev' : OutboxEvent}
    (hev' : ev' ∈ (s.workers k).events) (hev : ev ∈ s.inserted) (hid : ev'.eventID = ev.eventID) :
    s.Covered ev' ↔ s.Covered ev := by
  have hentry := hs.entry_eq hev' hev hid
  have hpayload : ev'.payload = ev.payload := congrArg StreamEntry.payload hentry
  rw [State.Covered, hentry, hpayload, State.Covered]

theorem held_subset (phase : Phase) : ∀ ev ∈ phase.held, ev ∈ phase.events := by
  intro ev hev
  cases phase with
  | stopped => simp [Phase.held] at hev
  | claiming | working | sent | refused => exact List.mem_append_right _ hev

variable [DecidableEq ι]

/-- A worker that lets events go without touching their rows loses those that are not covered. -/
theorem noneLost_drop (hs : Sound maxRetries s) (h : s.NoneLost) {k : ι} (phase : Phase)
    (dropped : List OutboxEvent) (hheld : (s.workers k).held = dropped ++ phase.held) :
    (s.goto k phase).NoneLost ↔ ∀ ev ∈ dropped, s.Covered ev := by
  constructor
  · intro hlost ev' hev'
    have hmem : ev' ∈ (s.workers k).held := hheld ▸ List.mem_append_left _ hev'
    have hevents := held_subset _ ev' hmem
    obtain ⟨row, hrow, hstatus, -⟩ := hs.owned.backed k ev' hevents
    have hprocessing : (s.workers k).rowStatus = .processing := by
      cases hk : s.workers k with
      | claiming => simp [hk, Phase.held, Phase.batch] at hmem
      | working | sent | refused | stopped => rfl
    obtain ⟨-, -, ev, hins, -⟩ := (hs.account ev'.eventID).of_row hrow
    obtain ⟨hev, hid⟩ := (hins ev).mpr rfl
    rw [hs.covered_iff hevents hev hid.symm]
    -- nobody else has it, and it is not in the rest of the batch
    have hnobody : ¬(s.goto k phase).Held ev.eventID := by
      rintro ⟨j, ev'', hev'', hid''⟩
      rw [hid] at hid''
      rw [goto_workers] at hev''
      by_cases hj : j = k
      · subst hj
        rw [Function.update_self] at hev''
        have hnodup : ((s.workers j).held.map (·.eventID)).Nodup := by
          refine List.Nodup.sublist ?_ (hs.owned.nodup j)
          refine List.Sublist.map _ ?_
          cases s.workers j with
          | stopped => exact List.nil_sublist _
          | claiming | working | sent | refused => exact List.sublist_append_right _ _
        rw [hheld, List.map_append, List.nodup_append] at hnodup
        exact hnodup.2.2 _ (List.mem_map_of_mem hev') _ (List.mem_map_of_mem hev'') hid''.symm
      · rw [Function.update_of_ne hj] at hev''
        exact hs.owned.exclusive j k hj ev'' (held_subset _ ev'' hev'') ev' hevents hid''
    rcases hlost ev hev hnobody with ⟨row'', hrow'', hpending⟩ | hcovered
    · rw [goto_store, hid, hrow, Option.some.injEq] at hrow''
      rw [← hrow'', hstatus, hprocessing] at hpending
      exact absurd hpending (by simp)
    · exact hcovered
  · intro hcovered
    refine h.goto phase rfl rfl (fun _ h => h) (fun ev hev ev' hev' hid => ?_) fun _ _ h =>
      .inr (.inl h)
    have hevents := held_subset _ ev' hev'
    rw [hheld] at hev'
    rcases List.mem_append.mp hev' with hev' | hev'
    · exact .inr (.inr ((hs.covered_iff hevents hev hid).mp (hcovered ev' hev')))
    · exact .inl ⟨ev', hev', hid⟩

/-- What is claimed is held. -/
theorem noneLost_claim (h : s.NoneLost) {k : ι} {events : List OutboxEvent} {workerID : String}
    {now : Time} {store' : Store} (hk : s.workers k = .claiming events)
    (hok : markProcessing (events.map (·.eventID)) workerID now s.store = .ok ((), store')) :
    ({ s with store := store' }.goto k (.working events)).NoneLost := by
  have hupdated := markProcessing_ok hok
  refine h.goto (.working events) rfl rfl (fun ev hcovered => ?_) (fun ev _ ev' hev' => ?_)
    fun ev _ hqueued => ?_
  · refine hcovered.mono (fun _ he => he) fun d hd => ?_
    rw [goto_store]
    exact hupdated.deadLetterEvents ▸ hd
  · simp [hk, Phase.held, Phase.batch] at hev'
  · obtain ⟨row, hrow, hstatus⟩ := hqueued
    by_cases hid : ev.eventID ∈ events.map (·.eventID)
    · obtain ⟨ev'', hev'', hid⟩ := List.mem_map.mp hid
      exact .inl ⟨ev'', hev'', hid⟩
    · exact .inr (.inl ⟨row, (hupdated.find?_of_notMem hid).trans hrow, hstatus⟩)

/-- What is marked has been published. -/
theorem noneLost_mark (hs : Sound maxRetries s) (hsent : s.SentIsPublished) (h : s.NoneLost) {k : ι}
    {ev : OutboxEvent} {rest : List OutboxEvent} {store' : Store} (hk : s.workers k = .sent ev rest)
    (hok : store' = s.store ∨ markOutboxEventPublished ev.eventID s.store = .ok ((), store')) :
    ({ s with store := store' }.goto k (.working rest)).NoneLost := by
  have hupdated : (∀ id, id ≠ ev.eventID →
      store'.outboxEvents.find? id = s.store.outboxEvents.find? id) ∧
      store'.deadLetterEvents = s.store.deadLetterEvents := by
    rcases hok with rfl | hok
    · exact ⟨fun _ _ => rfl, rfl⟩
    · have hupdated := markOutboxEventPublished_ok hok
      exact ⟨fun id hid => hupdated.find?_of_notMem (by simpa using hid), hupdated.deadLetterEvents⟩
  have hcovered : ∀ ev', s.Covered ev' →
      ({ s with store := store' }.goto k (.working rest)).Covered ev' := by
    intro ev' hcovered
    refine hcovered.mono (fun _ he => he) fun d hd => ?_
    rw [goto_store]
    exact hupdated.2 ▸ hd
  have hself : ∀ ev' ∈ s.inserted, ev.eventID = ev'.eventID → s.Covered ev' := fun ev' hev' hid =>
    (hs.covered_iff (k := k) (by rw [hk]; exact List.mem_cons_self) hev' hid).mp
      (.inl (hsent k ev rest hk))
  refine h.goto (.working rest) rfl rfl hcovered (fun ev' hev' ev'' hev'' hid => ?_)
    fun ev' hev' hqueued => ?_
  · rw [hk] at hev''
    rcases List.mem_cons.mp hev'' with rfl | hev''
    · exact .inr (.inr (hcovered ev' (hself ev' hev' hid)))
    · exact .inl ⟨ev'', hev'', hid⟩
  · by_cases hid : ev.eventID = ev'.eventID
    · exact .inr (.inr (hcovered ev' (hself ev' hev' hid)))
    · obtain ⟨row, hrow, hstatus⟩ := hqueued
      exact .inr (.inl ⟨row, (hupdated.1 _ (Ne.symm hid)).trans hrow, hstatus⟩)

/-- A recorded failure queues the event again or makes it a dead letter. -/
theorem noneLost_fail (hs : Sound maxRetries s) (h : s.NoneLost) {k : ι} {ev : OutboxEvent}
    {err : GoError} {rest : List OutboxEvent} {now : Time} {letter : Option DeadLetterEvent}
    {store' : Store} (hk : s.workers k = .refused ev err rest)
    (hok : recordFailure maxRetries ev err now s.store = .ok (letter, store')) :
    ({ s with
      store := store'
      failures := s.failures ++ [ev.eventID]
      routed := s.routed ++ letter.toList.map (ev.eventID, ·) }.goto k (.working rest)).NoneLost := by
  have hevents : ev ∈ (s.workers k).events := by
    rw [hk]
    exact List.mem_cons_self
  obtain ⟨row, hrow, hread⟩ := hs.owned.backed k ev hevents
  obtain ⟨-, hoff, hcases⟩ := recordFailure_ok hrow hok
  -- the dead letters keep what they had
  have hkept : ∀ d ∈ s.store.deadLetterEvents.rows, d ∈ store'.deadLetterEvents.rows := by
    intro d hd
    rcases hcases with ⟨-, -, -, hdead, -⟩ | ⟨-, d', -, -, hid, -, hdead, -⟩
    · exact hdead ▸ hd
    · rw [hdead]
      exact (Table.mem_insert (hs.find?_letter_eq_none hid)).mpr (.inl hd)
  have hself : ∀ ev' ∈ s.inserted, ev.eventID = ev'.eventID →
      (∃ row, store'.outboxEvents.find? ev'.eventID = some row ∧ row.status = .pending) ∨
        ∃ d ∈ store'.deadLetterEvents.rows, d.payload = ev'.payload := by
    intro ev' hev' hid
    rcases hcases with ⟨hmore, -, hrow', -⟩ | ⟨-, d, -, hpayload, hd, -, hdead, -⟩
    · refine .inl ⟨_, hid ▸ hrow', ?_⟩
      simp [OutboxRow.failedOnce, Nat.not_le.mpr hmore]
    · refine .inr ⟨d, ?_, ?_⟩
      · rw [hdead]
        exact (Table.mem_insert (hs.find?_letter_eq_none hd)).mpr (.inr rfl)
      · exact hpayload.trans (congrArg StreamEntry.payload (hs.entry_eq hevents hev' hid))
  refine h.goto (.working rest) rfl rfl (fun ev' hcovered => hcovered.mono (fun _ he => he) hkept)
    (fun ev' hev' ev'' hev'' hid => ?_) fun ev' hev' hqueued => ?_
  · rw [hk] at hev''
    rcases List.mem_cons.mp hev'' with rfl | hev''
    · exact .inr ((hself ev' hev' hid).imp_right .inr)
    · exact .inl ⟨ev'', hev'', hid⟩
  · by_cases hid : ev.eventID = ev'.eventID
    · exact .inr ((hself ev' hev' hid).imp_right .inr)
    · obtain ⟨row', hrow', hstatus⟩ := hqueued
      exact .inr (.inl ⟨row', (hoff _ (Ne.symm hid)).trans hrow', hstatus⟩)

variable [Fintype ι]

theorem sentIsPublished_step (h : s.SentIsPublished) (hmoved : Moved maxRetries s s') :
    s'.SentIsPublished := by
  -- only the worker that moves can come to be in this phase
  have hgoto : ∀ {s' : State ι} {k : ι} {phase : Phase},
      s'.workers = Function.update s.workers k phase → (∀ e ∈ s.streams, e ∈ s'.streams) →
      (∀ ev rest, phase = .sent ev rest → entry ev ∈ s'.streams) → s'.SentIsPublished := by
    intro s' k phase hworkers hstreams hphase j ev rest hj
    rw [hworkers] at hj
    by_cases hjk : j = k
    · subst hjk
      rw [Function.update_self] at hj
      exact hphase ev rest hj
    · rw [Function.update_of_ne hjk] at hj
      exact hstreams _ (h j ev rest hj)
  cases hmoved with
  | stay => exact h
  | insert => exact h
  | publish k ev rest hk =>
    refine hgoto rfl (fun e he => List.mem_append_left _ he) fun ev' rest' heq => ?_
    obtain ⟨rfl, rfl⟩ := Phase.sent.inj heq
    exact List.mem_append_right _ (List.mem_singleton_self _)
  | refuse k ev rest err streams hk hstreams => exact hgoto rfl hstreams (by simp)
  | select | claim | giveUp | mark | fail | drop | stop =>
    exact hgoto rfl (fun e he => he) (by simp)

/-- A new event is queued. -/
theorem noneLost_insert (hs : Sound maxRetries s) (h : s.NoneLost) (streamName eventType : String)
    (payload : Json) : (s.step maxRetries (.insert streamName eventType payload)).NoneLost := by
  have hfree : s.store.outboxEvents.find? (s.store.newRow streamName eventType payload).eventID
      = none := by
    cases hs.account s.store.nextOutboxID with
    | free _ hrow | dead _ hrow => exact hrow
    | live hlt => exact absurd hlt (lt_irrefl _)
  rw [noneLost_iff] at h ⊢
  intro ev hev
  rcases List.mem_append.mp hev with hev | hev
  · rcases h ev hev with hheld | ⟨row, hrow, hstatus⟩ | hcovered
    · exact .inl hheld
    · exact .inr (.inl ⟨row, Table.find?_insert_of_find? hrow, hstatus⟩)
    · exact .inr (.inr hcovered)
  · rw [List.mem_singleton.mp hev]
    exact .inr (.inl ⟨_, Table.find?_insert_self hfree, rfl⟩)

/-- A move loses nothing exactly when it is careful. -/
theorem step_noneLost_iff (hs : Sound maxRetries s) (hsent : s.SentIsPublished) (h : s.NoneLost)
    (l : Label ι) : (s.step maxRetries l).NoneLost ↔ s.Careful maxRetries l := by
  cases l with
  | insert streamName eventType payload =>
    exact iff_of_true (hs.noneLost_insert h streamName eventType payload) trivial
  | select k =>
    refine iff_of_true ?_ trivial
    simp only [State.step]
    split
    · next hk => exact (hs.noneLost_drop h _ [] (by rw [hk]; rfl)).mpr (by simp)
    · exact h
  | claim k workerID fault now =>
    refine iff_of_true ?_ trivial
    simp only [State.step]
    split
    · next events hk =>
      split
      · next store' htx => exact noneLost_claim h hk (withTx_ok.mp htx).2
      · exact (hs.noneLost_drop h _ [] (by rw [hk]; rfl)).mpr (by simp)
    · exact h
  | publish k reply =>
    refine iff_of_true ?_ trivial
    simp only [State.step]
    split
    · next ev rest hk =>
      -- the batch is what it was, and the streams may have grown
      have hstays : ∀ (streams : List StreamEntry) (phase : Phase),
          (∀ e ∈ s.streams, e ∈ streams) → phase.held = ev :: rest →
          ({ s with streams }.goto k phase).NoneLost := by
        intro streams phase hstreams hheld
        refine h.goto phase rfl rfl (fun ev' hcovered => hcovered.mono hstreams fun _ hd => hd)
          (fun ev' _ ev'' hev'' hid => .inl ⟨ev'', ?_, hid⟩) fun ev' _ hqueued =>
            .inr (.inl hqueued)
        rw [hk] at hev''
        rw [hheld]
        exact hev''
      cases reply with
      | ok => exact hstays _ _ (fun e he => List.mem_append_left _ he) rfl
      | error err executed =>
        refine hstays _ _ (fun e he => ?_) rfl
        split
        · exact List.mem_append_left _ he
        · exact he
    · exact h
  | mark k fault =>
    refine iff_of_true ?_ trivial
    simp only [State.step]
    split
    · next ev rest hk =>
      refine hs.noneLost_mark hsent h hk ?_
      obtain hsame | ⟨-, u, hok⟩ :=
        withTx_state fault (markOutboxEventPublished ev.eventID) s.store
      · exact .inl hsame
      · exact .inr hok
    · exact h
  | fail k fault now =>
    simp only [State.step, Careful]
    split
    · next ev err rest hk =>
      have hevents : ev ∈ (s.workers k).events := by
        rw [hk]
        exact List.mem_cons_self
      obtain ⟨row, hrow, -⟩ := hs.owned.backed k ev hevents
      obtain ⟨-, hlimit, -⟩ := (hs.account ev.eventID).of_row hrow
      have hiff := recordFailure_iff err now hrow hlimit
      simp only [Phase.refused.injEq, hk]
      split
      · next letter store' htx =>
        obtain ⟨hfault, hok⟩ := withTx_ok.mp htx
        refine iff_of_true (hs.noneLost_fail h hk hok) fun _ _ _ _ => .inl ⟨hfault, ?_⟩
        exact hiff.mp ⟨letter, store', hok⟩
      · next e store' htx =>
        rw [hs.noneLost_drop h (.working rest) [ev] (by rw [hk]; rfl)]
        have hnot : ¬(fault = none ∧ maxRetries ≤ 2147483647) := by
          rintro ⟨rfl, hmax⟩
          obtain ⟨letter, store'', hok⟩ := hiff.mpr hmax
          rw [withTx_ok.mpr ⟨rfl, hok⟩] at htx
          exact absurd (congrArg Prod.fst htx) (by simp)
        simp [hnot]
    · next hk =>
      refine iff_of_true h fun ev err rest hk' => absurd hk' (hk ev err rest)
  | stop k => exact hs.noneLost_drop h _ _ (by simp [Phase.held])

end Sound

section Lost

variable [DecidableEq ι] [Fintype ι]

/-- Nothing is lost in any state of a run exactly when every one of its moves is careful. -/
theorem none_lost_iff (maxRetries : ℕ) (hmax : 1 ≤ maxRetries) (ls : List (Label ι)) :
    Run.Always (step maxRetries) NoneLost (start : State ι) ls ↔
      Run.Steps (step maxRetries) (Careful maxRetries) (start : State ι) ls := by
  refine Run.always_iff_steps (I := fun s => Sound maxRetries s ∧ s.SentIsPublished)
    (fun s l hs => ?_)
    (fun s l hs h => hs.1.step_noneLost_iff hs.2 h l) ⟨.start maxRetries, ?_⟩ ?_ ls
  · have hmoved := step_moved maxRetries s l
    exact ⟨hs.1.step hmax hmoved, Sound.sentIsPublished_step hs.2 hmoved⟩
  · simp [SentIsPublished, start]
  · simp [NoneLost, start]

/-- Redis being down loses nothing. -/
theorem none_lost_iff_redisDown :
    Run.Always (step 5) NoneLost start
      (redisDown "payment.settled" "PaymentSettled" (.obj []) 2) := by
  have hfail : ∀ s : State (Fin 1), s.Careful 5 (.fail 0 none 0) := fun _ _ _ _ _ =>
    .inl ⟨rfl, by decide⟩
  refine (none_lost_iff 5 (by decide) _).mpr ?_
  exact ⟨trivial, trivial, trivial, trivial, hfail _, trivial, trivial, trivial, hfail _, trivial⟩

/-- A worker that is stopped with a batch in hand: the event is on no stream and no dead letter, and
no worker will look for it, because its row is not pending. -/
theorem stopped_worker_loses_event :
    let s := exec 5 start [.insert "payment.settled" "PaymentSettled" (.obj []), .select (0 : Fin 3),
      .claim 0 "worker-1" none 0, .stop 0]
    (s.store.outboxEvents.find? 1).map (·.status) = some .processing ∧ s.streams = [] ∧
      s.store.deadLetterEvents.rows = [] ∧ ¬s.NoneLost := by
  intro s
  have hrow : (s.store.outboxEvents.find? 1).map (·.status) = some .processing := by decide
  have hstreams : s.streams = [] := rfl
  have hdead : s.store.deadLetterEvents.rows = [] := rfl
  refine ⟨hrow, hstreams, hdead, fun h => ?_⟩
  have hinserted : s.inserted
      = [⟨1, "payment.settled", "PaymentSettled", .obj [], false, .pending, 0⟩] := rfl
  have hheld : ∀ k, (s.workers k).held = [] := by
    intro k
    fin_cases k <;> rfl
  rcases h _ (hinserted ▸ List.mem_singleton_self _) (by simp [Held, hheld]) with
    ⟨row, hrow', hpending⟩ | hcovered
  · rw [hrow'] at hrow
    simp [hpending] at hrow
  · simp [Covered, hstreams, hdead] at hcovered

end Lost

end OfflinePay.Outbox
