import OfflinePay.Common.Checked
import OfflinePay.Relay.Service

/-!
# What a relay lets through, and how long it waits

An identifier stays in the map of the relay until a tick finds it more than ten minutes old, and
while it is there no envelope that carries it is taken, so its time is never overwritten
(`dedupe_exec`). Conversely, what is in the map was put there by an envelope that was taken, and no
tick has removed it since (`exists_recorded`). `relay_dedupe` follows from the two.

The backoff of a forwarding is doubled on every iteration and never capped; only the sleep time is.
From the 37th iteration on the sum with the jitter can wrap around (`backoff_in_range_iff`).
-/

namespace OfflinePay.Relay

/-! ## Deduplication -/

/-- The identifiers of the envelope. -/
def Incoming.ids (call : Incoming) : List String := [call.env.txnID, call.env.nonce]

/-- What the relay records of the envelope when it takes it. -/
def Incoming.recorded (call : Incoming) : List (String × Time) :=
  [(call.env.txnID, call.txnAt), (call.env.nonce, call.nonceAt)]

namespace Service

variable {s : Service} {call : Incoming} {x : String} {r now : Time}

/-- The service when it has put the identifiers of the envelope into its map. -/
def record (s : Service) (call : Incoming) : Service where
  relayID := s.relayID
  retryLimit := s.retryLimit
  dedupe := Function.update (Function.update s.dedupe call.env.txnID (some call.txnAt))
    call.env.nonce (some call.nonceAt)

/-- The two ways a call can go. -/
theorem receiveAndRelay_cases (s : Service) (call : Incoming) :
    (∃ x ∈ call.ids, s.dedupe x ≠ none) ∧ s.receiveAndRelay call = (.error duplicate, s) ∨
    (∀ x ∈ call.ids, s.dedupe x = none) ∧ s.receiveAndRelay call =
      (.ok (s.attempt call.env (call.hopCount + 1) "RECEIVED"), s.record call) := by
  unfold receiveAndRelay
  by_cases hfound : ((s.dedupe call.env.txnID).isSome || (s.dedupe call.env.nonce).isSome) = true
  · refine .inl ⟨?_, if_pos hfound⟩
    simpa [Incoming.ids, Option.isSome_iff_ne_none] using hfound
  · refine .inr ⟨?_, if_neg hfound⟩
    simpa [Incoming.ids, Option.isSome_iff_ne_none] using hfound

/-- The envelope of the call is taken. -/
def Accepts (s : Service) (call : Incoming) : Prop :=
  (s.receiveAndRelay call).1 = .ok (s.attempt call.env (call.hopCount + 1) "RECEIVED")

/-- The envelope of the call is refused. -/
def Refuses (s : Service) (call : Incoming) : Prop :=
  (s.receiveAndRelay call).1 = .error duplicate

instance (s : Service) (call : Incoming) : Decidable (s.Accepts call) :=
  inferInstanceAs (Decidable (_ = _))

instance (s : Service) (call : Incoming) : Decidable (s.Refuses call) :=
  inferInstanceAs (Decidable (_ = _))

theorem Accepts.dedupe_eq_none (h : s.Accepts call) (hx : x ∈ call.ids) : s.dedupe x = none := by
  obtain ⟨-, hrefused⟩ | ⟨hnone, -⟩ := receiveAndRelay_cases s call
  · rw [Accepts, hrefused] at h
    cases h
  · exact hnone x hx

theorem Accepts.step_eq (h : s.Accepts call) : s.step (.receive call) = s.record call := by
  obtain ⟨-, hrefused⟩ | ⟨-, haccepted⟩ := receiveAndRelay_cases s call
  · rw [Accepts, hrefused] at h
    cases h
  · rw [step, haccepted]

theorem Refuses.exists_found (h : s.Refuses call) : ∃ x ∈ call.ids, s.dedupe x ≠ none := by
  obtain ⟨hfound, -⟩ | ⟨-, haccepted⟩ := receiveAndRelay_cases s call
  · exact hfound
  · rw [Refuses, haccepted] at h
    cases h

theorem dedupe_record (s : Service) (call : Incoming) (x : String) : (s.record call).dedupe x
    = if x = call.env.nonce then some call.nonceAt
      else if x = call.env.txnID then some call.txnAt else s.dedupe x := by
  simp only [record, Function.update_apply]

theorem dedupe_tick : (s.step (.tick now)).dedupe x = some r ↔
    s.dedupe x = some r ∧ now - r ≤ tenMinutes := by
  simp [step, cleanDedupeCache, Option.filter_eq_some_iff]

/-! ### What is in the map stays there -/

/-- A step leaves a recorded identifier as it is, unless it is a tick more than ten minutes later.
-/
theorem dedupe_step (h : s.dedupe x = some r) {event : Event}
    (htick : ∀ now, event = .tick now → now - r ≤ tenMinutes) :
    (s.step event).dedupe x = some r := by
  cases event with
  | tick now => exact dedupe_tick.mpr ⟨h, htick now rfl⟩
  | receive call =>
    obtain ⟨-, hrefused⟩ | ⟨hnone, haccepted⟩ := receiveAndRelay_cases s call
    · rw [step, hrefused]
      exact h
    · -- an envelope that is taken has other identifiers
      have hother : x ∉ call.ids := fun hx => by simp [hnone x hx] at h
      simp only [Incoming.ids, List.mem_cons, List.not_mem_nil, or_false, not_or] at hother
      rw [step, haccepted, dedupe_record, if_neg hother.2, if_neg hother.1]
      exact h

theorem dedupe_exec (h : s.dedupe x = some r) {events : List Event}
    (hticks : ∀ now, .tick now ∈ events → now - r ≤ tenMinutes) :
    (s.exec events).dedupe x = some r := by
  induction events generalizing s with
  | nil => exact h
  | cons event events ih =>
    refine ih (dedupe_step h fun now hnow => hticks now ?_) fun now hmem =>
      hticks now (List.mem_cons_of_mem _ hmem)
    rw [hnow]
    exact List.mem_cons_self

/-! ### What is in the map was recorded -/

/-- What comes into the map is recorded by an envelope that is taken. -/
theorem recorded_of_step {event : Event} (hbefore : s.dedupe x ≠ some r)
    (h : (s.step event).dedupe x = some r) :
    ∃ call, event = .receive call ∧ s.Accepts call ∧ (x, r) ∈ call.recorded := by
  cases event with
  | tick now => exact absurd (dedupe_tick.mp h).1 hbefore
  | receive call =>
    obtain ⟨-, hrefused⟩ | ⟨-, haccepted⟩ := receiveAndRelay_cases s call
    · rw [step, hrefused] at h
      exact absurd h hbefore
    · refine ⟨call, rfl, congrArg Prod.fst haccepted, ?_⟩
      rw [step, haccepted, dedupe_record] at h
      split_ifs at h with hnonce htxn
      · simp [Incoming.recorded, hnonce, Option.some.inj h]
      · simp [Incoming.recorded, htxn, Option.some.inj h]
      · exact absurd h hbefore

/-- What is in the map was recorded by an envelope that was taken, and no tick since then was more
than ten minutes later. -/
theorem exists_recorded {relayID : String} {retryLimit : ℤ} {events : List Event}
    (h : ((newService relayID retryLimit).exec events).dedupe x = some r) :
    ∃ before call after, events = before ++ .receive call :: after ∧
      ((newService relayID retryLimit).exec before).Accepts call ∧ (x, r) ∈ call.recorded ∧
      ∀ now, .tick now ∈ after → now - r ≤ tenMinutes := by
  have hstart : (newService relayID retryLimit).dedupe x ≠ some r := by simp [newService]
  obtain ⟨before, event, after, rfl, hbefore, hevent, hafter⟩ :=
    Run.exists_last_step (J := fun s : Service => s.dedupe x = some r) hstart h
  obtain ⟨call, rfl, haccepted, hrecorded⟩ := recorded_of_step hbefore hevent
  refine ⟨before, call, after, rfl, haccepted, hrecorded, fun now hnow => ?_⟩
  have hkept := Run.forall_label_of_steps
    (Q := fun event => ∀ now, event = .tick now → now - r ≤ tenMinutes) ?_ hafter
  · exact hkept _ hnow now rfl
  · rintro s event ⟨-, hheld⟩ now rfl
    exact (dedupe_tick.mp hheld).2

/-! ### Two envelopes with a common identifier -/

/-- An envelope that is taken leaves each of its identifiers in the map, with a time that is not
before it was taken. -/
theorem Accepts.exists_recorded (h : s.Accepts call) (hclock : call.txnAt ≤ call.nonceAt)
    (hx : x ∈ call.ids) : ∃ r, call.txnAt ≤ r ∧ (s.step (.receive call)).dedupe x = some r := by
  rw [h.step_eq, dedupe_record]
  by_cases hnonce : x = call.env.nonce
  · exact ⟨call.nonceAt, hclock, if_pos hnonce⟩
  · have htxn : x = call.env.txnID := by simpa [Incoming.ids, hnonce] using hx
    exact ⟨call.txnAt, le_refl _, by rw [if_neg hnonce, if_pos htxn]⟩

/-- What is read from the clock earlier is not later. -/
theorem readings_le {es fs : List Event}
    (hclock : ((es ++ fs).flatMap Event.readings).Pairwise (· ≤ ·)) {e f : Event} (he : e ∈ es)
    (hf : f ∈ fs) {t u : Time} (ht : t ∈ e.readings) (hu : u ∈ f.readings) : t ≤ u := by
  rw [List.flatMap_append, List.pairwise_append] at hclock
  exact hclock.2.2 t (List.mem_flatMap.mpr ⟨e, he, ht⟩) u (List.mem_flatMap.mpr ⟨f, hf, hu⟩)

/-- For every sequence of calls and ticks during which the clock does not go back: two envelopes
that are taken within ten minutes have no identifier in common, and an envelope is refused only if
one of its identifiers was recorded by an envelope that was taken and no tick since then was more
than ten minutes after the time recorded. An envelope is taken when its first identifier is
recorded. -/
theorem relay_dedupe (relayID : String) (retryLimit : ℤ) {events : List Event}
    (hclock : (events.flatMap Event.readings).Pairwise (· ≤ ·)) :
    (∀ before a between b after,
      events = before ++ .receive a :: (between ++ .receive b :: after) →
      ((newService relayID retryLimit).exec before).Accepts a →
      ((newService relayID retryLimit).exec (before ++ .receive a :: between)).Accepts b →
      b.txnAt - a.txnAt ≤ tenMinutes → a.ids.Disjoint b.ids) ∧
    ∀ before call after, events = before ++ .receive call :: after →
      ((newService relayID retryLimit).exec before).Refuses call →
      ∃ x ∈ call.ids, ∃ first a since r, before = first ++ .receive a :: since ∧
        ((newService relayID retryLimit).exec first).Accepts a ∧ (x, r) ∈ a.recorded ∧
        ∀ now, .tick now ∈ since → now - r ≤ tenMinutes := by
  constructor
  · rintro before a between b after rfl ha hb hwithin x hxa hxb
    have hreadings : a.txnAt ≤ a.nonceAt := by
      rw [List.flatMap_append, List.flatMap_cons, List.pairwise_append, List.pairwise_append]
        at hclock
      simpa [Event.readings] using hclock.2.1.1
    obtain ⟨r, hr, hrecorded⟩ := ha.exists_recorded hreadings hxa
    have hticks : ∀ now, .tick now ∈ between → now - r ≤ tenMinutes := by
      intro now hnow
      rw [← List.cons_append, ← List.append_assoc] at hclock
      have hbefore : now ≤ b.txnAt := readings_le hclock (e := .tick now) (f := .receive b)
        (by simp [hnow]) List.mem_cons_self (by simp [Event.readings]) (by simp [Event.readings])
      exact (sub_le_sub hbefore hr).trans hwithin
    -- so the identifier is still there when `b` comes
    have hheld := dedupe_exec hrecorded hticks
    have hnone := hb.dedupe_eq_none hxb
    rw [exec, Run.exec_append, Run.exec_cons] at hnone
    exact Option.some_ne_none r (hheld.symm.trans hnone)
  · rintro before call after - hrefused
    obtain ⟨x, hx, hfound⟩ := hrefused.exists_found
    obtain ⟨r, hr⟩ := Option.ne_none_iff_exists'.mp hfound
    obtain ⟨first, a, since, heq, haccepted, hrecorded, hticks⟩ := exists_recorded hr
    exact ⟨x, hx, first, a, since, r, heq, haccepted, hrecorded, hticks⟩

/-- An envelope with these identifiers. -/
def envelope (txnID nonce : String) : EncryptedEnvelope := ⟨"", "", nonce, "", txnID, ""⟩

/-- A call with an envelope. -/
def callAt (txnID nonce : String) (txnAt nonceAt : Time) : Incoming :=
  ⟨envelope txnID nonce, 0, txnAt, nonceAt⟩

/-- The nonce of the first envelope comes back as a transaction id, at once and when it has been
removed. The transaction id was recorded before the nonce, and the first tick removes it alone. -/
def returning : List Event :=
  [.receive (callAt "T" "N" 0 1), .receive (callAt "N" "" 2 2), .tick 600000000001,
    .receive (callAt "T" "M" 600000000002 600000000002), .tick 600000000002,
    .receive (callAt "N" "" 600000000003 600000000003)]

theorem relay_dedupe_returning : (returning.flatMap Event.readings).Pairwise (· ≤ ·) ∧
    ((newService "R" 0).exec (returning.take 1)).Refuses (callAt "N" "" 2 2) ∧
    ((newService "R" 0).exec (returning.take 3)).Accepts
      (callAt "T" "M" 600000000002 600000000002) ∧
    ((newService "R" 0).exec (returning.take 5)).Accepts
      (callAt "N" "" 600000000003 600000000003) ∧
    (callAt "T" "M" 600000000002 600000000002).ids.Disjoint
      (callAt "N" "" 600000000003 600000000003).ids := by
  have hrun : (returning.flatMap Event.readings).Pairwise (· ≤ ·) ∧
      ((newService "R" 0).exec (returning.take 1)).Refuses (callAt "N" "" 2 2) ∧
      ((newService "R" 0).exec (returning.take 3)).Accepts
        (callAt "T" "M" 600000000002 600000000002) ∧
      ((newService "R" 0).exec (returning.take 5)).Accepts
        (callAt "N" "" 600000000003 600000000003) := by
    decide +kernel
  obtain ⟨hclock, hrefused, hfirst, hsecond⟩ := hrun
  exact ⟨hclock, hrefused, hfirst, hsecond, (relay_dedupe "R" 0 hclock).1 (returning.take 3) _
    [.tick 600000000002] _ [] rfl hfirst hsecond (by decide)⟩

end Service

/-! ## Backoff -/

/-- The answer of `Settle`, if this is a call of it. -/
def Action.answer? : Action → Option (Except GoError String)
  | .settle answer => some answer
  | _ => none

/-- The answers of `Settle`, in the order of the calls. -/
def answers (actions : List Action) : List (Except GoError String) :=
  actions.filterMap Action.answer?

/-- The jitter is drawn from a range that is not empty, the relay sleeps, for five seconds at most,
and `Settle` is called no more than `limit` times and not after a success. -/
structure InRange (limit : ℤ) (actions : List Action) : Prop where
  int63n_pos : ∀ n, .int63n n ∈ actions → 0 < n
  sleep : ∀ duration, .sleep duration ∈ actions → 0 < duration ∧ duration ≤ maxBackoff
  calls : ((answers actions).length : ℤ) ≤ max limit 0
  last : (answers actions).Pairwise fun earlier _ => ∃ e, earlier = .error e

namespace Service

variable {s : Service} {env : EncryptedEnvelope} {hopCount : ℤ} {rounds : List Round}

/-- What an iteration does: nothing after the last attempt; the last call of `Settle`; a panic; or a
failed call, a sleep and the next iterations. -/
theorem forwardLoop_cons (s : Service) (env : EncryptedEnvelope) (hopCount attempt : ℤ)
    (backoff : Int64) (round : Round) (rounds : List Round) :
    let actions := s.forwardLoop env hopCount attempt backoff (round :: rounds)
    let forwarding := Action.recordRelayAttempt (s.attempt env hopCount "FORWARDING")
    (s.retryLimit < attempt ∧ actions = []) ∨
    (attempt ≤ s.retryLimit ∧ ∃ status, actions =
      [forwarding, .settle round.answer, .recordRelayAttempt (s.attempt env hopCount status)]) ∨
    (attempt < s.retryLimit ∧ ∃ message, int63n round.draw backoff = .error message ∧ actions =
      [forwarding, .settle round.answer, .int63n backoff, .panic message]) ∨
    (attempt < s.retryLimit ∧ ∃ e jitter, round.answer = .error e ∧
      int63n round.draw backoff = .ok jitter ∧ actions =
        forwarding :: .settle (.error e) :: .int63n backoff :: .sleep (sleepTime backoff jitter) ::
          s.forwardLoop env hopCount (attempt + 1) (backoff * 2) rounds) := by
  intro actions forwarding
  by_cases hover : attempt ≤ s.retryLimit
  · cases hanswer : round.answer with
    | ok status =>
      refine .inr (.inl ⟨hover, "ACK_" ++ status, ?_⟩)
      simp [actions, forwarding, forwardLoop, hover, hanswer]
    | error e =>
      by_cases hlast : attempt = s.retryLimit
      · refine .inr (.inl ⟨hover, "NACK_FAILED", ?_⟩)
        simp [actions, forwarding, forwardLoop, hlast, hanswer]
      · have hlt : attempt < s.retryLimit := lt_of_le_of_ne hover hlast
        cases hdraw : int63n round.draw backoff with
        | error message =>
          refine .inr (.inr (.inl ⟨hlt, message, rfl, ?_⟩))
          simp [actions, forwarding, forwardLoop, hover, hlast, hanswer, hdraw]
        | ok jitter =>
          refine .inr (.inr (.inr ⟨hlt, e, jitter, rfl, rfl, ?_⟩))
          simp [actions, forwarding, forwardLoop, hover, hlast, hanswer, hdraw]
  · exact .inl ⟨not_le.mp hover, if_neg hover⟩

/-- Whatever the backoff is, `Settle` is called once per attempt at most, and a success is the last
call. -/
theorem answers_forwardLoop (s : Service) (env : EncryptedEnvelope) (hopCount attempt : ℤ)
    (backoff : Int64) (rounds : List Round) :
    (answers (s.forwardLoop env hopCount attempt backoff rounds)).length
        ≤ (s.retryLimit + 1 - attempt).toNat ∧
      (answers (s.forwardLoop env hopCount attempt backoff rounds)).Pairwise
        fun earlier _ => ∃ e, earlier = .error e := by
  induction rounds generalizing attempt backoff with
  | nil => simp [forwardLoop, answers]
  | cons round rounds ih =>
    obtain ⟨-, h⟩ | ⟨hover, _, h⟩ | ⟨hlt, _, -, h⟩ | ⟨hlt, e, jitter, -, -, h⟩ :=
      forwardLoop_cons s env hopCount attempt backoff round rounds
    · rw [h]
      exact ⟨Nat.zero_le _, List.Pairwise.nil⟩
    · rw [h]
      exact ⟨show 1 ≤ _ by omega, List.pairwise_singleton _ _⟩
    · rw [h]
      exact ⟨show 1 ≤ _ by omega, List.pairwise_singleton _ _⟩
    · obtain ⟨hlength, hlast⟩ := ih (attempt + 1) (backoff * 2)
      have hanswers : answers (s.forwardLoop env hopCount attempt backoff (round :: rounds))
          = .error e ::
            answers (s.forwardLoop env hopCount (attempt + 1) (backoff * 2) rounds) := by
        rw [h]
        rfl
      rw [hanswers]
      refine ⟨?_, List.pairwise_cons.mpr ⟨fun _ _ => ⟨e, rfl⟩, hlast⟩⟩
      rw [List.length_cons]
      omega

/-! ### The first thirty-six iterations -/

/-- The backoff after `k` doublings. -/
def backoffAt (k : ℕ) : Int64 := Int64.ofInt (100000000 * 2 ^ k)

theorem backoffAt_succ (k : ℕ) : backoffAt k * 2 = backoffAt (k + 1) := by
  rw [backoffAt, backoffAt, pow_succ, ← mul_assoc, Int64.ofInt_mul (100000000 * 2 ^ k)]
  rfl

theorem toInt_backoffAt {k : ℕ} (hk : k ≤ 36) : (backoffAt k).toInt = 100000000 * 2 ^ k := by
  have hpow : (2 : ℤ) ^ k ≤ 2 ^ 36 := pow_le_pow_right₀ (by decide) hk
  have hpos : (0 : ℤ) < 2 ^ k := by positivity
  rw [backoffAt, Int64.toInt_ofInt, show Int64.size = 2 ^ 64 from rfl,
    Checked.bmod_size (by omega) (by omega), if_pos (by omega)]

theorem backoffAt_pos {k : ℕ} (hk : k ≤ 36) : 0 < backoffAt k := by
  have hpos : (0 : ℤ) < 2 ^ k := by positivity
  rw [Int64.lt_iff_toInt_lt, toInt_backoffAt hk]
  simp

/-- What is drawn is below the bound. -/
theorem int63n_lt {draw : ℕ} {n jitter : Int64} (h : int63n draw n = .ok jitter) :
    0 ≤ jitter.toInt ∧ jitter.toInt < n.toInt := by
  unfold int63n at h
  split_ifs at h with hn
  obtain rfl := Except.ok.inj h
  have hpos := Checked.toInt_pos (Int64.not_le.mp hn)
  have hnonneg := Int.emod_nonneg draw hpos.ne'
  have hmod := Int.emod_lt_of_pos draw hpos
  have hlt := n.toInt_lt
  rw [Int64.toInt_ofInt, show Int64.size = 2 ^ 64 from rfl, Checked.bmod_size hnonneg (by omega),
    if_pos (by omega)]
  exact ⟨hnonneg, hmod⟩

/-- With a backoff that can be doubled, the relay sleeps. -/
theorem sleepTime_in_range {backoff jitter : Int64} (hdouble : 2 * backoff.toInt ≤ 2 ^ 63)
    (hbackoff : 0 < backoff) (hjitter : 0 ≤ jitter.toInt ∧ jitter.toInt < backoff.toInt) :
    0 < sleepTime backoff jitter ∧ sleepTime backoff jitter ≤ maxBackoff := by
  have hpos := Checked.toInt_pos hbackoff
  have hsum : 0 < backoff + jitter := by
    rw [Int64.lt_iff_toInt_lt, Int64.toInt_add, Checked.bmod_size (by omega) (by omega),
      if_pos (by omega)]
    exact add_pos_of_pos_of_nonneg hpos hjitter.1
  unfold sleepTime
  dsimp only
  split_ifs with hmax
  · exact ⟨by decide, Int64.le_refl _⟩
  · exact ⟨hsum, Int64.not_lt.mp hmax⟩

/-- What the loop does from its iteration `k + 1` on. -/
def loopFrom (s : Service) (env : EncryptedEnvelope) (hopCount : ℤ) (k : ℕ) (rounds : List Round) :
    List Action :=
  s.forwardLoop env hopCount (k + 1) (backoffAt k) rounds

theorem forwardWithRetry_eq (s : Service) (env : EncryptedEnvelope) (hopCount : ℤ)
    (rounds : List Round) :
    s.forwardWithRetry env hopCount rounds = s.loopFrom env hopCount 0 rounds :=
  rfl

theorem forwardLoop_double (s : Service) (env : EncryptedEnvelope) (hopCount : ℤ) (k : ℕ)
    (rounds : List Round) : s.forwardLoop env hopCount (k + 1 + 1) (backoffAt k * 2) rounds
      = s.loopFrom env hopCount (k + 1) rounds := by
  rw [backoffAt_succ, loopFrom, Nat.cast_add_one]

/-- With a limit of 37 the jitter is drawn, and the relay sleeps, after at most 36 attempts. -/
theorem loopFrom_in_range (hlimit : s.retryLimit ≤ 37) (env : EncryptedEnvelope) (hopCount : ℤ)
    (k : ℕ) (rounds : List Round) :
    (∀ n, .int63n n ∈ s.loopFrom env hopCount k rounds → 0 < n) ∧
    ∀ duration, .sleep duration ∈ s.loopFrom env hopCount k rounds →
      0 < duration ∧ duration ≤ maxBackoff := by
  induction rounds generalizing k with
  | nil => simp [loopFrom, forwardLoop]
  | cons round rounds ih =>
    rw [loopFrom]
    obtain ⟨-, h⟩ | ⟨-, _, h⟩ | ⟨hlt, _, -, h⟩ | ⟨hlt, e, jitter, -, hjitter, h⟩ :=
      forwardLoop_cons s env hopCount (k + 1) (backoffAt k) round rounds
    · simp [h]
    · simp [h]
    · have hpos : 0 < backoffAt k := backoffAt_pos (by omega)
      simpa [h] using hpos
    · have hk : k ≤ 35 := by omega
      have hpos : 0 < backoffAt k := backoffAt_pos (by omega)
      have hdouble : 2 * (backoffAt k).toInt ≤ 2 ^ 63 := by
        have hpow : (2 : ℤ) ^ k ≤ 2 ^ 35 := pow_le_pow_right₀ (by decide) hk
        rw [toInt_backoffAt (by omega)]
        omega
      have hsleep := sleepTime_in_range hdouble hpos (int63n_lt hjitter)
      obtain ⟨hrange, hsleeps⟩ := ih (k + 1)
      rw [h, forwardLoop_double]
      refine ⟨fun n hn => ?_, fun duration hduration => ?_⟩
      · simp only [List.mem_cons, reduceCtorEq, false_or, Action.int63n.injEq] at hn
        obtain rfl | hn := hn
        · exact hpos
        · exact hrange n hn
      · simp only [List.mem_cons, reduceCtorEq, false_or, Action.sleep.injEq] at hduration
        obtain rfl | hduration := hduration
        · exact hsleep
        · exact hsleeps duration hduration

/-! ### Every limit -/

/-- A round in which `Settle` fails. -/
def failedRound (draw : ℕ) : Round := ⟨.error ⟨"connection refused", false⟩, draw⟩

/-- A failed round before the last attempt, with a backoff that has not wrapped. -/
theorem loopFrom_failed (env : EncryptedEnvelope) (hopCount : ℤ) {k : ℕ} (hk : k ≤ 36)
    (hlimit : k + 1 < s.retryLimit) (draw : ℕ) (rounds : List Round) :
    ∃ jitter, int63n draw (backoffAt k) = .ok jitter ∧
      s.loopFrom env hopCount k (failedRound draw :: rounds)
        = .recordRelayAttempt (s.attempt env hopCount "FORWARDING") ::
          .settle (failedRound draw).answer :: .int63n (backoffAt k) ::
          .sleep (sleepTime (backoffAt k) jitter) :: s.loopFrom env hopCount (k + 1) rounds := by
  have hpos := backoffAt_pos hk
  refine ⟨_, if_neg (Int64.not_le.mpr hpos), ?_⟩
  rw [← forwardLoop_double, loopFrom, forwardLoop, if_pos hlimit.le]
  simp only [failedRound, if_neg hlimit.ne]
  rw [int63n, if_neg (Int64.not_le.mpr hpos)]

/-- After failures that are not too many the loop goes on. -/
theorem mem_forwardWithRetry {action : Action} {n : ℕ} (hn : n ≤ 36) (hlimit : n < s.retryLimit)
    (h : action ∈ s.loopFrom env hopCount n rounds) :
    action ∈ s.forwardWithRetry env hopCount (List.replicate n (failedRound 0) ++ rounds) := by
  induction n generalizing rounds with
  | zero =>
    rw [forwardWithRetry_eq]
    exact h
  | succ n ih =>
    rw [List.replicate_succ', List.append_assoc]
    refine ih (by omega) (by omega) ?_
    obtain ⟨jitter, -, hloop⟩ :=
      loopFrom_failed (s := s) env hopCount (k := n) (by omega) (by omega) 0 rounds
    rw [List.singleton_append, hloop]
    simp [h]

theorem forwardWithRetry_in_range (hlimit : s.retryLimit ≤ 37) (env : EncryptedEnvelope)
    (hopCount : ℤ) (rounds : List Round) :
    InRange s.retryLimit (s.forwardWithRetry env hopCount rounds) := by
  obtain ⟨hpos, hsleep⟩ := loopFrom_in_range hlimit env hopCount 0 rounds
  rw [← forwardWithRetry_eq] at hpos hsleep
  obtain ⟨hcalls, hlast⟩ := answers_forwardLoop s env hopCount 1 100000000 rounds
  rw [← forwardWithRetry] at hcalls hlast
  exact ⟨hpos, hsleep, by omega, hlast⟩

/-- The draw that makes the sum in the iteration 37 as large as it can be. -/
def largestDraw : ℕ := 6871947673599999999

/-- In the iteration 37 the sum can wrap around, and the relay does not sleep. -/
theorem exists_not_in_range (hlimit : 37 < s.retryLimit) (limit : ℤ) :
    ∃ env hopCount rounds, ¬InRange limit (s.forwardWithRetry env hopCount rounds) := by
  have hwraps : ∀ jitter, int63n largestDraw (backoffAt 36) = .ok jitter →
      sleepTime (backoffAt 36) jitter = -4702848726509551617 := by
    intro jitter hjitter
    have hdrawn : int63n largestDraw (backoffAt 36) = .ok 6871947673599999999 := by decide +kernel
    obtain rfl := Except.ok.inj (hdrawn.symm.trans hjitter)
    decide +kernel
  obtain ⟨jitter, hjitter, hloop⟩ :=
    loopFrom_failed (envelope "T" "N") 1 (k := 36) (le_refl _) hlimit largestDraw []
  refine ⟨envelope "T" "N", 1, List.replicate 36 (failedRound 0) ++ [failedRound largestDraw],
    fun h => ?_⟩
  have hmem : .sleep (sleepTime (backoffAt 36) jitter) ∈ s.forwardWithRetry (envelope "T" "N") 1
      (List.replicate 36 (failedRound 0) ++ [failedRound largestDraw]) :=
    mem_forwardWithRetry (le_refl _) (by omega) (by simp [hloop])
  have hsleep := (h.sleep _ hmem).1
  rw [hwraps jitter hjitter] at hsleep
  exact absurd hsleep (by decide)

/-- For every limit, every sequence of answers of `Settle` and every sequence of draws: the jitter
is drawn from a range that is not empty, the relay sleeps, for five seconds at most, and `Settle` is
called at most as often as the limit of the service says and not after a success, exactly if the
limit is at most 37. The limit of the service is the argument of `NewService`, unless that is 0: it
stands for 5, and `Settle` is called more than 0 times. -/
theorem backoff_in_range_iff (relayID : String) (retryLimit : ℤ) :
    ((∀ env hopCount rounds, InRange (newService relayID retryLimit).retryLimit
      ((newService relayID retryLimit).forwardWithRetry env hopCount rounds)) ↔ retryLimit ≤ 37) ∧
    ((∀ env hopCount rounds, InRange retryLimit
      ((newService relayID retryLimit).forwardWithRetry env hopCount rounds)) ↔
        retryLimit ≤ 37 ∧ retryLimit ≠ 0) := by
  by_cases hzero : retryLimit = 0
  · subst hzero
    have hfive : (newService relayID 0).retryLimit ≤ 37 := show (5 : ℤ) ≤ 37 by decide
    refine ⟨⟨fun _ => by decide, fun _ => forwardWithRetry_in_range hfive⟩,
      fun h => ?_, fun h => absurd rfl h.2⟩
    have hcalls : (1 : ℤ) ≤ 0 := (h (envelope "T" "N") 1 [failedRound 0]).calls
    exact absurd hcalls (by decide)
  · have hlimit : (newService relayID retryLimit).retryLimit = retryLimit := if_neg hzero
    have hiff : (∀ env hopCount rounds, InRange retryLimit
        ((newService relayID retryLimit).forwardWithRetry env hopCount rounds)) ↔
          retryLimit ≤ 37 := by
      constructor
      · intro h
        by_contra hover
        obtain ⟨env, hopCount, rounds, hnot⟩ := exists_not_in_range
          (s := newService relayID retryLimit) (by omega) retryLimit
        exact hnot (h env hopCount rounds)
      · intro hle env hopCount rounds
        have hrange := forwardWithRetry_in_range (s := newService relayID retryLimit)
          (by omega) env hopCount rounds
        rwa [hlimit] at hrange
    rw [hlimit]
    exact ⟨hiff, hiff.trans (and_iff_left hzero).symm⟩

/-- With a limit of 39, `Int63n` panics after 38 failures. -/
theorem patient_relay_panics :
    .int63n (-4702848726509551616) ∈ (newService "R" 39).forwardWithRetry (envelope "T" "N") 1
      (List.replicate 38 (failedRound 0)) ∧
    .panic "invalid argument to Int63n" ∈ (newService "R" 39).forwardWithRetry (envelope "T" "N") 1
      (List.replicate 38 (failedRound 0)) ∧
    ¬InRange 39 ((newService "R" 39).forwardWithRetry (envelope "T" "N") 1
      (List.replicate 38 (failedRound 0))) := by
  have hrun : .int63n (-4702848726509551616) ∈ (newService "R" 39).forwardWithRetry
        (envelope "T" "N") 1 (List.replicate 38 (failedRound 0)) ∧
      .panic "invalid argument to Int63n" ∈ (newService "R" 39).forwardWithRetry
        (envelope "T" "N") 1 (List.replicate 38 (failedRound 0)) := by
    decide +kernel
  exact ⟨hrun.1, hrun.2, fun h => absurd (h.int63n_pos _ hrun.1) (by decide)⟩

end Service

end OfflinePay.Relay
