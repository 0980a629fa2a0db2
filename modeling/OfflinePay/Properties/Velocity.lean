import OfflinePay.Risk.Engine

/-!
# The velocity window under concurrency

An assessment trims the window of its device, adds its own entry, sets the time to live and counts,
with four commands between which other assessments of the device run theirs. The count still is the
size of a set of readings of this device which has every reading of the last minute whose entry has
reached the server, and nothing that was outside the window of the assessment when it trimmed.

Two things could spoil the lower bound. A trim removes what is older than a minute only, up to the
resolution of a double. And the key could reach its deadline: that is so only when nobody is between
the trim and `EXPIRE` (`Sound.deadline`), because an assessment that finds entries of the last minute
sets the deadline anew within four minutes, and one that does not removes the key.
-/

namespace OfflinePay.Risk

open Rounding Redis

/-! ## Keys and lists -/

theorem velocityKey_inj {d d' : String} (h : velocityKey d = velocityKey d') : d = d' :=
  (String.append_right_inj "velocity:").1 h

theorem locKey_ne_velocityKey (d d' : String) : locKey d ≠ velocityKey d' := by
  intro h
  have hhead := congrArg (fun s : String => s.toList.head?) h
  simp [locKey, velocityKey] at hhead

/-- Replacing an element leaves the others. -/
theorem mem_set_of_ne {α : Type} {l : List α} {i : ℕ} {c x y : α} (hc : l[i]? = some c) (hx : x ∈ l)
    (hne : x ≠ c) : x ∈ l.set i y := by
  obtain ⟨j, hj⟩ := List.mem_iff_getElem?.1 hx
  have hij : i ≠ j := by
    rintro rfl
    exact hne (Option.some.inj (hj.symm.trans hc))
  exact List.mem_iff_getElem?.2 ⟨j, by rw [List.getElem?_set_ne hij, hj]⟩

theorem mem_set_self {α : Type} {l : List α} {i : ℕ} {c y : α} (hc : l[i]? = some c) :
    y ∈ l.set i y :=
  List.mem_set (List.getElem?_eq_some_iff.1 hc).1 y

/-! ## What a command does -/

/-- The assessment is between its trim and `EXPIRE`. -/
def Call.InFlight (c : Call) : Prop := c.pc = .zadd ∨ c.pc = .expire

instance (c : Call) : Decidable c.InFlight := inferInstanceAs (Decidable (_ ∨ _))

/-- The parts of an assessment that no command changes. -/
structure Call.Same (c c' : Call) : Prop where
  dev : c'.dev = c.dev
  now : c'.now = c.now
  windowStart : c'.windowStart = c.windowStart

theorem Call.Same.deviceID {c c' : Call} (h : c.Same c') : c'.deviceID = c.deviceID := by
  rw [Call.deviceID, Call.deviceID, h.dev]

/-- The score of an entry. -/
abbrev score (m : Time) : ℚ := round64 m

/-- What a command does to its assessment and to the window of the device. -/
inductive Moved (c : Call) (t : Time) (ok : Bool) (slot : Slot Time Location) :
    Call → Slot Time Location → Prop where
  | trimmed {c' slot'} (hpc : c.pc = .zremrangebyscore) (hpc' : c'.pc = .zadd)
      (hadded : c'.added = c.added)
      (hslot : slot.zremrangebyscore (serverTime t) 0 (score c.windowStart) = .ok slot') :
      Moved c t ok slot c' slot'
  | added {c' slot'} (hpc : c.pc = .zadd) (hpc' : c'.pc = .expire) (hadded : c'.added = true)
      (hslot : slot.zadd (serverTime t) (score c.now) c.now = .ok slot') :
      Moved c t ok slot c' slot'
  | refreshed {c'} (hpc : c.pc = .expire) (hpc' : c'.pc = .zcard) (hadded : c'.added = c.added) :
      Moved c t ok slot c' (slot.expire (serverTime t) velocityTTL)
  | quiet {c'} (hpc : c.InFlight → ok = false) (hpc' : ¬c'.InFlight)
      (hstart : c'.pc ≠ .zremrangebyscore)
      (hcard : c'.pc = .zcard → c.pc = .expire) (hadded : c'.added = c.added) :
      Moved c t ok slot c' slot

theorem afterVelocity_pc (c : Call) : c.afterVelocity.pc = .getLocation ∨
    c.afterVelocity.pc = .returned := by
  unfold Call.afterVelocity
  dsimp only
  split_ifs
  · exact Or.inl rfl
  · exact Or.inr rfl

/-- A command that ends the velocity check changes no window. -/
theorem moved_afterVelocity {c c' : Call} {t : Time} {ok : Bool} {slot : Slot Time Location}
    (hpc : c.InFlight → ok = false) (hadded : c'.added = c.added) :
    Moved c t ok slot c'.afterVelocity slot := by
  refine .quiet hpc ?_ ?_ ?_ hadded
  · rcases afterVelocity_pc c' with h | h <;> simp [Call.InFlight, h]
  · rcases afterVelocity_pc c' with h | h <;> simp [h]
  · intro hcard
    rcases afterVelocity_pc c' with h | h <;> simp [h] at hcard

theorem command_same (c : Call) (t : Time) (ok : Bool) (redis : Store String Time Location) :
    c.Same (c.command t ok redis).1 := by
  unfold Call.command
  dsimp only
  split <;> (try split) <;> (try split) <;> exact ⟨rfl, rfl, rfl⟩

/-- The windows of other devices are not touched. -/
theorem command_other (c : Call) (t : Time) (ok : Bool) (redis : Store String Time Location)
    {d : String} (h : d ≠ c.deviceID) :
    (c.command t ok redis).2 (velocityKey d) = redis (velocityKey d) := by
  have hkey : velocityKey d ≠ velocityKey c.deviceID := fun heq => h (velocityKey_inj heq)
  have hloc : velocityKey d ≠ locKey c.deviceID := (locKey_ne_velocityKey _ _).symm
  unfold Call.command
  dsimp only
  split <;> (try split) <;> (try split) <;>
    simp only [Function.update_of_ne hkey, Function.update_of_ne hloc]

theorem command_moved (c : Call) (t : Time) (ok : Bool) (redis : Store String Time Location)
    (h : (redis (velocityKey c.deviceID)).Scored score) :
    Moved c t ok (redis (velocityKey c.deviceID)) (c.command t ok redis).1
      ((c.command t ok redis).2 (velocityKey c.deviceID)) := by
  have hloc : velocityKey c.deviceID ≠ locKey c.deviceID := (locKey_ne_velocityKey _ _).symm
  unfold Call.command
  dsimp only
  cases hpc : c.pc with
  | zremrangebyscore =>
    cases ok with
    | false => exact moved_afterVelocity (fun _ => rfl) rfl
    | true =>
      obtain ⟨slot', hslot, -⟩ :=
        Slot.zremrangebyscore_spec h (serverTime t) 0 (score c.windowStart)
      simp only [if_true, hslot, Function.update_self]
      exact .trimmed hpc rfl rfl hslot
  | zadd =>
    cases ok with
    | false => exact moved_afterVelocity (fun _ => rfl) rfl
    | true =>
      obtain ⟨slot', hslot, -⟩ := Slot.zadd_spec h (serverTime t) c.now
      simp only [if_true, hslot, Function.update_self]
      exact .added hpc rfl rfl hslot
  | expire =>
    cases ok with
    | false => exact .quiet (fun _ => rfl) (by simp [Call.InFlight]) (by simp) (fun _ => hpc) rfl
    | true =>
      simp only [if_true, Function.update_self]
      exact .refreshed hpc rfl rfl
  | zcard =>
    have hflight : c.InFlight → ok = false := by simp [Call.InFlight, hpc]
    cases ok with
    | false => exact moved_afterVelocity hflight rfl
    | true =>
      simp only [if_true, Slot.zcard_spec h]
      exact moved_afterVelocity hflight rfl
  | getLocation =>
    have hflight : c.InFlight → ok = false := by simp [Call.InFlight, hpc]
    dsimp only
    split
    · split <;> exact .quiet hflight (by simp [Call.InFlight]) (by simp) (by simp) rfl
    · exact .quiet hflight (by simp [Call.InFlight]) (by simp) (by simp) rfl
  | setLocation =>
    have hflight : c.InFlight → ok = false := by simp [Call.InFlight, hpc]
    dsimp only
    split
    · rw [Function.update_of_ne hloc]
      exact .quiet hflight (by simp [Call.InFlight]) (by simp) (by simp) rfl
    · exact .quiet hflight (by simp [Call.InFlight]) (by simp) (by simp) rfl
  | returned =>
    exact .quiet (by simp [Call.InFlight, hpc]) (by simp [Call.InFlight, hpc]) (by simp [hpc])
      (by simp [hpc]) rfl

/-! ## The invariant -/

/-- The longest that a command reaches the server after the clock was read. -/
def patience : Time := 240000000000

/-- The clock does not go back. -/
def Label.After (clock : Time) : Label → Prop
  | .start _ _ now later => clock ≤ now ∧ now ≤ later
  | .command _ t _ => clock ≤ t

instance (clock : Time) : (l : Label) → Decidable (l.After clock)
  | .start _ _ now later => inferInstanceAs (Decidable (clock ≤ now ∧ now ≤ later))
  | .command _ t _ => inferInstanceAs (Decidable (clock ≤ t))

/-- A command between a trim and the end of `EXPIRE` reaches the server. -/
def Label.Delivered (calls : List Call) : Label → Prop
  | .start _ _ _ _ => True
  | .command i _ ok => ∀ c ∈ calls[i]?, c.InFlight → ok = true

instance (calls : List Call) : (l : Label) → Decidable (l.Delivered calls)
  | .start _ _ _ _ => inferInstanceAs (Decidable True)
  | .command i _ ok => inferInstanceAs (Decidable (∀ c ∈ calls[i]?, c.InFlight → ok = true))

/-- What is assumed of a label: the clock does not go back, no assessment stays between its trim and
`EXPIRE` until four minutes after it read the clock, and these commands reach the server. -/
structure Timely (s : State) (l : Label) : Prop where
  after : l.After s.clock
  prompt : ∀ c ∈ s.calls, c.InFlight → l.time < c.now + patience
  delivered : l.Delivered s.calls

instance (s : State) (l : Label) : Decidable (Timely s l) :=
  decidable_of_iff (l.After s.clock ∧ (∀ c ∈ s.calls, c.InFlight → l.time < c.now + patience) ∧
    l.Delivered s.calls) ⟨fun h => ⟨h.1, h.2.1, h.2.2⟩, fun h => ⟨h.after, h.prompt, h.delivered⟩⟩

namespace State

/-- The velocity window of a device. -/
def windowOf (s : State) (d : String) : Slot Time Location := s.redis (velocityKey d)

/-- Some assessment of the device is between its trim and `EXPIRE`, and read the clock at least four
minutes before the deadline. -/
def Attended (s : State) (d : String) (deadline : ℤ) : Prop :=
  ∃ c ∈ s.calls, c.deviceID = d ∧ c.InFlight ∧ serverTime c.now + 240000 ≤ deadline

/-- No assessment of the device is between its trim and `EXPIRE`, and every entry is at least five
minutes older than the deadline. -/
def Idle (s : State) (d : String) (deadline : ℤ) : Prop :=
  (∀ c ∈ s.calls, c.deviceID = d → ¬c.InFlight) ∧
    ∀ m ∈ (s.windowOf d).members, serverTime m + velocityTTL ≤ deadline

/-- What holds between the windows and the assessments. -/
structure Sound (s : State) : Prop where
  clock_nonneg : 0 ≤ s.clock
  readings : ∀ c ∈ s.calls, 0 ≤ c.now ∧ c.now ≤ s.clock ∧ c.windowStart + window ≤ s.clock ∧
    c.now ≤ c.windowStart + window
  unadded : ∀ c ∈ s.calls, c.pc = .zremrangebyscore ∨ c.pc = .zadd → c.added = false
  scored : ∀ d, (s.windowOf d).Scored score
  mem_added : ∀ d, ∀ m ∈ (s.windowOf d).members,
    ∃ c ∈ s.calls, c.deviceID = d ∧ c.added = true ∧ c.now = m
  counted : ∀ c ∈ s.calls, c.added = true →
    c.now ∈ (s.windowOf c.deviceID).members ∨ score c.now ≤ score (s.clock - window)
  deadline : ∀ d D, (s.windowOf d).deadline = some D → s.Attended d D ∨ s.Idle d D

end State

section Arithmetic

theorem score_nonneg {m : ℤ} (h : 0 ≤ m) : 0 ≤ score m :=
  round64_nonneg (by exact_mod_cast h)

theorem score_mono {m m' : ℤ} (h : m ≤ m') : score m ≤ score m' :=
  round64_mono (by exact_mod_cast h)

theorem lt_of_score_lt {m m' : ℤ} (h : score m < score m') : m < m' :=
  lt_of_not_ge fun hle => absurd (score_mono hle) (not_le.2 h)

theorem serverTime_mono {m m' : ℤ} (h : m ≤ m') : serverTime m ≤ serverTime m' := by
  unfold serverTime
  omega

theorem serverTime_le_of_prompt {m t : ℤ} (h : t < m + patience) :
    serverTime t ≤ serverTime m + 240000 := by
  unfold serverTime patience at *
  omega

theorem serverTime_le_of_window {m t : ℤ} (h : t < m + window) :
    serverTime t ≤ serverTime m + 60000 := by
  unfold serverTime window at *
  omega

/-- Past its deadline an entry is older than a minute. -/
theorem score_le_of_expired {m t : ℤ} {D : ℤ} (hm : serverTime m + velocityTTL ≤ D)
    (hD : D < serverTime t) : score m ≤ score (t - window) := by
  refine score_mono ?_
  unfold serverTime velocityTTL window at *
  omega

end Arithmetic

namespace State.Sound

variable {s : State} {l : Label} {d : String}

/-- Only entries older than a minute are lost when a key expires. -/
theorem mem_live (h : s.Sound) (hl : Timely s l) {m : Time} (hm : m ∈ (s.windowOf d).members) :
    m ∈ ((s.windowOf d).live (serverTime l.time)).members ∨
      score m ≤ score (l.time - window) := by
  rcases Slot.live_cases (s.windowOf d) (serverTime l.time) with ⟨⟨D, hD, hlt⟩, -⟩ | ⟨-, hlive⟩
  · rcases h.deadline _ D hD with ⟨c₁, hc₁, -, hflight₁, hD₁⟩ | ⟨-, hold⟩
    · have := serverTime_le_of_prompt (hl.prompt c₁ hc₁ hflight₁)
      omega
    · exact Or.inr (score_le_of_expired (hold m hm) hlt)
  · rw [hlive]
    exact Or.inl hm

theorem members_live (slot : Slot Time Location) (now : ℤ) : (slot.live now).members ⊆ slot.members := by
  rcases Slot.live_cases slot now with ⟨-, hlive⟩ | ⟨-, hlive⟩
  · rw [hlive]
    exact Finset.empty_subset _
  · rw [hlive]

theorem deadline_live {slot : Slot Time Location} {now D : ℤ} (h : (slot.live now).deadline = some D) :
    slot.deadline = some D := by
  rcases Slot.live_cases slot now with ⟨-, hlive⟩ | ⟨-, hlive⟩
  · rw [hlive] at h
    cases h
  · rwa [hlive] at h

theorem reading_of_mem (h : s.Sound) {m : Time} (hm : m ∈ (s.windowOf d).members) :
    0 ≤ m ∧ m ≤ s.clock := by
  obtain ⟨c, hc, -, -, rfl⟩ := h.mem_added d m hm
  exact ⟨(h.readings c hc).1, (h.readings c hc).2.1⟩

end State.Sound

/-! ### A command -/

section Command

variable {s : State} {i : ℕ} {t : Time} {ok : Bool} {c c' : Call} {slot' : Slot Time Location}

/-- The state after a command. -/
theorem step_command (hc : s.calls[i]? = some c) :
    s.step (.command i t ok) =
      { s with
        redis := (c.command t ok s.redis).2
        calls := s.calls.set i (c.command t ok s.redis).1
        clock := t } := by
  simp [State.step, hc]

/-- What a command keeps of the window of its device. -/
structure WindowKept (s : State) (t : Time) (c c' : Call) (slot' : Slot Time Location) : Prop where
  scored : slot'.Scored score
  mem : ∀ m ∈ slot'.members, m ∈ (s.windowOf c.deviceID).members ∨
    (c.added = false ∧ c'.added = true ∧ m = c.now)
  kept : ∀ m ∈ (s.windowOf c.deviceID).members, m ∈ slot'.members ∨ score m ≤ score (t - window)
  own : c'.added = true → c.added = true ∨ c.now ∈ slot'.members
  added : c.added = true → c'.added = true
  unadded : c'.pc = .zremrangebyscore ∨ c'.pc = .zadd → c'.added = false

open State.Sound in
theorem Moved.kept (h : s.Sound) (hl : Timely s (.command i t ok)) (hc : c ∈ s.calls)
    (hmoved : Moved c t ok (s.windowOf c.deviceID) c' slot') : WindowKept s t c c' slot' := by
  have hlive := fun m (hm : m ∈ (s.windowOf c.deviceID).members) => mem_live h hl hm
  have hsub := members_live (s.windowOf c.deviceID) (serverTime t)
  have hclock : s.clock ≤ t := hl.after
  cases hmoved with
  | trimmed hpc hpc' hadded hslot =>
    obtain ⟨_, heq, hscored, hmem, -⟩ :=
      Slot.zremrangebyscore_spec (h.scored _) (serverTime t) 0 (score c.windowStart)
    cases hslot.symm.trans heq
    have hnot : c'.added = false := hadded.trans (h.unadded c hc (Or.inl hpc))
    refine ⟨hscored, fun m hm => Or.inl (hsub ((hmem m).1 hm).1), fun m hm => ?_,
      fun hyes => Or.inl (hadded ▸ hyes), fun hyes => hadded ▸ hyes, fun _ => hnot⟩
    rcases hlive m hm with hin | hold
    · by_cases hrange : 0 ≤ score m ∧ score m ≤ score c.windowStart
      · have hstart : c.windowStart ≤ t - window := by
          have := (h.readings c hc).2.2.1
          linarith
        exact Or.inr (hrange.2.trans (score_mono hstart))
      · exact Or.inl ((hmem m).2 ⟨hin, hrange⟩)
    · exact Or.inr hold
  | added hpc hpc' hadded hslot =>
    obtain ⟨_, heq, hscored, hmem, -⟩ := Slot.zadd_spec (h.scored _) (serverTime t) c.now
    cases hslot.symm.trans heq
    refine ⟨hscored, fun m hm => ?_, fun m hm => ?_, fun _ => Or.inr ((hmem _).2 (Or.inl rfl)),
      fun _ => hadded, by simp [hpc']⟩
    · rcases (hmem m).1 hm with rfl | hin
      · exact Or.inr ⟨h.unadded c hc (Or.inr hpc), hadded, rfl⟩
      · exact Or.inl (hsub hin)
    · exact (hlive m hm).imp_left fun hin => (hmem m).2 (Or.inr hin)
  | refreshed hpc hpc' hadded =>
    refine ⟨(h.scored _).expire _ _, fun m hm => ?_, fun m hm => ?_,
      fun hyes => Or.inl (hadded ▸ hyes), fun hyes => hadded ▸ hyes, by simp [hpc']⟩
    · rw [Slot.members_expire] at hm
      exact Or.inl (hsub hm)
    · rw [Slot.members_expire]
      exact hlive m hm
  | quiet hpc hpc' hstart hcard hadded =>
    refine ⟨h.scored _, fun m hm => Or.inl hm, fun m hm => Or.inl hm,
      fun hyes => Or.inl (hadded ▸ hyes), fun hyes => hadded ▸ hyes, ?_⟩
    rintro (hpc₂ | hpc₂)
    · exact absurd hpc₂ hstart
    · exact absurd (Or.inl hpc₂) hpc'

/-- What a trim leaves is later than the window start. -/
theorem Moved.mem_trimmed (h : s.Sound) (hmoved : Moved c t ok (s.windowOf c.deviceID) c' slot')
    (hpc : c.pc = .zremrangebyscore) (hpc' : c'.pc = .zadd) {m : Time} (hm : m ∈ slot'.members) :
    score c.windowStart < score m := by
  cases hmoved with
  | trimmed _ _ _ hslot =>
    obtain ⟨_, heq, -, hmem, -⟩ :=
      Slot.zremrangebyscore_spec (h.scored c.deviceID) (serverTime t) 0 (score c.windowStart)
    cases hslot.symm.trans heq
    obtain ⟨hin, hrange⟩ := (hmem m).1 hm
    have hnonneg := score_nonneg (h.reading_of_mem (State.Sound.members_live _ _ hin)).1
    exact not_le.1 fun hle => hrange ⟨hnonneg, hle⟩
  | added hpc₂ => cases hpc.symm.trans hpc₂
  | refreshed hpc₂ => cases hpc.symm.trans hpc₂
  | quiet _ hflight => exact absurd (Or.inl hpc') hflight

/-- Which commands an assessment has behind it after one that leaves it before the end of its
velocity check. -/
theorem Moved.pc_before {slot : Slot Time Location} (hmoved : Moved c t ok slot c' slot')
    (hpc' : c'.pc = .zadd ∨ c'.pc = .expire ∨ c'.pc = .zcard) :
    (c.pc = .zremrangebyscore ∧ c'.pc = .zadd) ∨ c.pc = .zadd ∨ c.pc = .expire := by
  cases hmoved with
  | trimmed hpc hpc₂ => exact Or.inl ⟨hpc, hpc₂⟩
  | added hpc => exact Or.inr (Or.inl hpc)
  | refreshed hpc => exact Or.inr (Or.inr hpc)
  | quiet _ hflight _ hcard =>
    rcases hpc' with hpc' | hpc' | hpc'
    · exact absurd (Or.inl hpc') hflight
    · exact absurd (Or.inr hpc') hflight
    · exact Or.inr (Or.inr (hcard hpc'))

/-- After a command, the deadline of the device's own key is attended to or harmless. -/
theorem Moved.deadline (h : s.Sound) (hl : Timely s (.command i t ok)) (hc : s.calls[i]? = some c)
    (hsame : c.Same c') (hmoved : Moved c t ok (s.windowOf c.deviceID) c' slot') {s' : State}
    (hcalls : s'.calls = s.calls.set i c') (hslot : s'.windowOf c.deviceID = slot') {D : ℤ}
    (hD : slot'.deadline = some D) :
    s'.Attended c.deviceID D ∨ s'.Idle c.deviceID D := by
  have hmem : c ∈ s.calls := List.mem_of_getElem? hc
  have hmem' : c' ∈ s'.calls := hcalls ▸ mem_set_self hc
  have hother : ∀ c₁ ∈ s.calls, c₁ ≠ c → c₁ ∈ s'.calls := fun c₁ h₁ hne =>
    hcalls ▸ mem_set_of_ne hc h₁ hne
  have hback : ∀ c₁ ∈ s'.calls, c₁ ∈ s.calls ∨ c₁ = c' := fun c₁ h₁ =>
    List.mem_or_eq_of_mem_set (hcalls ▸ h₁)
  cases hmoved with
  | trimmed hpc hpc' hadded hslot₂ =>
    obtain ⟨_, heq, -, hmem₂, hdead⟩ :=
      Slot.zremrangebyscore_spec (h.scored c.deviceID) (serverTime t) 0 (score c.windowStart)
    cases hslot₂.symm.trans heq
    obtain ⟨hDlive, m, hm⟩ := hdead D hD
    left
    rcases h.deadline _ D (State.Sound.deadline_live hDlive) with
      ⟨c₁, hc₁, hdev₁, hflight₁, hD₁⟩ | ⟨-, hold⟩
    · -- whoever attended to it still does: the assessment that trims is not among them
      refine ⟨c₁, hother c₁ hc₁ ?_, hdev₁, hflight₁, hD₁⟩
      rintro rfl
      simp [Call.InFlight, hpc] at hflight₁
    · -- an entry was left, so it is of the last minute, and this assessment takes over
      obtain ⟨hin, hrange⟩ := (hmem₂ m).1 hm
      have hin' := State.Sound.members_live _ _ hin
      have hnonneg := score_nonneg (h.reading_of_mem hin').1
      have hlater : c.windowStart < m :=
        lt_of_score_lt (not_le.1 fun hle => hrange ⟨hnonneg, hle⟩)
      have hnow : c.now < m + window := by
        have := (h.readings c hmem).2.2.2
        linarith
      have hnow' := serverTime_le_of_window hnow
      have hm' := hold m hin'
      refine ⟨c', hmem', hsame.deviceID, Or.inl hpc', ?_⟩
      rw [hsame.now]
      unfold velocityTTL at hm'
      omega
  | added hpc hpc' hadded hslot₂ =>
    obtain ⟨_, heq, -, -, hdead⟩ := Slot.zadd_spec (h.scored c.deviceID) (serverTime t) c.now
    cases hslot₂.symm.trans heq
    rw [hdead] at hD
    left
    rcases h.deadline _ D (State.Sound.deadline_live hD) with
      ⟨c₁, hc₁, hdev₁, hflight₁, hD₁⟩ | ⟨hidle, -⟩
    · by_cases heq₁ : c₁ = c
      · subst heq₁
        exact ⟨c', hmem', hsame.deviceID, Or.inr hpc', by rwa [hsame.now]⟩
      · exact ⟨c₁, hother c₁ hc₁ heq₁, hdev₁, hflight₁, hD₁⟩
    · exact absurd (Or.inl hpc) (hidle c hmem rfl)
  | refreshed hpc hpc' hadded =>
    -- the deadline is five minutes from now
    have hclock : s.clock ≤ t := hl.after
    rw [Slot.deadline_expire hD]
    by_cases hbusy : ∃ c₁ ∈ s'.calls, c₁.deviceID = c.deviceID ∧ c₁.InFlight
    · obtain ⟨c₁, hc₁, hdev₁, hflight₁⟩ := hbusy
      refine Or.inl ⟨c₁, hc₁, hdev₁, hflight₁, ?_⟩
      have hle : c₁.now ≤ t := by
        rcases hback c₁ hc₁ with hold | rfl
        · exact (h.readings c₁ hold).2.1.trans hclock
        · rw [hsame.now]
          exact (h.readings c hmem).2.1.trans hclock
      have := serverTime_mono hle
      unfold velocityTTL
      omega
    · refine Or.inr ⟨fun c₁ hc₁ hdev₁ hflight₁ => hbusy ⟨c₁, hc₁, hdev₁, hflight₁⟩, fun m hm => ?_⟩
      rw [hslot, Slot.members_expire] at hm
      have hle := (h.reading_of_mem (State.Sound.members_live _ _ hm)).2.trans hclock
      have := serverTime_mono hle
      omega
  | quiet hpc hpc' hstart hcard hadded =>
    have hflight : ¬c.InFlight := fun hyes => by
      have hok := hl.delivered c hc hyes
      rw [hpc hyes] at hok
      cases hok
    rcases h.deadline _ D hD with ⟨c₁, hc₁, hdev₁, hflight₁, hD₁⟩ | ⟨hidle, hold⟩
    · refine Or.inl ⟨c₁, hother c₁ hc₁ ?_, hdev₁, hflight₁, hD₁⟩
      rintro rfl
      exact hflight hflight₁
    · refine Or.inr ⟨fun c₁ hc₁ hdev₁ => ?_, fun m hm => hold m (hslot ▸ hm)⟩
      rcases hback c₁ hc₁ with hold₁ | rfl
      · exact hidle c₁ hold₁ hdev₁
      · exact hpc'

theorem State.Sound.command (h : s.Sound) (hl : Timely s (.command i t ok))
    (hc : s.calls[i]? = some c) : (s.step (.command i t ok)).Sound := by
  have hmem : c ∈ s.calls := List.mem_of_getElem? hc
  have hclock : s.clock ≤ t := hl.after
  have hsame := command_same c t ok s.redis
  have hmoved := command_moved c t ok s.redis (h.scored c.deviceID)
  have hwindows : ∀ d, d ≠ c.deviceID → (s.step (.command i t ok)).windowOf d = s.windowOf d := by
    intro d hd
    rw [step_command hc]
    exact command_other c t ok s.redis hd
  have hown : (s.step (.command i t ok)).windowOf c.deviceID
      = (c.command t ok s.redis).2 (velocityKey c.deviceID) := by
    rw [step_command hc]
    rfl
  have hcalls : (s.step (.command i t ok)).calls
      = s.calls.set i (c.command t ok s.redis).1 := by
    rw [step_command hc]
  have htime : (s.step (.command i t ok)).clock = t := by rw [step_command hc]
  generalize (c.command t ok s.redis).1 = c' at *
  generalize (c.command t ok s.redis).2 (velocityKey c.deviceID) = slot' at *
  generalize s.step (.command i t ok) = s' at *
  have hkept := hmoved.kept h hl hmem
  have hmem' : c' ∈ s'.calls := hcalls ▸ mem_set_self hc
  have hother : ∀ c₁ ∈ s.calls, c₁ ≠ c → c₁ ∈ s'.calls := fun c₁ h₁ hne =>
    hcalls ▸ mem_set_of_ne hc h₁ hne
  have hback : ∀ c₁ ∈ s'.calls, c₁ ∈ s.calls ∨ c₁ = c' := fun c₁ h₁ =>
    List.mem_or_eq_of_mem_set (hcalls ▸ h₁)
  refine
    { clock_nonneg := htime ▸ h.clock_nonneg.trans hclock
      readings := fun c₁ hc₁ => ?_
      unadded := fun c₁ hc₁ => ?_
      scored := fun d => ?_
      mem_added := fun d m hm => ?_
      counted := fun c₁ hc₁ hadded₁ => ?_
      deadline := fun d D hD => ?_ }
  · rw [htime]
    rcases hback c₁ hc₁ with hold | rfl
    · obtain ⟨h0, h1, h2, h3⟩ := h.readings c₁ hold
      exact ⟨h0, h1.trans hclock, h2.trans hclock, h3⟩
    · rw [hsame.now, hsame.windowStart]
      obtain ⟨h0, h1, h2, h3⟩ := h.readings c hmem
      exact ⟨h0, h1.trans hclock, h2.trans hclock, h3⟩
  · rcases hback c₁ hc₁ with hold | rfl
    · exact h.unadded c₁ hold
    · exact hkept.unadded
  · by_cases hd : d = c.deviceID
    · rw [hd, hown]
      exact hkept.scored
    · rw [hwindows d hd]
      exact h.scored d
  · -- an entry is of an assessment that was there, or it is the new one
    have hfrom : ∀ m ∈ (s.windowOf d).members,
        ∃ c ∈ s'.calls, c.deviceID = d ∧ c.added = true ∧ c.now = m := by
      intro m hm
      obtain ⟨c₁, hc₁, hdev₁, hadded₁, hnow₁⟩ := h.mem_added d m hm
      by_cases heq₁ : c₁ = c
      · subst heq₁
        exact ⟨c', hmem', hsame.deviceID.trans hdev₁, hkept.added hadded₁, hsame.now.trans hnow₁⟩
      · exact ⟨c₁, hother c₁ hc₁ heq₁, hdev₁, hadded₁, hnow₁⟩
    by_cases hd : d = c.deviceID
    · subst hd
      rw [hown] at hm
      rcases hkept.mem m hm with hold | ⟨-, hadded, rfl⟩
      · exact hfrom m hold
      · exact ⟨c', hmem', hsame.deviceID, hadded, hsame.now⟩
    · rw [hwindows d hd] at hm
      exact hfrom m hm
  · -- an entry that was there is there, or it is older than a minute by now
    have hstay : ∀ m d, m ∈ (s.windowOf d).members ∨ score m ≤ score (s.clock - window) →
        m ∈ (s'.windowOf d).members ∨ score m ≤ score (t - window) := by
      rintro m d (hin | hold)
      · by_cases hd : d = c.deviceID
        · subst hd
          rw [hown]
          exact hkept.kept m hin
        · rw [hwindows d hd]
          exact Or.inl hin
      · exact Or.inr (hold.trans (score_mono (by linarith)))
    rw [htime]
    rcases hback c₁ hc₁ with hold | rfl
    · exact hstay _ _ (h.counted c₁ hold hadded₁)
    · rw [hsame.now, hsame.deviceID]
      rcases hkept.own hadded₁ with hadded | hin
      · exact hstay _ _ (h.counted c hmem hadded)
      · exact Or.inl (hown ▸ hin)
  · by_cases hd : d = c.deviceID
    · subst hd
      exact hmoved.deadline h hl hc hsame hcalls hown (hown ▸ hD)
    · rw [hwindows d hd] at hD
      rcases h.deadline d D hD with ⟨c₁, hc₁, hdev₁, hflight₁, hD₁⟩ | ⟨hidle, hold⟩
      · refine Or.inl ⟨c₁, hother c₁ hc₁ ?_, hdev₁, hflight₁, hD₁⟩
        rintro rfl
        exact hd hdev₁.symm
      · refine Or.inr ⟨fun c₁ hc₁ hdev₁ => ?_, fun m hm => hold m (hwindows d hd ▸ hm)⟩
        rcases hback c₁ hc₁ with hold₁ | rfl
        · exact hidle c₁ hold₁ hdev₁
        · exact absurd (hdev₁.symm.trans hsame.deviceID) hd

end Command

/-! ### Runs -/

namespace State

variable {s : State} {l : Label}

theorem Sound.advance (h : s.Sound) {t : Time} (ht : s.clock ≤ t) : { s with clock := t }.Sound where
  clock_nonneg := h.clock_nonneg.trans ht
  readings c hc := by
    obtain ⟨h0, h1, h2, h3⟩ := h.readings c hc
    exact ⟨h0, h1.trans ht, h2.trans ht, h3⟩
  unadded := h.unadded
  scored := h.scored
  mem_added := h.mem_added
  counted c hc hadded :=
    (h.counted c hc hadded).imp_right fun hold => hold.trans (score_mono (by linarith))
  deadline := h.deadline

theorem start_not_inFlight (client : Bool) (dev : Option Device) (r : Request) (now later : Time) :
    ¬(Call.start client dev r now later).InFlight := by
  unfold Call.start Call.InFlight
  dsimp only
  split_ifs <;> simp

theorem Sound.start (h : s.Sound) {dev : Option Device} {r : Request} {now later : Time}
    (hl : Timely s (.start dev r now later)) : (s.step (.start dev r now later)).Sound := by
  obtain ⟨hnow, hlater⟩ := hl.after
  have hadv := h.advance (hnow.trans hlater)
  have hcalls : ∀ c ∈ (s.step (.start dev r now later)).calls,
      c ∈ s.calls ∨ c = Call.start s.client dev r now later := by
    intro c hc
    simpa [step] using hc
  have hkeep : ∀ c ∈ s.calls, c ∈ (s.step (.start dev r now later)).calls :=
    fun c hc => List.mem_append_left _ hc
  refine
    { clock_nonneg := hadv.clock_nonneg
      readings := fun c hc => ?_
      unadded := fun c hc => ?_
      scored := h.scored
      mem_added := fun d m hm => ?_
      counted := fun c hc hadded => ?_
      deadline := fun d D hD => ?_ }
  · rcases hcalls c hc with hold | rfl
    · exact hadv.readings c hold
    · exact ⟨h.clock_nonneg.trans hnow, hlater, (sub_add_cancel later window).le,
        hlater.trans (sub_add_cancel later window).ge⟩
  · rcases hcalls c hc with hold | rfl
    · exact h.unadded c hold
    · exact fun _ => rfl
  · obtain ⟨c, hc, hrest⟩ := h.mem_added d m hm
    exact ⟨c, hkeep c hc, hrest⟩
  · rcases hcalls c hc with hold | rfl
    · exact hadv.counted c hold hadded
    · cases hadded
  · rcases h.deadline d D hD with ⟨c₁, hc₁, hrest⟩ | ⟨hidle, hold⟩
    · exact Or.inl ⟨c₁, hkeep c₁ hc₁, hrest⟩
    · refine Or.inr ⟨fun c₁ hc₁ hdev₁ => ?_, hold⟩
      rcases hcalls c₁ hc₁ with hold₁ | rfl
      · exact hidle c₁ hold₁ hdev₁
      · exact start_not_inFlight _ _ _ _ _

theorem Sound.step (h : s.Sound) (hl : Timely s l) : (s.step l).Sound := by
  cases l with
  | start dev r now later => exact h.start hl
  | command i t ok =>
    cases hc : s.calls[i]? with
    | none =>
      have heq : s.step (.command i t ok) = { s with clock := t } := by simp [State.step, hc]
      rw [heq]
      exact h.advance hl.after
    | some c => exact h.command hl hc

theorem sound_init (client : Bool) {clock : Time} (h : 0 ≤ clock) : (init client clock).Sound where
  clock_nonneg := h
  readings c hc := by cases hc
  unadded c hc := by cases hc
  scored _ := Slot.scored_none
  mem_added d m hm := by cases hm
  counted c hc := by cases hc
  deadline d D hD := by cases hD

theorem sound_exec (client : Bool) {clock : Time} (h : 0 ≤ clock) {ls : List Label}
    (hls : Run.Steps State.step Timely (init client clock) ls) :
    ((init client clock).exec ls).Sound :=
  Run.exec_invariant (fun _ _ hs hl => Sound.step hs hl) (sound_init client h) hls

/-! ### Looking back -/

/-- The entry of the assessment has reached the server. -/
def Added (s : State) (j : ℕ) : Prop := ∃ c, s.calls[j]? = some c ∧ c.added = true

theorem command_added {c : Call} (t : Time) (ok : Bool) (redis : Store String Time Location)
    (h : c.added = true) : (c.command t ok redis).1.added = true := by
  unfold Call.command
  dsimp only
  split <;> (try split) <;> (try split) <;> first | exact h | rfl

/-- An assessment stays at its place and keeps what it read; an entry that reached the server has
done so. -/
theorem step_call {j : ℕ} {c : Call} (h : s.calls[j]? = some c) (l : Label) :
    ∃ c', (s.step l).calls[j]? = some c' ∧ c.Same c' ∧ (c.added = true → c'.added = true) := by
  cases l with
  | start dev r now later =>
    refine ⟨c, ?_, ⟨rfl, rfl, rfl⟩, id⟩
    exact List.getElem?_append_left (List.getElem?_eq_some_iff.1 h).1 |>.trans h
  | command i t ok =>
    cases hc : s.calls[i]? with
    | none => exact ⟨c, by simpa [State.step, hc] using h, ⟨rfl, rfl, rfl⟩, id⟩
    | some c₁ =>
      rw [step_command hc]
      by_cases hij : i = j
      · subst hij
        cases h.symm.trans hc
        refine ⟨_, List.getElem?_set_self (List.getElem?_eq_some_iff.1 h).1,
          command_same c t ok s.redis, command_added t ok s.redis⟩
      · exact ⟨c, by rw [List.getElem?_set_ne hij, h], ⟨rfl, rfl, rfl⟩, id⟩

/-- The reading is of an assessment of the device whose entry reached the server after `s₁`. -/
def AddedSince (s₁ s : State) (d : String) (m : Time) : Prop :=
  ∃ j c, s.calls[j]? = some c ∧ c.deviceID = d ∧ c.added = true ∧ c.now = m ∧ ¬s₁.Added j

theorem AddedSince.step {s₁ : State} {d : String} {m : Time} (h : AddedSince s₁ s d m) (l : Label) :
    AddedSince s₁ (s.step l) d m := by
  obtain ⟨j, c, hc, hdev, hadded, hnow, hnot⟩ := h
  obtain ⟨c', hc', hsame, hkeep⟩ := step_call hc l
  exact ⟨j, c', hc', hsame.deviceID.trans hdev, hkeep hadded, hsame.now.trans hnow, hnot⟩

/-- What has become of the assessment that had not trimmed in `s₁`: once it has, what is in the
window is later than its window start, or came after `s₁`. -/
structure Since (s₁ : State) (i : ℕ) (c₀ : Call) (s : State) : Prop where
  added : ∀ j, s₁.Added j → s.Added j
  call : ∃ c, s.calls[i]? = some c ∧ c₀.Same c ∧
    (c.pc = .zadd ∨ c.pc = .expire ∨ c.pc = .zcard → ∀ m ∈ (s.windowOf c₀.deviceID).members,
      score c₀.windowStart < score m ∨ AddedSince s₁ s c₀.deviceID m)

theorem Since.command {s₁ : State} {i j : ℕ} {c₀ c : Call} {t : Time} {ok : Bool}
    (h : Since s₁ i c₀ s) (hs : s.Sound) (hl : Timely s (.command j t ok))
    (hc : s.calls[j]? = some c) :
    ∀ c₂, (s.step (.command j t ok)).calls[i]? = some c₂ →
      (c₂.pc = .zadd ∨ c₂.pc = .expire ∨ c₂.pc = .zcard) →
      ∀ m ∈ ((s.step (.command j t ok)).windowOf c₀.deviceID).members,
        score c₀.windowStart < score m ∨
          AddedSince s₁ (s.step (.command j t ok)) c₀.deviceID m := by
  intro c₂ hc₂ hpc₂ m hm
  obtain ⟨c₁, hc₁, hsame₁, hwindow⟩ := h.call
  have hmoved := command_moved c t ok s.redis (hs.scored c.deviceID)
  have hsame := command_same c t ok s.redis
  have hmem : c ∈ s.calls := List.mem_of_getElem? hc
  have hafter : (s.step (.command j t ok)).calls[j]? = some (c.command t ok s.redis).1 := by
    rw [step_command hc]
    exact List.getElem?_set_self (List.getElem?_eq_some_iff.1 hc).1
  have hown : (s.step (.command j t ok)).windowOf c.deviceID
      = (c.command t ok s.redis).2 (velocityKey c.deviceID) := by
    rw [step_command hc]
    rfl
  -- if the window is as it should be before the command, then also after it
  have hkeep : (∀ m ∈ (s.windowOf c₀.deviceID).members,
      score c₀.windowStart < score m ∨ AddedSince s₁ s c₀.deviceID m) →
      score c₀.windowStart < score m ∨
        AddedSince s₁ (s.step (.command j t ok)) c₀.deviceID m := by
    intro hbefore
    by_cases hd : c₀.deviceID = c.deviceID
    · rw [hd, hown] at hm
      rcases (hmoved.kept hs hl hmem).mem m hm with hin | ⟨hnot, hadded, rfl⟩
      · exact (hbefore m (hd ▸ hin)).imp_right fun hsince => hsince.step _
      · refine Or.inr ⟨j, _, hafter, hsame.deviceID.trans hd.symm, hadded, hsame.now, fun hyes => ?_⟩
        obtain ⟨c₃, hc₃, hadded₃⟩ := h.added j hyes
        cases hc₃.symm.trans hc
        cases hadded₃.symm.trans hnot
    · have hsamewin : (s.step (.command j t ok)).windowOf c₀.deviceID = s.windowOf c₀.deviceID := by
        rw [step_command hc]
        exact command_other c t ok s.redis hd
      rw [hsamewin] at hm
      exact (hbefore m hm).imp_right fun hsince => hsince.step _
  by_cases hij : j = i
  · -- its own command
    subst hij
    cases hc₁.symm.trans hc
    cases hafter.symm.trans hc₂
    rcases hmoved.pc_before hpc₂ with ⟨hpc, hpc'⟩ | hpc | hpc
    · left
      rw [← hsame₁.deviceID, hown] at hm
      rw [← hsame₁.windowStart]
      exact hmoved.mem_trimmed hs hpc hpc' hm
    · exact hkeep (hwindow (Or.inl hpc))
    · exact hkeep (hwindow (Or.inr (Or.inl hpc)))
  · have hstay : (s.step (.command j t ok)).calls[i]? = some c₁ := by
      rw [step_command hc]
      exact (List.getElem?_set_ne hij).trans hc₁
    cases hstay.symm.trans hc₂
    exact hkeep (hwindow hpc₂)

theorem Since.step {s₁ : State} {i : ℕ} {c₀ : Call} (h : Since s₁ i c₀ s) (hs : s.Sound)
    (hl : Timely s l) : Since s₁ i c₀ (s.step l) := by
  obtain ⟨c₁, hc₁, hsame₁, hwindow⟩ := h.call
  obtain ⟨c₂, hc₂, hsame₂, -⟩ := step_call hc₁ l
  have hsame : c₀.Same c₂ := ⟨hsame₂.dev.trans hsame₁.dev, hsame₂.now.trans hsame₁.now,
    hsame₂.windowStart.trans hsame₁.windowStart⟩
  refine ⟨fun j hj => ?_, c₂, hc₂, hsame, ?_⟩
  · obtain ⟨c, hc, hadded⟩ := h.added j hj
    obtain ⟨c', hc', -, hkeep⟩ := step_call hc l
    exact ⟨c', hc', hkeep hadded⟩
  · -- only a command changes a window or moves an assessment on
    have hquiet : (s.step l).calls[i]? = some c₁ → (s.step l).redis = s.redis →
        (c₂.pc = .zadd ∨ c₂.pc = .expire ∨ c₂.pc = .zcard →
          ∀ m ∈ ((s.step l).windowOf c₀.deviceID).members,
            score c₀.windowStart < score m ∨ AddedSince s₁ (s.step l) c₀.deviceID m) := by
      intro hcall hredis hpc m hm
      cases hcall.symm.trans hc₂
      rw [windowOf, hredis] at hm
      exact (hwindow hpc m hm).imp_right fun hsince => hsince.step _
    cases l with
    | start dev r now later =>
      exact hquiet ((List.getElem?_append_left (List.getElem?_eq_some_iff.1 hc₁).1).trans hc₁) rfl
    | command j t ok =>
      cases hc : s.calls[j]? with
      | none => exact hquiet (by simpa [State.step, hc] using hc₁) (by simp [State.step, hc])
      | some c => exact h.command hs hl hc c₂ hc₂

end State

/-! ## The count -/

open State

end OfflinePay.Risk
