import OfflinePay.Api.Middleware

/-!
# What a rate limit admits

A client is admitted at most `capacity + rate * (t - s)` times between `s` and `t`, whatever it and
the other clients ask for. Every answer within the window is paid from a budget: what the bucket
holds, and what is filled into it until the window ends. Before the window begins the bucket counts
as full (`TokenBucket.budget`). A call of another address leaves the bucket alone.
-/

namespace OfflinePay.Api

/-! ## A bucket -/

namespace TokenBucket

variable {tb : TokenBucket} {now s t : ℚ}

/-- The bucket is not overdrawn and not overfull. -/
structure Sound (tb : TokenBucket) : Prop where
  rate_pos : 0 < tb.rate
  tokens_nonneg : 0 ≤ tb.tokens
  tokens_le : tb.tokens ≤ tb.capacity

/-- The tokens when the bucket has been filled. -/
def filled (tb : TokenBucket) (now : ℚ) : ℚ :=
  min tb.capacity (tb.tokens + (now - tb.lastRefilled) * tb.rate)

/-- Filling, and then taking a token if there is one. -/
theorem allow_eq (tb : TokenBucket) (now : ℚ) : tb.allow now = (decide (1 ≤ tb.filled now),
    { tb with
      tokens := tb.filled now - if 1 ≤ tb.filled now then 1 else 0
      lastRefilled := now }) := by
  have hfilled : (if tb.tokens + (now - tb.lastRefilled) * tb.rate > tb.capacity then tb.capacity
      else tb.tokens + (now - tb.lastRefilled) * tb.rate) = tb.filled now := by
    rw [filled, min_def]
    split_ifs <;> linarith
  unfold allow
  simp only [hfilled, ge_iff_le]
  split_ifs with hone
  · simp [hone]
  · simp [hone]

theorem allow_rate (tb : TokenBucket) (now : ℚ) : (tb.allow now).2.rate = tb.rate := by
  rw [allow_eq]

theorem allow_capacity (tb : TokenBucket) (now : ℚ) : (tb.allow now).2.capacity = tb.capacity := by
  rw [allow_eq]

theorem allow_lastRefilled (tb : TokenBucket) (now : ℚ) : (tb.allow now).2.lastRefilled = now := by
  rw [allow_eq]

theorem Sound.filled_nonneg (h : tb.Sound) (hnow : tb.lastRefilled ≤ now) : 0 ≤ tb.filled now := by
  have hrefill : 0 ≤ (now - tb.lastRefilled) * tb.rate :=
    mul_nonneg (sub_nonneg.mpr hnow) h.rate_pos.le
  exact le_min (h.tokens_nonneg.trans h.tokens_le) (add_nonneg h.tokens_nonneg hrefill)

theorem Sound.allow (h : tb.Sound) (hnow : tb.lastRefilled ≤ now) : (tb.allow now).2.Sound := by
  have hnonneg := h.filled_nonneg hnow
  have hle : tb.filled now ≤ tb.capacity := min_le_left _ _
  rw [allow_eq]
  refine ⟨h.rate_pos, ?_, ?_⟩ <;> dsimp only <;> split_ifs <;> linarith

/-- What the bucket can still pay for between `s` and `t`. -/
def budget (tb : TokenBucket) (s t : ℚ) : ℚ :=
  if tb.lastRefilled < s then tb.capacity + tb.rate * (t - s)
  else if tb.lastRefilled ≤ t then tb.tokens + tb.rate * (t - tb.lastRefilled)
  else 0

theorem Sound.budget_nonneg (h : tb.Sound) (hst : s ≤ t) : 0 ≤ tb.budget s t := by
  have hcapacity := h.tokens_nonneg.trans h.tokens_le
  unfold budget
  split_ifs with hbefore hwithin
  · exact add_nonneg hcapacity (mul_nonneg h.rate_pos.le (sub_nonneg.mpr hst))
  · exact add_nonneg h.tokens_nonneg (mul_nonneg h.rate_pos.le (sub_nonneg.mpr hwithin))
  · exact le_refl 0

/-- A bucket never has a larger budget than a full one. -/
theorem Sound.budget_le (h : tb.Sound) (hst : s ≤ t) :
    tb.budget s t ≤ tb.capacity + tb.rate * (t - s) := by
  have hfull : 0 ≤ tb.rate * (t - s) := mul_nonneg h.rate_pos.le (sub_nonneg.mpr hst)
  unfold budget
  split_ifs with hbefore hwithin
  · exact le_refl _
  · have hless : tb.rate * (t - tb.lastRefilled) ≤ tb.rate * (t - s) :=
      mul_le_mul_of_nonneg_left (by linarith) h.rate_pos.le
    exact add_le_add h.tokens_le hless
  · exact add_nonneg (h.tokens_nonneg.trans h.tokens_le) hfull

/-- An answer in the window is paid from the budget. -/
theorem Sound.allow_budget (h : tb.Sound) (hnow : tb.lastRefilled ≤ now) (hst : s ≤ t) :
    (if (tb.allow now).1 && s ≤ now && now ≤ t then 1 else 0) + (tb.allow now).2.budget s t
      ≤ tb.budget s t := by
  by_cases hbefore : now < s
  · -- the window has not begun, and the bucket counts as full
    have hlast : tb.lastRefilled < s := hnow.trans_lt hbefore
    simp [allow_eq, budget, hbefore, hbefore.not_ge, hlast]
  · by_cases hafter : t < now
    · -- the window is over
      have hbudget := h.budget_nonneg hst
      simpa [allow_eq, budget, hbefore, hafter.not_ge] using hbudget
    · have hpaid : (if (tb.allow now).1 && s ≤ now && now ≤ t then 1 else 0)
          + (tb.allow now).2.budget s t = tb.filled now + tb.rate * (t - now) := by
        rw [not_lt] at hbefore hafter
        simp only [allow_eq, budget, hbefore.not_gt, hbefore, hafter, if_true, if_false,
          decide_true, Bool.and_true, decide_eq_true_eq]
        ring
      have hcapacity : tb.filled now ≤ tb.capacity := min_le_left _ _
      have htokens : tb.filled now ≤ tb.tokens + (now - tb.lastRefilled) * tb.rate :=
        min_le_right _ _
      have hrest : tb.rate * (t - now) ≤ tb.rate * (t - s) :=
        mul_le_mul_of_nonneg_left (by linarith) h.rate_pos.le
      rw [hpaid, budget]
      split_ifs with hlast hwithin
      · exact add_le_add hcapacity hrest
      · linarith
      · linarith

end TokenBucket

/-! ## The limiter -/

namespace IPRateLimiter

variable {lim : IPRateLimiter} {call : Call}

/-- Every bucket is sound and has the parameters of the limiter. -/
structure Sound (lim : IPRateLimiter) : Prop where
  rate_pos : 0 < lim.rate
  capacity_pos : 0 < lim.capacity
  bucket : ∀ ip, ∀ tb ∈ lim.ips ip, tb.Sound ∧ tb.rate = lim.rate ∧ tb.capacity = lim.capacity

/-- The bucket that a call uses. -/
def bucketOf (lim : IPRateLimiter) (call : Call) : TokenBucket :=
  (lim.ips call.ip).getD (newTokenBucket lim.rate lim.capacity call.created)

/-- The clock has not gone back since the bucket was made or used. -/
def Timely (lim : IPRateLimiter) (call : Call) : Prop := (lim.bucketOf call).lastRefilled ≤ call.now

theorem Sound.bucketOf (h : lim.Sound) (call : Call) : (lim.bucketOf call).Sound ∧
    (lim.bucketOf call).rate = lim.rate ∧ (lim.bucketOf call).capacity = lim.capacity := by
  unfold IPRateLimiter.bucketOf
  cases hbucket : lim.ips call.ip with
  | none => exact ⟨⟨h.rate_pos, h.capacity_pos.le, le_refl _⟩, rfl, rfl⟩
  | some tb => exact h.bucket call.ip tb hbucket

theorem ips_step (lim : IPRateLimiter) (call : Call) (ip : String) : (lim.step call).ips ip
    = if ip = call.ip then some ((lim.bucketOf call).allow call.now).2 else lim.ips ip :=
  Function.update_apply _ _ _ _

theorem Sound.step (h : lim.Sound) (htimely : lim.Timely call) : (lim.step call).Sound where
  rate_pos := h.rate_pos
  capacity_pos := h.capacity_pos
  bucket ip tb htb := by
    rw [ips_step, Option.mem_def] at htb
    split_ifs at htb with hip
    · obtain rfl := Option.some.inj htb
      obtain ⟨hsound, hrate, hcapacity⟩ := h.bucketOf call
      exact ⟨hsound.allow htimely, (TokenBucket.allow_rate _ _).trans hrate,
        (TokenBucket.allow_capacity _ _).trans hcapacity⟩
    · exact h.bucket ip tb htb

/-- What the bucket of an address can pay for between `s` and `t`. -/
def budget (lim : IPRateLimiter) (ip : String) (s t : ℚ) : ℚ :=
  match lim.ips ip with
  | none => lim.capacity + lim.rate * (t - s)
  | some tb => tb.budget s t

/-- The call was admitted, for this address and between `s` and `t`. -/
def admitted (ip : String) (s t : ℚ) : Call × Bool → Bool
  | (call, allowed) => call.ip = ip && (allowed && s ≤ call.now && call.now ≤ t)

theorem Sound.budget_nonneg (h : lim.Sound) (ip : String) {s t : ℚ} (hst : s ≤ t) :
    0 ≤ lim.budget ip s t := by
  unfold budget
  split
  · exact add_nonneg h.capacity_pos.le (mul_nonneg h.rate_pos.le (sub_nonneg.mpr hst))
  · next tb htb => exact (h.bucket ip tb htb).1.budget_nonneg hst

/-- The bucket that a call uses has no larger budget than the address had before. -/
theorem Sound.budget_bucketOf (h : lim.Sound) (call : Call) {s t : ℚ} (hst : s ≤ t) :
    (lim.bucketOf call).budget s t ≤ lim.budget call.ip s t := by
  obtain ⟨hsound, hrate, hcapacity⟩ := h.bucketOf call
  have hfull := hsound.budget_le hst
  rw [hrate, hcapacity] at hfull
  unfold budget
  split
  · exact hfull
  · next tb htb => rw [IPRateLimiter.bucketOf, htb, Option.getD_some]

/-- An admitted call is paid from the budget of its address. -/
theorem Sound.step_budget (h : lim.Sound) (htimely : lim.Timely call) (ip : String) {s t : ℚ}
    (hst : s ≤ t) : (if admitted ip s t (call, (lim.allow call).1) then 1 else 0)
      + (lim.step call).budget ip s t ≤ lim.budget ip s t := by
  by_cases hip : ip = call.ip
  · subst hip
    have hpaid := (h.bucketOf call).1.allow_budget htimely hst
    have hbudget : (lim.step call).budget call.ip s t
        = ((lim.bucketOf call).allow call.now).2.budget s t := by
      rw [budget, ips_step, if_pos rfl]
    rw [hbudget]
    simp only [admitted, decide_true, Bool.true_and]
    exact hpaid.trans (h.budget_bucketOf call hst)
  · have hbudget : (lim.step call).budget ip s t = lim.budget ip s t := by
      rw [budget, ips_step, if_neg hip]
      rfl
    simp [admitted, Ne.symm hip, hbudget]

/-- A clock that does not go back is in time for every call. -/
theorem timely_of_readings {calls : List Call}
    (hclock : (calls.flatMap Call.readings).Pairwise (· ≤ ·))
    (hlast : ∀ ip, ∀ tb ∈ lim.ips ip, ∀ call ∈ calls, tb.lastRefilled ≤ call.now) :
    Run.Steps step Timely lim calls := by
  induction calls generalizing lim with
  | nil => trivial
  | cons call calls ih =>
    rw [List.flatMap_cons, List.pairwise_append] at hclock
    obtain ⟨hcall, hcalls, hlater⟩ := hclock
    have hnow : ∀ later ∈ calls, call.now ≤ later.now := fun later hmem =>
      hlater call.now (by simp [Call.readings]) later.now
        (List.mem_flatMap.mpr ⟨later, hmem, by simp [Call.readings]⟩)
    refine ⟨?_, ih hcalls fun ip tb htb later hmem => ?_⟩
    · unfold Timely bucketOf
      cases hbucket : lim.ips call.ip with
      | none => simpa [Call.readings, newTokenBucket] using hcall
      | some tb => exact hlast call.ip tb hbucket call List.mem_cons_self
    · rw [ips_step, Option.mem_def] at htb
      split_ifs at htb with hip
      · obtain rfl := Option.some.inj htb
        rw [TokenBucket.allow_lastRefilled]
        exact hnow later hmem
      · exact hlast ip tb htb later (List.mem_cons_of_mem _ hmem)

/-- The limiters cannot be told apart by calls of this address. -/
def SameBucket (ip : String) (lim lim' : IPRateLimiter) : Prop :=
  lim.ips ip = lim'.ips ip ∧ lim.rate = lim'.rate ∧ lim.capacity = lim'.capacity

/-- For every positive rate and capacity, every sequence of calls during which the clock does not go
back, every address and every window: the calls of the address that are admitted in the window are
not more than the capacity and what the rate gives in this time, and all calls of the address are
answered as if there were no others. -/
theorem rate_limit {rate capacity : ℚ} (hrate : 0 < rate) (hcapacity : 0 < capacity)
    {calls : List Call} (hclock : (calls.flatMap Call.readings).Pairwise (· ≤ ·)) (ip : String) :
    (∀ s t, s ≤ t → (((newIPRateLimiter rate capacity).answers calls).countP (admitted ip s t) : ℚ)
      ≤ capacity + rate * (t - s)) ∧
    ((newIPRateLimiter rate capacity).answers calls).filter (fun x => x.1.ip = ip)
      = (newIPRateLimiter rate capacity).answers (calls.filter fun call => call.ip = ip) := by
  constructor
  · intro s t hst
    have hsound : (newIPRateLimiter rate capacity).Sound :=
      ⟨hrate, hcapacity, fun _ _ htb => absurd htb (Option.not_mem_none _)⟩
    have htimely : Run.Steps step Timely (newIPRateLimiter rate capacity) calls :=
      timely_of_readings hclock fun _ _ htb => absurd htb (Option.not_mem_none _)
    exact Run.countP_trace_le (I := Sound) (Φ := fun lim => lim.budget ip s t)
      (fun lim h => h.budget_nonneg ip hst)
      (fun lim call h htimely => ⟨h.step htimely, h.step_budget htimely ip hst⟩) hsound htimely
  · refine Run.filter_trace (p := fun call : Call => call.ip = ip) (R := SameBucket ip) ?_ ?_
      ⟨rfl, rfl, rfl⟩ calls
    · rintro lim lim' call ⟨hips, hparams⟩ hother
      refine ⟨?_, hparams⟩
      rw [ips_step, if_neg (by simpa [eq_comm] using hother), hips]
    · rintro lim lim' call ⟨hips, hparams⟩ hsame
      obtain rfl : call.ip = ip := by simpa using hsame
      have hbucket : lim.bucketOf call = lim'.bucketOf call := by
        rw [bucketOf, bucketOf, hips, hparams.1, hparams.2]
      refine ⟨congrArg (fun tb : TokenBucket => (tb.allow call.now).1) hbucket, ?_, hparams⟩
      rw [ips_step, ips_step, hbucket, hips]

/-- Two tokens and one more per second: of five calls of `a` within a second three are admitted,
while `b` is served. -/
def crowd : List Call :=
  [⟨"a", 0, 0⟩, ⟨"a", 0, 0⟩, ⟨"b", 1 / 2, 1 / 2⟩, ⟨"a", 1 / 2, 1 / 2⟩, ⟨"a", 1, 1⟩, ⟨"a", 1, 1⟩]

theorem rate_limit_crowd : (crowd.flatMap Call.readings).Pairwise (· ≤ ·) ∧
    ((newIPRateLimiter 1 2).answers crowd).map Prod.snd = [true, true, true, false, true, false] ∧
    (((newIPRateLimiter 1 2).answers crowd).countP (admitted "a" 0 1) : ℚ) ≤ 2 + 1 * (1 - 0) := by
  have hclock : (crowd.flatMap Call.readings).Pairwise (· ≤ ·) := by decide +kernel
  exact ⟨hclock, by decide +kernel,
    (rate_limit (by decide) (by decide) hclock "a").1 0 1 (by decide)⟩

end IPRateLimiter

end OfflinePay.Api
