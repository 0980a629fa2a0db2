import OfflinePay.Recovery.Policy

/-!
# What a failure's text can bring about

Reference: `internal/recovery/recovery.go`, `doc/adr/adr-011-bounded-recovery.md`.

`Classify` goes through its keywords in order, and the network keywords come first. So a text that
also names a nonce, a ledger or a token is retried as soon as it says `connection` or `timeout`, and
only then (`sensitive_not_retried_iff`).

Where no keyword occurs the LLM is asked. Both range checks on its confidence are comparisons that
NaN fails, so NaN passes as a high confidence; apart from that its authority is bounded
(`llm_bounded_iff`).
-/

namespace OfflinePay.Recovery

/-! ## Keywords -/

/-- Keywords of a network failure. -/
def networkKeywords : List String :=
  ["timeout", "temporary", "connection", "redis", "outbox", "unavailable"]

/-- Keywords of a security failure. -/
def securityKeywords : List String :=
  ["nonce", "replay", "signature", "revoked", "attestation", "security"]

/-- Keywords of a consistency failure. -/
def consistencyKeywords : List String := ["ledger", "balance", "token", "duplicate", "consistency"]

/-- Keywords of an infrastructure failure. -/
def infrastructureKeywords : List String := ["database", "postgres", "infrastructure"]

/-- Keywords of a payment failure. -/
def paymentKeywords : List String := ["declined", "expired", "insufficient", "payment"]

/-- The lower-cased code and message contain one of the keywords. -/
def FailureEvent.mentions (e : FailureEvent) (keywords : List String) : Bool :=
  containsAny ((e.code ++ " " ++ e.message).toList.map lowerChar) keywords

/-- The text contains a keyword of some rule. -/
def FailureEvent.ruled (e : FailureEvent) : Bool :=
  e.mentions networkKeywords || e.mentions securityKeywords || e.mentions consistencyKeywords
    || e.mentions infrastructureKeywords || e.mentions paymentKeywords

/-- What `Classify` makes of the answer of the LLM. -/
def ambiguous (llm : Option LLMClassifier) (e : FailureEvent) : Classification :=
  match llm with
  | none => ⟨.unknown, .fin 0, "RULE"⟩
  | some ask =>
    match ask e with
    | some (category, confidence) =>
      if !validCategory category || confidence.lt (.fin 0) || (Float64.fin 1).lt confidence then
        ⟨.unknown, .fin 0, "LLM_INVALID"⟩
      else ⟨category, confidence, "LLM"⟩
    | none => ⟨.unknown, .fin 0, "LLM_INVALID"⟩

theorem classify_eq (llm : Option LLMClassifier) (e : FailureEvent) : classify llm e =
    if e.mentions networkKeywords then ⟨.network, .fin 0.95, "RULE"⟩
    else if e.mentions securityKeywords then ⟨.security, .fin 0.99, "RULE"⟩
    else if e.mentions consistencyKeywords then ⟨.consistency, .fin 0.95, "RULE"⟩
    else if e.mentions infrastructureKeywords then ⟨.infrastructure, .fin 0.95, "RULE"⟩
    else if e.mentions paymentKeywords then ⟨.payment, .fin 0.95, "RULE"⟩
    else ambiguous llm e :=
  rfl

/-- A rule that applies leaves nothing to the LLM. -/
theorem classify_ruled {e : FailureEvent} (h : e.ruled = true) (llm llm' : Option LLMClassifier) :
    classify llm e = classify llm' e := by
  simp only [FailureEvent.ruled, Bool.or_eq_true] at h
  rw [classify_eq, classify_eq]
  split_ifs with h₁ h₂ h₃ h₄ h₅
  · rfl
  · rfl
  · rfl
  · rfl
  · rfl
  · simp [h₁, h₂, h₃, h₄, h₅] at h

theorem classify_ambiguous {e : FailureEvent} (h : e.ruled = false) (llm : Option LLMClassifier) :
    classify llm e = ambiguous llm e := by
  simp only [FailureEvent.ruled, Bool.or_eq_false_iff] at h
  obtain ⟨⟨⟨⟨h₁, h₂⟩, h₃⟩, h₄⟩, h₅⟩ := h
  rw [classify_eq, h₁, h₂, h₃, h₄, h₅]
  rfl

/-! ## What a policy decides -/

/-- Amount, age and attempts are within the limits of the policy. -/
def Policy.InBudget (p : Policy) (e : FailureEvent) (attempts : ℤ) (now : Time) : Prop :=
  e.amount ≤ p.maxAmount ∧ now ≤ e.occurredAt.getD Time.zero + p.maxElapsed.toInt ∧
    attempts < p.maxAttempts

instance (p : Policy) (e : FailureEvent) (attempts : ℤ) (now : Time) :
    Decidable (p.InBudget e attempts now) :=
  inferInstanceAs (Decidable (_ ∧ _ ∧ _))

/-- The action for a category that is believed. -/
def FailureCategory.action : FailureCategory → Action
  | .network | .infrastructure => .retry
  | .payment => .compensate
  | .security | .consistency => .escalate
  | .unknown | .other _ _ => .abstain

section Decide

variable {p : Policy} {e : FailureEvent} {c : Classification} {attempts : ℤ} {now : Time}

/-- Within the budget the confidence and the category decide. -/
theorem decide_inBudget (h : p.InBudget e attempts now) : (p.decide e c attempts now).action =
    if c.confidence.lt (.fin minimumConfidence) then .abstain else c.category.action := by
  obtain ⟨hamount, hage, hattempts⟩ := h
  have hbudget : ¬(p.maxAmount < e.amount || e.occurredAt.getD Time.zero + p.maxElapsed.toInt < now)
      = true := by
    rw [Bool.or_eq_true, decide_eq_true_eq, decide_eq_true_eq, not_or]
    exact ⟨Int64.not_lt.mpr hamount, not_lt.mpr hage⟩
  unfold Policy.decide
  rw [if_neg hbudget, if_neg (not_le.mpr hattempts)]
  split_ifs
  · rfl
  · cases c.category <;> rfl

/-- Beyond the budget nothing is done. -/
theorem decide_beyond (h : ¬p.InBudget e attempts now) :
    (p.decide e c attempts now).action ≠ .retry ∧ (p.decide e c attempts now).action ≠ .compensate := by
  unfold Policy.decide
  split_ifs with hbudget hattempts
  · exact ⟨by decide, by decide⟩
  · exact ⟨by decide, by decide⟩
  all_goals
    rw [Bool.or_eq_true, decide_eq_true_eq, decide_eq_true_eq, not_or] at hbudget
    exact absurd ⟨Int64.not_lt.mp hbudget.1, not_lt.mp hbudget.2, not_le.mp hattempts⟩ h

/-- A policy acts on a failure within its budget that is classified with enough confidence. -/
theorem decide_acts_iff {a : Action} (ha : a = .retry ∨ a = .compensate) :
    (p.decide e c attempts now).action = a ↔
      p.InBudget e attempts now ∧ c.confidence.lt (.fin minimumConfidence) = false ∧
        c.category.action = a := by
  by_cases h : p.InBudget e attempts now
  · rw [decide_inBudget h]
    by_cases hlow : c.confidence.lt (.fin minimumConfidence) = true
    · have habstain : Action.abstain ≠ a := by rintro rfl; simp at ha
      simp [hlow, habstain]
    · simp [h, hlow]
  · have hnot := decide_beyond (c := c) h
    obtain rfl | rfl := ha
    · simp [h, hnot.1]
    · simp [h, hnot.2]

end Decide

/-! ## Security and consistency failures -/

/-- A text with a security or consistency keyword is classified as such unless a network keyword
occurs as well. -/
theorem classify_sensitive {e : FailureEvent} (llm : Option LLMClassifier)
    (h : e.mentions securityKeywords = true ∨ e.mentions consistencyKeywords = true)
    (hnetwork : e.mentions networkKeywords = false) :
    (classify llm e).category.action = .escalate := by
  rw [classify_eq, hnetwork]
  by_cases hsecurity : e.mentions securityKeywords = true
  · simp [hsecurity, FailureCategory.action]
  · have hconsistency := h.resolve_left hsecurity
    simp [hsecurity, hconsistency, FailureCategory.action]

theorem classify_network {e : FailureEvent} (llm : Option LLMClassifier)
    (h : e.mentions networkKeywords = true) : classify llm e = ⟨.network, .fin 0.95, "RULE"⟩ := by
  rw [classify_eq, if_pos h]

/-- For every failure whose text has a security or consistency keyword, every LLM, policy, number of
attempts and time: it is not retried exactly if no network keyword occurs, or it is beyond the
budget. -/
theorem sensitive_not_retried_iff (llm : Option LLMClassifier) (p : Policy) (e : FailureEvent)
    (attempts : ℤ) (now : Time)
    (h : e.mentions securityKeywords = true ∨ e.mentions consistencyKeywords = true) :
    (p.decide e (classify llm e) attempts now).action ≠ .retry ↔
      e.mentions networkKeywords = false ∨ ¬p.InBudget e attempts now := by
  rw [Ne, decide_acts_iff (.inl rfl)]
  by_cases hnetwork : e.mentions networkKeywords = true
  · have hhigh : (Float64.fin 0.95).lt (.fin minimumConfidence) = false := by decide +kernel
    rw [classify_network llm hnetwork, hhigh]
    simp [hnetwork, FailureCategory.action]
  · have hescalate := classify_sensitive llm h (Bool.eq_false_iff.mpr hnetwork)
    simp [hescalate, hnetwork]

/-- A token that was spent already is not spent again. -/
theorem sensitive_not_retried_iff_consumed :
    (defaultPolicy.decide ⟨"", "T", 30, "token_already_consumed", "spending token already consumed", some 0⟩
      (classify none ⟨"", "T", 30, "token_already_consumed", "spending token already consumed", some 0⟩)
      0 1).action ≠ .retry :=
  (sensitive_not_retried_iff none defaultPolicy _ 0 1 (by decide +kernel)).mpr (by decide +kernel)

/-- The failure that `Settle` records when the connection is lost in `LEDGER_COMMIT`. -/
def ledgerLost : FailureEvent :=
  ⟨"", "T", 30, "saga aborted on step LEDGER_COMMIT: driver: bad connection",
    "saga aborted on step LEDGER_COMMIT: driver: bad connection", some 0⟩

/-- It names the ledger, and is retried. -/
theorem ledgerLost_retried : ledgerLost.mentions consistencyKeywords = true ∧
    (defaultPolicy.decide ledgerLost (classify none ledgerLost) 0 1).action = .retry := by
  decide +kernel

/-! ## The authority of the LLM -/

/-- The LLM answered with a known category and a confidence from 0.70 to 1, and the failure is
within the budget. -/
def Empowered (llm : Option LLMClassifier) (p : Policy) (e : FailureEvent) (attempts : ℤ)
    (now : Time) :
    Prop :=
  ∃ ask category q, llm = some ask ∧ ask e = some (category, .fin q) ∧ validCategory category = true ∧
    minimumConfidence ≤ q ∧ q ≤ 1 ∧ p.InBudget e attempts now

/-- The LLM decides where no rule does, within its bounds, and nowhere else. -/
structure LLMBounded (llm : Option LLMClassifier) (p : Policy) (e : FailureEvent) (attempts : ℤ)
    (now : Time) : Prop where
  empowered : e.ruled = false →
    (p.decide e (classify llm e) attempts now).action = .retry ∨
      (p.decide e (classify llm e) attempts now).action = .compensate →
    Empowered llm p e attempts now
  ruled : e.ruled = true → ∀ llm',
    p.decide e (classify llm' e) attempts now = p.decide e (classify llm e) attempts now

/-- The LLM answered with NaN for a category that is acted on. -/
def AnswersNaN (llm : Option LLMClassifier) (e : FailureEvent) : Prop :=
  ∃ ask category, llm = some ask ∧ ask e = some (category, .nan) ∧
    (category.action = .retry ∨ category.action = .compensate)

/-- What is believed came from the LLM, with a confidence in range or NaN. -/
theorem ambiguous_confident {llm : Option LLMClassifier} {e : FailureEvent}
    (h : (ambiguous llm e).confidence.lt (.fin minimumConfidence) = false) :
    ∃ ask, llm = some ask ∧
      ask e = some ((ambiguous llm e).category, (ambiguous llm e).confidence) ∧
      validCategory (ambiguous llm e).category = true ∧
      ((ambiguous llm e).confidence = .nan ∨
        ∃ q, (ambiguous llm e).confidence = .fin q ∧ minimumConfidence ≤ q ∧ q ≤ 1) := by
  have hzero : (Float64.fin 0).lt (.fin minimumConfidence) = true := by decide +kernel
  cases llm with
  | none => exact absurd h (by simp [ambiguous, hzero])
  | some ask =>
    cases hask : ask e with
    | none => exact absurd h (by simp [ambiguous, hask, hzero])
    | some answer =>
      obtain ⟨category, confidence⟩ := answer
      by_cases hbad : (!validCategory category || confidence.lt (.fin 0)
          || (Float64.fin 1).lt confidence) = true
      · exact absurd h (by simp only [ambiguous, hask, if_pos hbad, hzero]; decide)
      · have hresult : ambiguous (some ask) e = ⟨category, confidence, "LLM"⟩ := by
          simp only [ambiguous, hask, if_neg hbad]
        rw [hresult] at h ⊢
        simp only [Bool.or_eq_true, Bool.not_eq_true', not_or, Bool.not_eq_false, Bool.not_eq_true]
          at hbad
        obtain ⟨⟨hvalid, -⟩, hle⟩ := hbad
        refine ⟨ask, rfl, hask, hvalid, ?_⟩
        -- an infinite confidence fails one of the comparisons
        match confidence, h, hle with
        | .nan, _, _ => exact .inl rfl
        | .fin q, h, hle =>
          exact .inr ⟨q, rfl, not_lt.mp (of_decide_eq_false h), not_lt.mp (of_decide_eq_false hle)⟩

theorem ambiguous_nan {ask : LLMClassifier} {e : FailureEvent} {category : FailureCategory}
    (hask : ask e = some (category, .nan)) (hvalid : validCategory category = true) :
    ambiguous (some ask) e = ⟨category, .nan, "LLM"⟩ := by
  simp [ambiguous, hask, hvalid, Float64.lt]

/-- Only known categories are acted on. -/
theorem validCategory_of_acts {category : FailureCategory}
    (h : category.action = .retry ∨ category.action = .compensate) :
    validCategory category = true := by
  cases category with
  | other name hname => simp [FailureCategory.action] at h
  | _ => rfl

/-- For every failure, every LLM, policy, number of attempts and time: the authority of the LLM is
bounded unless no rule applies, the failure is within the budget, and the LLM answers with NaN for a
category that is acted on. -/
theorem llm_bounded_iff (llm : Option LLMClassifier) (p : Policy) (e : FailureEvent) (attempts : ℤ)
    (now : Time) : LLMBounded llm p e attempts now ↔
      ¬(e.ruled = false ∧ p.InBudget e attempts now ∧ AnswersNaN llm e) := by
  constructor
  · rintro hbounded ⟨hruled, hbudget, ask, category, rfl, hask, hacts⟩
    have hdecide : (p.decide e (classify (some ask) e) attempts now).action = category.action := by
      rw [classify_ambiguous hruled, ambiguous_nan hask (validCategory_of_acts hacts),
        decide_inBudget hbudget]
      rfl
    rw [← hdecide] at hacts
    obtain ⟨ask', category', q, hllm, hask', -⟩ := hbounded.empowered hruled hacts
    obtain rfl := Option.some.inj hllm
    rw [hask] at hask'
    cases hask'
  · intro hnot
    refine ⟨fun hruled hacts => ?_, fun hruled llm' => by rw [classify_ruled hruled llm' llm]⟩
    obtain ⟨a, ha, hdecide⟩ : ∃ a, (a = Action.retry ∨ a = .compensate) ∧
        (p.decide e (classify llm e) attempts now).action = a := ⟨_, hacts, rfl⟩
    obtain ⟨hbudget, hconfident, haction⟩ := (decide_acts_iff ha).mp hdecide
    rw [classify_ambiguous hruled] at hconfident haction
    obtain ⟨ask, rfl, hask, hvalid, hnan | ⟨q, hq, hlow, hhigh⟩⟩ := ambiguous_confident hconfident
    · rw [hnan] at hask
      exact absurd ⟨hruled, hbudget, ask, _, rfl, hask, haction.symm ▸ ha⟩ hnot
    · rw [hq] at hask
      exact ⟨ask, _, q, rfl, hask, hvalid, hlow, hhigh, hbudget⟩

/-- An LLM that has no idea how sure it is. -/
def nanLLM : LLMClassifier := fun _ => some (.network, .nan)

/-- Its word is enough for a retry. -/
theorem nanLLM_unbounded :
    ¬LLMBounded (some nanLLM) defaultPolicy ⟨"", "T", 30, "odd", "", some 0⟩ 0 1 := by
  intro hbounded
  obtain ⟨ask, category, q, hllm, hask, -⟩ :=
    hbounded.empowered (by decide +kernel) (.inl (by decide +kernel))
  obtain rfl := Option.some.inj hllm
  cases hask

end OfflinePay.Recovery
