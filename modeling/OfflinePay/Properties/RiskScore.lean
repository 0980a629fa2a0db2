import OfflinePay.Risk.Engine

/-!
# Worse evidence never makes a milder verdict

The score of the risk engine is a sum of doubles, and each addition rounds. Every check adds points
that grow with what it looks at (`Grades.points_mono`), adding nothing leaves a double alone, and
rounding keeps the order; so the whole score is monotone in the evidence (`tally_mono`), and the
action with it.
-/

namespace OfflinePay

/-- How severe a verdict is. -/
def RiskAction.severity : RiskAction → ℕ
  | allow => 0
  | throttle => 1
  | manualReview => 2
  | reject => 3

theorem RiskAction.severity_le (a : RiskAction) : a.severity ≤ RiskAction.reject.severity := by
  cases a <;> decide

namespace Risk

open Rounding

/-! ## Points -/

/-- The points of a check with two thresholds. -/
def Grades.points (g : Grades) (x : ℤ) : ℚ :=
  if x > g.high then round64 g.highPoints else if x > g.low then round64 g.lowPoints else 0

/-- The grades of a check are in order. -/
structure Grades.Ordered (g : Grades) : Prop where
  thresholds : g.low ≤ g.high
  low_nonneg : 0 ≤ g.lowPoints
  points : g.lowPoints ≤ g.highPoints

theorem amountGrades_ordered : amountGrades.Ordered := by
  constructor <;> decide +kernel

theorem failureGrades_ordered : failureGrades.Ordered := by
  constructor <;> decide +kernel

theorem velocityGrades_ordered : velocityGrades.Ordered := by
  constructor <;> decide +kernel

theorem Grades.Ordered.points_mono {g : Grades} (h : g.Ordered) {x y : ℤ} (hxy : x ≤ y) :
    g.points x ≤ g.points y := by
  have hlow := round64_nonneg h.low_nonneg
  have hhigh := round64_mono h.points
  have := h.thresholds
  unfold Grades.points
  split_ifs <;> first | omega | linarith

/-- The points for relay hops. -/
def hopPoints (hopCount : ℤ) : ℚ := if hopCount > 5 then round64 0.25 else 0

theorem hopPoints_mono {x y : ℤ} (h : x ≤ y) : hopPoints x ≤ hopPoints y := by
  have hnonneg := round64_nonneg (show (0 : ℚ) ≤ 0.25 by norm_num)
  unfold hopPoints
  split_ifs <;> first | omega | linarith

/-- The points for a drift. -/
def driftPoints (drifted : Bool) : ℚ := if drifted then round64 0.35 else 0

theorem driftPoints_mono {x y : Bool} (h : x = true → y = true) : driftPoints x ≤ driftPoints y := by
  have hnonneg := round64_nonneg (show (0 : ℚ) ≤ 0.35 by norm_num)
  cases x
  · cases y
    · exact le_rfl
    · exact hnonneg
  · rw [h rfl]

/-! ## The score -/

variable {t : Tally}

theorem score_grade (ht : IsDouble t.1) (g : Grades) (x : ℤ) :
    (t.grade g x).1 = round64 (t.1 + g.points x) := by
  unfold Tally.grade Grades.points
  split_ifs
  · rfl
  · rfl
  · rw [add_zero, round64_of_double ht]

theorem score_hops (ht : IsDouble t.1) (x : ℤ) :
    (t.hops x).1 = round64 (t.1 + hopPoints x) := by
  unfold Tally.hops hopPoints
  split_ifs
  · rfl
  · rw [add_zero, round64_of_double ht]

/-- A velocity check that was left out adds as much as an empty window. -/
theorem score_velocity (ht : IsDouble t.1) (count : Option ℕ) :
    (t.velocity count).1 = round64 (t.1 + velocityGrades.points (count.getD 0 : ℕ)) := by
  cases count with
  | none =>
    have hzero : velocityGrades.points ((none : Option ℕ).getD 0 : ℕ) = 0 := by decide +kernel
    rw [hzero, add_zero, round64_of_double ht]
    rfl
  | some count => exact score_grade ht velocityGrades count

theorem score_drift (ht : IsDouble t.1) (drifted : Bool) :
    (t.drift drifted).1 = round64 (t.1 + driftPoints drifted) := by
  unfold Tally.drift driftPoints
  split_ifs
  · rfl
  · rw [add_zero, round64_of_double ht]

/-- The points of the trust score. -/
def trustPoints (trustScore : ℚ) : ℚ := round64 (round64 (1 - trustScore) * round64 0.3)

theorem trustPoints_anti {x y : ℚ} (h : x ≤ y) : trustPoints y ≤ trustPoints x := by
  have hdiff : round64 (1 - y) ≤ round64 (1 - x) := round64_mono (by linarith)
  have hnonneg : 0 ≤ round64 0.3 := round64_nonneg (by norm_num)
  exact round64_mono (mul_le_mul_of_nonneg_right hdiff hnonneg)

theorem double_of_eq {x q : ℚ} (h : x = round64 q) : IsDouble x := h ▸ isDouble_round64 q

/-- The score as one sum, rounded after every term. -/
theorem score_tally (trustScore : ℚ) (r : Request) (count : Option ℕ) (drifted : Bool) :
    (tally trustScore r count drifted).1 =
      round64 (round64 (round64 (round64 (round64 (round64 (0 + trustPoints trustScore)
        + amountGrades.points r.amount.toInt) + hopPoints r.hopCount)
        + failureGrades.points r.recentFailures)
        + velocityGrades.points (count.getD 0 : ℕ)) + driftPoints drifted) := by
  let t : Tally := (round64 (0 + trustPoints trustScore), "low risk")
  have hamount := score_grade (t := t) (isDouble_round64 _) amountGrades r.amount.toInt
  have hhops := score_hops (double_of_eq hamount) r.hopCount
  have hfailures := score_grade (double_of_eq hhops) failureGrades r.recentFailures
  have hvelocity := score_velocity (double_of_eq hfailures) count
  have hdrift := score_drift (double_of_eq hvelocity) drifted
  rw [hvelocity, hfailures, hhops, hamount] at hdrift
  exact hdrift

theorem action_mono {x y : ℚ} (h : x ≤ y) : (action x).severity ≤ (action y).severity := by
  unfold action
  split_ifs <;> first | decide | (exfalso; linarith)

/-! ## Evidence -/

/-- What a verdict rests on. -/
structure Evidence where
  dev : Option Device
  request : Request
  count : Option ℕ
  drifted : Bool
deriving DecidableEq

/-- The verdict. -/
def Evidence.assess (e : Evidence) : Assessment := Risk.assess e.dev e.request e.count e.drifted

/-- `e'` is at least as bad as `e` in every respect. -/
structure Evidence.Worse (e e' : Evidence) : Prop where
  device : ∀ d' ∈ e'.dev, ∃ d ∈ e.dev, d'.trustScore ≤ d.trustScore ∧
    (d.barred = true → d'.barred = true)
  amount : e.request.amount ≤ e'.request.amount
  hopCount : e.request.hopCount ≤ e'.request.hopCount
  recentFailures : e.request.recentFailures ≤ e'.request.recentFailures
  count : e.count.getD 0 ≤ e'.count.getD 0
  drifted : e.drifted = true → e'.drifted = true

theorem assess_of_barred {d : Device} (h : d.barred = true) (r : Request) (count : Option ℕ)
    (drifted : Bool) : (assess (some d) r count drifted).action = .reject := by
  have hstatus : d.status = .revoked ∨ d.status = .compromised := by simpa [Device.barred] using h
  rw [assess, if_pos hstatus]

theorem assess_of_not_barred {d : Device} (h : d.barred = false) (r : Request) (count : Option ℕ)
    (drifted : Bool) :
    (assess (some d) r count drifted).score = (tally d.trustScore r count drifted).1 ∧
      (assess (some d) r count drifted).action = action (tally d.trustScore r count drifted).1 := by
  have hstatus : ¬(d.status = .revoked ∨ d.status = .compromised) := by
    simpa [Device.barred] using h
  rw [assess, if_neg hstatus]
  exact ⟨rfl, rfl⟩

theorem Evidence.Worse.tally_le {e e' : Evidence} (h : e.Worse e') {x x' : ℚ} (hx : x' ≤ x) :
    (tally x e.request e.count e.drifted).1 ≤ (tally x' e'.request e'.count e'.drifted).1 := by
  have hcount : ((e.count.getD 0 : ℕ) : ℤ) ≤ ((e'.count.getD 0 : ℕ) : ℤ) := by
    exact_mod_cast h.count
  rw [score_tally, score_tally]
  refine round64_add_le ?_ (driftPoints_mono h.drifted)
  refine round64_add_le ?_ (velocityGrades_ordered.points_mono hcount)
  refine round64_add_le ?_ (failureGrades_ordered.points_mono h.recentFailures)
  refine round64_add_le ?_ (hopPoints_mono h.hopCount)
  refine round64_add_le ?_ (amountGrades_ordered.points_mono (Int64.le_iff_toInt_le.1 h.amount))
  exact round64_add_le le_rfl (trustPoints_anti hx)

/-- Two devices in good standing. -/
theorem Evidence.Worse.assess_le {e e' : Evidence} (h : e.Worse e') {d d' : Device}
    (hd : e.dev = some d) (hd' : e'.dev = some d') (hgood : d.barred = false)
    (hgood' : d'.barred = false) (htrust : d'.trustScore ≤ d.trustScore) :
    e.assess.action.severity ≤ e'.assess.action.severity ∧ e.assess.score ≤ e'.assess.score := by
  obtain ⟨hscore, haction⟩ := assess_of_not_barred hgood e.request e.count e.drifted
  obtain ⟨hscore', haction'⟩ := assess_of_not_barred hgood' e'.request e'.count e'.drifted
  rw [Evidence.assess, Evidence.assess, hd, hd', hscore, haction, hscore', haction']
  exact ⟨action_mono (h.tally_le htrust), h.tally_le htrust⟩

/-- Evidence that is worse in any respect never gets a milder verdict, and between devices in good
standing never a lower score. -/
theorem assess_mono (e e' : Evidence) (h : e.Worse e') :
    e.assess.action.severity ≤ e'.assess.action.severity ∧
      ((∃ d' ∈ e'.dev, d'.barred = false) → e.assess.score ≤ e'.assess.score) := by
  cases hdev' : e'.dev with
  | none =>
    have hreject : e'.assess.action = .reject := by rw [Evidence.assess, hdev', assess]
    exact ⟨hreject ▸ RiskAction.severity_le _, by simp⟩
  | some d' =>
    obtain ⟨d, hd, htrust, hbarred⟩ := h.device d' hdev'
    cases hgood' : d'.barred with
    | true =>
      have hreject : e'.assess.action = .reject := by
        rw [Evidence.assess, hdev', assess_of_barred hgood']
      exact ⟨hreject ▸ RiskAction.severity_le _, by simp [hgood']⟩
    | false =>
      have hgood : d.barred = false := by
        rw [← Bool.not_eq_true]
        intro hbad
        rw [hbarred hbad] at hgood'
        cases hgood'
      obtain ⟨haction, hscore⟩ := h.assess_le hd hdev' hgood hgood' htrust
      exact ⟨haction, fun _ => hscore⟩

/-- A trusted device, and Redis does not answer. -/
def calm : Evidence :=
  ⟨some ⟨"phone", "alice", "pem", 1, .active, 0, none⟩, ⟨5000, 1, 0, 0, 0⟩, none, false⟩

/-- Less trust, a larger amount, and more of everything else. -/
def alarming : Evidence :=
  ⟨some ⟨"phone", "alice", "pem", 0.9, .active, 0, none⟩, ⟨15001, 6, 0, 0, 0⟩, some 11, false⟩

theorem assess_mono_alarming : calm.Worse alarming ∧ calm.assess.score ≤ alarming.assess.score := by
  have hworse : calm.Worse alarming := by
    constructor
    · rintro d' ⟨⟩
      exact ⟨_, rfl, by norm_num, id⟩
    all_goals decide
  exact ⟨hworse, (assess_mono calm alarming hworse).2 ⟨_, rfl, rfl⟩⟩

end Risk

end OfflinePay
