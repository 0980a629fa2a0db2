import OfflinePay.Risk.Engine
import OfflinePay.Token.Service

/-!
# The risk engine in the system

Reference: `internal/settlement/service.go`, `Settle`, where it calls `Assess`;
`internal/token/service.go`, `ComputeOfflineCreditLimit`.

`Settle` tells the risk engine of no earlier failures and of no location, so the location check is
not made. What the velocity window says is up to Redis and to whatever runs at the same time: an
`Externals` is `Wired` if each of its assessments is one of the engine, for some count.
-/

namespace OfflinePay

open Rounding

/-- The request of `Settle`. -/
def Risk.settleRequest (payload : PaymentIntentPayload) (hopCount : ℤ) : Risk.Request where
  amount := payload.amount
  hopCount := hopCount
  recentFailures := 0
  latitude := 0
  longitude := 0

/-- What `Settle` looks at. -/
def Risk.Assessment.verdict (a : Risk.Assessment) : RiskAssessment := ⟨a.action, a.reason⟩

/-- Conversion of a double to `int64`: the fraction is dropped. -/
def truncate (q : ℚ) : ℤ := if 0 ≤ q then ⌊q⌋ else ⌈q⌉

/-- `int64(200 + bestTrustScore*4800)`. -/
def Token.creditLimit (bestTrustScore : ℚ) : Int64 :=
  Int64.ofInt (truncate (round64 (200 + round64 (bestTrustScore * 4800))))

/-- Assessments are made by the risk engine, and limits are computed in doubles. -/
structure Externals.Wired (E : Externals) : Prop where
  assess : ∀ risk dev payload hopCount, ∃ count, (E.assess risk dev payload hopCount).1 =
    (Risk.assess (some dev) (Risk.settleRequest payload hopCount) count false).verdict
  creditLimit : E.creditLimit = Token.creditLimit

/-- Wire the risk engine to a source of velocity counts. -/
def Externals.wire (E : Externals) (S : Type) (velocity : S → Device → Option ℕ × S) : Externals :=
  { E with
    RiskState := S
    assess := fun s dev payload hopCount =>
      let (count, s') := velocity s dev
      ((Risk.assess (some dev) (Risk.settleRequest payload hopCount) count false).verdict, s')
    creditLimit := Token.creditLimit }

theorem Externals.wire_wired (E : Externals) (S : Type) (velocity : S → Device → Option ℕ × S) :
    (E.wire S velocity).Wired :=
  ⟨fun risk dev _ _ => ⟨(velocity risk dev).1, rfl⟩, rfl⟩

end OfflinePay
