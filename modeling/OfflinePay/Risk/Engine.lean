import OfflinePay.Common.Redis
import OfflinePay.Common.Rounding
import OfflinePay.Common.Run
import OfflinePay.Domain.Models

/-!
# The risk engine

Reference: `internal/risk/risk.go`, `RiskEngine.Assess`.

The score is a `float64`: every constant, sum and product is rounded. `assess` is what becomes of the
score and the reason once it is known what Redis said: the number of entries in the velocity window,
if all of its commands succeeded, and whether the device moved too fast.

What Redis says is the other half. The commands of an assessment go to the server one by one, so
those of assessments that run at the same time interleave, and each of them can fail. `Call` is an
assessment on its way and `State.step` runs its next command. The server and the service share a
clock, which counts nanoseconds; the server's own resolution is the millisecond.
-/

namespace OfflinePay.Risk

open Rounding

/-! ## Score and verdict -/

/-- `RiskAssessment`. -/
structure Assessment where
  action : RiskAction
  score : ℚ
  reason : String
deriving DecidableEq

/-- The score and the reason so far. -/
abbrev Tally := ℚ × String

/-- `score += c; reason = why`. -/
def Tally.raise (t : Tally) (c : ℚ) (why : String) : Tally := (round64 (t.1 + round64 c), why)

/-- A check with two thresholds. -/
structure Grades where
  high : ℤ
  highPoints : ℚ
  highReason : String
  low : ℤ
  lowPoints : ℚ
  lowReason : String

/-- `if x > high { .. } else if x > low { .. }`. -/
def Tally.grade (t : Tally) (g : Grades) (x : ℤ) : Tally :=
  if x > g.high then t.raise g.highPoints g.highReason
  else if x > g.low then t.raise g.lowPoints g.lowReason
  else t

/-- The transaction amount. -/
def amountGrades : Grades where
  high := 50000
  highPoints := 0.4
  highReason := "transaction amount spike"
  low := 15000
  lowPoints := 0.15
  lowReason := "moderate transaction amount"

/-- Device reputation and historical failures. -/
def failureGrades : Grades where
  high := 5
  highPoints := 0.4
  highReason := "reputation alert: excessive historical failures"
  low := 2
  lowPoints := 0.15
  lowReason := "reputation warning: moderate historical failures"

/-- Transactions in the last minute. -/
def velocityGrades : Grades where
  high := 10
  highPoints := 0.5
  highReason := "velocity check: excessive transactions per minute"
  low := 4
  lowPoints := 0.2
  lowReason := "velocity check: elevated transaction frequency"

/-- Proximity relay anomalies. -/
def Tally.hops (t : Tally) (hopCount : ℤ) : Tally :=
  if hopCount > 5 then t.raise 0.25 "excessive relay hop count" else t

/-- The velocity check, which is left out if one of its commands failed. -/
def Tally.velocity (t : Tally) (count : Option ℕ) : Tally :=
  match count with
  | none => t
  | some count => t.grade velocityGrades count

/-- Location drift. -/
def Tally.drift (t : Tally) (drifted : Bool) : Tally :=
  if drifted then t.raise 0.35 "location drift: physically impossible travel velocity" else t

/-- The final action. -/
def action (score : ℚ) : RiskAction :=
  if score ≥ round64 0.8 then .reject
  else if score ≥ round64 0.5 then .manualReview
  else if score ≥ round64 0.3 then .throttle
  else .allow

/-- What an assessment is about, besides the device. -/
structure Request where
  amount : Int64
  hopCount : ℤ
  recentFailures : ℤ
  latitude : ℚ
  longitude : ℚ
deriving DecidableEq

/-- The score and the reason of a device in good standing. -/
def tally (trustScore : ℚ) (r : Request) (count : Option ℕ) (drifted : Bool) : Tally :=
  let t : Tally := (0, "low risk")
  let t : Tally := (round64 (t.1 + round64 (round64 (1 - trustScore) * round64 0.3)), t.2)
  let t := (t.grade amountGrades r.amount.toInt).hops r.hopCount
  ((t.grade failureGrades r.recentFailures).velocity count).drift drifted

/-- `Assess`, given what Redis said. -/
def assess (dev : Option Device) (r : Request) (count : Option ℕ) (drifted : Bool) : Assessment :=
  match dev with
  | none => ⟨.reject, 1, "unregistered device"⟩
  | some dev =>
    if dev.status = .revoked ∨ dev.status = .compromised then
      ⟨.reject, 1, "device status is " ++ dev.status.text⟩
    else
      let t := tally dev.trustScore r count drifted
      ⟨action t.1, t.1, t.2⟩

/-! ## Location drift -/

/-- The JSON kept under `last_loc:<device>`. -/
structure Location where
  lat : ℚ
  long : ℚ
  time : ℤ
deriving DecidableEq

/-- `math.Sqrt`: the double nearest to the root of `q`. -/
def sqrt64 (q : ℚ) : ℚ :=
  let e := max (Int.log 2 q / 2 - 52) (-1074)
  let scaled := q / 4 ^ e
  let k : ℤ := Nat.sqrt ⌊scaled⌋₊
  let half : ℚ := (k + 1 / 2) ^ 2
  (if scaled < half then k else if half < scaled then k + 1 else k + k % 2 : ℤ) * 2 ^ e

/-- Did the device get from its last location to this one too fast? -/
def driftedFrom (last : Location) (latitude longitude : ℚ) (now : ℤ) : Bool :=
  let dx := round64 (round64 (latitude - last.lat) * 111)
  let dy := round64 (round64 (longitude - last.long) * 111)
  let distance := sqrt64 (round64 (round64 (dx * dx) + round64 (dy * dy)))
  let timeDiffHours := round64 (round64 (now - last.time : ℤ) / 3600)
  timeDiffHours > 0 && round64 (distance / timeDiffHours) > 800 && distance > 100

/-! ## The commands of an assessment -/

/-- The next command of an assessment. -/
inductive Pc where
  | zremrangebyscore | zadd | expire | zcard | getLocation | setLocation | returned
deriving DecidableEq, Repr

/-- One minute, in nanoseconds. -/
def window : Time := 60000000000

/-- The time to live of a velocity window, in milliseconds. -/
def velocityTTL : ℤ := 300000

/-- The time to live of a location, in milliseconds. -/
def locationTTL : ℤ := 86400000

/-- The clock of the server. -/
def serverTime (t : Time) : ℤ := t / 1000000

/-- An assessment that runs or has returned. -/
structure Call where
  dev : Option Device
  request : Request
  /-- `now`, the member and the score of the entry. -/
  now : Time
  windowStart : Time
  /-- `ZADD` was answered: the entry reached the window. -/
  added : Bool := false
  count : Option ℕ := none
  drifted : Bool := false
  pc : Pc
deriving DecidableEq

/-- The id in the keys of the assessment. -/
def Call.deviceID (c : Call) : String := (c.dev.map Device.deviceID).getD ""

/-- What the assessment answers. -/
def Call.assessment (c : Call) : Assessment := assess c.dev c.request c.count c.drifted

/-- The engine, with the server behind its client, and the assessments made with it. -/
structure State where
  /-- `redisClient` is not nil. -/
  client : Bool
  redis : Redis.Store String Time Location
  calls : List Call
  clock : Time

def velocityKey (deviceID : String) : String := "velocity:" ++ deviceID

def locKey (deviceID : String) : String := "last_loc:" ++ deviceID

/-- Where an assessment goes when it is done with the velocity window. -/
def Call.afterVelocity (c : Call) : Call :=
  { c with
    pc := if c.request.latitude ≠ 0 ∧ c.request.longitude ≠ 0 then .getLocation else .returned }

/-- The checks before the first command, and the two readings of the clock. -/
def Call.start (client : Bool) (dev : Option Device) (request : Request) (now later : Time) : Call :=
  { dev, request, now, windowStart := later - window
    pc := if client && dev.any (!·.barred) then .zremrangebyscore else .returned }

inductive Label where
  /-- `Assess` is called; the clock is read twice. -/
  | start (dev : Option Device) (request : Request) (now later : Time)
  /-- An assessment runs its next command, which reaches the server or not. -/
  | command (i : ℕ) (t : Time) (ok : Bool)
deriving DecidableEq

/-- The time at which a label ends. -/
def Label.time : Label → Time
  | .start _ _ _ later => later
  | .command _ t _ => t

/-- The next command of an assessment: the assessment after it, and the store. -/
def Call.command (c : Call) (t : Time) (ok : Bool) (redis : Redis.Store String Time Location) :
    Call × Redis.Store String Time Location :=
  let vkey := velocityKey c.deviceID
  let lkey := locKey c.deviceID
  match c.pc with
  | .zremrangebyscore =>
    if ok then
      match (redis vkey).zremrangebyscore (serverTime t) 0 (round64 c.windowStart) with
      | .ok slot => ({ c with pc := .zadd }, Function.update redis vkey slot)
      | .error _ => (c.afterVelocity, redis)
    else (c.afterVelocity, redis)
  | .zadd =>
    if ok then
      match (redis vkey).zadd (serverTime t) (round64 c.now) c.now with
      | .ok slot => ({ c with added := true, pc := .expire }, Function.update redis vkey slot)
      | .error _ => (c.afterVelocity, redis)
    else (c.afterVelocity, redis)
  | .expire =>
    -- the error of `Expire` is ignored
    ({ c with pc := .zcard },
      if ok then Function.update redis vkey ((redis vkey).expire (serverTime t) velocityTTL)
      else redis)
  | .zcard =>
    if ok then
      match (redis vkey).zcard (serverTime t) with
      | .ok count => ({ c with count := some count }.afterVelocity, redis)
      | .error _ => (c.afterVelocity, redis)
    else (c.afterVelocity, redis)
  | .getLocation =>
    let c := { c with pc := .setLocation }
    if ok then
      match (redis lkey).get (serverTime t) with
      | .ok (some last) =>
        ({ c with drifted := driftedFrom last c.request.latitude c.request.longitude t.unix }, redis)
      | _ => (c, redis)
    else (c, redis)
  | .setLocation =>
    ({ c with pc := .returned },
      if ok then
        Function.update redis lkey ((redis lkey).set (serverTime t)
          ⟨c.request.latitude, c.request.longitude, t.unix⟩ locationTTL)
      else redis)
  | .returned => (c, redis)

namespace State

/-- A label of the engine. -/
def step (s : State) : Label → State
  | .start dev request now later =>
    { s with calls := s.calls ++ [Call.start s.client dev request now later], clock := later }
  | .command i t ok =>
    match s.calls[i]? with
    | none => { s with clock := t }
    | some c =>
      let (c', redis) := c.command t ok s.redis
      { s with redis, calls := s.calls.set i c', clock := t }

/-- An engine whose server is empty. -/
def init (client : Bool) (clock : Time) : State := ⟨client, fun _ => none, [], clock⟩

/-- The state after a run. -/
abbrev exec (s : State) (ls : List Label) : State := Run.exec step s ls

end State

end OfflinePay.Risk
