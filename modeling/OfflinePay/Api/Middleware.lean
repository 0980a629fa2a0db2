import OfflinePay.Common.Run
import Mathlib.Algebra.Order.Ring.Rat

/-!
# Rate limiting

Reference: `internal/api/middleware.go`, `TokenBucket` and `IPRateLimiter`.

A bucket is filled when it is asked for a token, for the time since it was asked last. The clock
counts seconds, and what is a double in the source is a rational here. What a call reads from the
clock is part of the call. A bucket is used under its lock, and `LoadOrStore` keeps one bucket for
each address, so calls that run at the same time take effect one after the other.
-/

namespace OfflinePay.Api

/-- `TokenBucket`: tokens refilled per second, maximum tokens, tokens. -/
structure TokenBucket where
  rate : ℚ
  capacity : ℚ
  tokens : ℚ
  lastRefilled : ℚ
deriving DecidableEq

/-- `NewTokenBucket`. -/
def newTokenBucket (rate capacity now : ℚ) : TokenBucket := ⟨rate, capacity, capacity, now⟩

/-- `TokenBucket.Allow`: the answer, and the bucket after it. -/
def TokenBucket.allow (tb : TokenBucket) (now : ℚ) : Bool × TokenBucket :=
  let elapsed := now - tb.lastRefilled
  let tokens := tb.tokens + elapsed * tb.rate
  let tokens := if tokens > tb.capacity then tb.capacity else tokens
  if tokens ≥ 1 then (true, { tb with tokens := tokens - 1, lastRefilled := now })
  else (false, { tb with tokens, lastRefilled := now })

/-- `IPRateLimiter`: the buckets of the client addresses. -/
structure IPRateLimiter where
  ips : String → Option TokenBucket
  rate : ℚ
  capacity : ℚ

/-- `NewIPRateLimiter`. -/
def newIPRateLimiter (rate capacity : ℚ) : IPRateLimiter := ⟨fun _ => none, rate, capacity⟩

/-- A call of `IPRateLimiter.Allow`. The clock is read twice if the address is new, for the bucket
that is made and for the refill, and once otherwise; `created` is not looked at then. -/
structure Call where
  ip : String
  created : ℚ
  now : ℚ
deriving DecidableEq

/-- What the call reads from the clock, in this order. -/
def Call.readings (call : Call) : List ℚ := [call.created, call.now]

namespace IPRateLimiter

/-- `IPRateLimiter.Allow`. -/
def allow (lim : IPRateLimiter) (call : Call) : Bool × IPRateLimiter :=
  let bucket := (lim.ips call.ip).getD (newTokenBucket lim.rate lim.capacity call.created)
  let (allowed, bucket) := bucket.allow call.now
  (allowed, { lim with ips := Function.update lim.ips call.ip (some bucket) })

/-- The limiter after a call. -/
def step (lim : IPRateLimiter) (call : Call) : IPRateLimiter := (lim.allow call).2

/-- The calls of a sequence with their answers. -/
def answers (lim : IPRateLimiter) (calls : List Call) : List (Call × Bool) :=
  Run.trace step (fun lim call => (lim.allow call).1) lim calls

end IPRateLimiter

end OfflinePay.Api
