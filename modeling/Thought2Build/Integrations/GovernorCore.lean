import Mathlib.Algebra.Order.Field.Rat
import Mathlib.Logic.Function.Basic
import Thought2Build.Library.Budgets

/-!
The governor of the requests to GitHub: two token buckets in Redis, which all workers of an installation share. A step
is the start of an attempt or one call of the script; the two calls of a write may have calls of others between them.
The time is that of Redis, and numbers are exact. Left out are what GitHub answers (`observe`, `_drain`) and that a
request goes through while Redis fails.
-/

namespace Thought2Build.Integrations

open Function (update)

/-! The script -/

structure TokenBucket where
  tokens : Rat
  ts : Rat
  expires : Rat

structure BucketLimit where
  capacity : Nat
  window : Rat
  ttl : Rat
  reason : String

def BucketLimit.refillPerSec (limit : BucketLimit) : Rat := limit.capacity / limit.window

/-- `_TOKEN_BUCKET_LUA`: the hash that it leaves, and `retry_after` where it does not allow the request -/
def tokenBucket (limit : BucketLimit) (now requested : Rat) (stored : Option TokenBucket) : TokenBucket × Option Rat :=
  let bucket := (stored.filter (now < ·.expires)).getD { tokens := limit.capacity, ts := now, expires := now }
  let elapsed := if now - bucket.ts < 0 then 0 else now - bucket.ts
  let tokens := min (limit.capacity : Rat) (bucket.tokens + elapsed * limit.refillPerSec)
  if requested ≤ tokens then ({ tokens := tokens - requested, ts := now, expires := now + limit.ttl }, none)
  else ({ tokens, ts := now, expires := now + limit.ttl }, some ((requested - tokens) / limit.refillPerSec))

/-! Attempts -/

inductive BucketKind where
  | secondary | primary
  deriving DecidableEq

def BucketKind.limit : BucketKind → BucketLimit
  | .secondary => { capacity := 80, window := 60, ttl := 120, reason := "secondary_limit" }
  | .primary => { capacity := 5000, window := 3600, ttl := 7200, reason := "primary_limit" }

structure GitHubThrottledError where
  retryAfter : Rat
  reason : String
  deriving DecidableEq

inductive Attempt where
  | taking (kind : BucketKind)
  | acquired
  | throttled (error : GitHubThrottledError)
  deriving DecidableEq

def BucketKind.answered (kind : BucketKind) : Option Rat → Attempt
  | some wait => .throttled { retryAfter := max 1 wait, reason := kind.limit.reason }
  | none =>
      match kind with
      | .secondary => .taking .primary
      | .primary => .acquired

structure Governor where
  buckets : BucketKind → Option TokenBucket := fun _ => none
  attempts : List Attempt := []

inductive GovernorEvent where
  | acquire (write : Bool) (now : Rat)
  | take (attempt : Nat) (now : Rat)

def GovernorEvent.time : GovernorEvent → Rat
  | .acquire _ now | .take _ now => now

namespace Governor

variable (governor : Governor)

def acquire (write : Bool) : Governor :=
  { governor with attempts := governor.attempts ++ [.taking (if write then .secondary else .primary)] }

def answer (kind : BucketKind) (now : Rat) : TokenBucket × Option Rat :=
  tokenBucket kind.limit now 1 (governor.buckets kind)

def take (attempt : Nat) (kind : BucketKind) (now : Rat) : Governor :=
  let (bucket, retryAfter) := governor.answer kind now
  { buckets := update governor.buckets kind (some bucket)
    attempts := governor.attempts.set attempt (kind.answered retryAfter) }

def step (event : GovernorEvent) : Governor :=
  match event with
  | .acquire write _ => governor.acquire write
  | .take attempt now =>
      match governor.attempts[attempt]? with
      | some (.taking kind) => governor.take attempt kind now
      | _ => governor

def grants (kind : BucketKind) (event : GovernorEvent) : Bool :=
  match event with
  | .acquire _ _ => false
  | .take attempt now => governor.attempts[attempt]? = some (.taking kind) && (governor.answer kind now).2.isNone

end Governor

end Thought2Build.Integrations
