import Mathlib.Algebra.Order.Field.Rat

/-!
The circuit breaker of a GitHub client and the requests that go through it. A step is what `_send` does up to its first
wait, or the end of a `_send`; the retry after a 401 is a `_send` of its own. Numbers are exact.
-/

namespace Thought2Build.Integrations

structure BreakerSettings where
  failureThreshold : Nat := 5
  windowSeconds : Rat := 60
  cooldownSeconds : Rat := 30

structure GitHubCircuitBreaker where
  failures : Nat := 0
  windowStart : Rat := 0
  openUntil : Option Rat := none
  halfOpen : Bool := false

namespace GitHubCircuitBreaker

variable (settings : BreakerSettings) (breaker : GitHubCircuitBreaker) (now : Rat)

def beforeRequest : Option GitHubCircuitBreaker :=
  match breaker.openUntil with
  | none => some breaker
  | some openUntil => if now < openUntil then none else some { breaker with openUntil := none, halfOpen := true }

def recordSuccess : GitHubCircuitBreaker where
  failures := 0
  windowStart := 0
  openUntil := none
  halfOpen := false

def restarts : Bool := breaker.windowStart = 0 || settings.windowSeconds < now - breaker.windowStart

def recordFailure : GitHubCircuitBreaker :=
  if breaker.halfOpen then
    { breaker with halfOpen := false, openUntil := some (now + settings.cooldownSeconds), failures := 0 }
  else
    let started := if breaker.restarts settings now then { breaker with windowStart := now, failures := 0 } else breaker
    let counted := { started with failures := started.failures + 1 }
    if settings.failureThreshold ≤ counted.failures then
      { counted with openUntil := some (now + settings.cooldownSeconds), failures := 0 }
    else counted

end GitHubCircuitBreaker

/-! Requests -/

inductive SendOutcome where
  | throttled
  /-- Nothing is sent because there is no token, or the task is cancelled. -/
  | raised
  | networkError
  /-- The status of the response, and whether the governor takes a 403 for a rate limit -/
  | answered (status : Nat) (rateLimited : Bool)

inductive Counted where
  | success | failure
  deriving DecidableEq

/-- What `_send` records; a governor takes rate limits for back pressure before the breaker sees them. -/
def SendOutcome.counted (governed : Bool) : SendOutcome → Option Counted
  | .throttled | .raised => none
  | .networkError => some .failure
  | .answered status rateLimited =>
      if status = 401 then some .success
      else if governed && (status = 429 || status = 403 && rateLimited) then none
      else if 500 ≤ status ∨ status = 429 then some .failure
      else some .success

structure BreakerClient where
  breaker : GitHubCircuitBreaker := {}
  inFlight : List Nat := []

inductive BreakerEvent where
  | sends (request : Nat) (now : Rat)
  | ends (request : Nat) (outcome : SendOutcome) (now : Rat)

def BreakerEvent.time : BreakerEvent → Rat
  | .sends _ now | .ends _ _ now => now

namespace BreakerClient

variable (settings : BreakerSettings) (governed : Bool) (client : BreakerClient)

def record (now : Rat) : Option Counted → GitHubCircuitBreaker
  | none => client.breaker
  | some .success => .recordSuccess
  | some .failure => client.breaker.recordFailure settings now

def step : BreakerEvent → BreakerClient
  | .sends request now =>
      match client.breaker.beforeRequest now with
      | none => client
      | some breaker => { breaker, inFlight := request :: client.inFlight }
  | .ends request outcome now =>
      if request ∈ client.inFlight then
        { breaker := client.record settings now (outcome.counted governed), inFlight := client.inFlight.erase request }
      else client

end BreakerClient

end Thought2Build.Integrations
