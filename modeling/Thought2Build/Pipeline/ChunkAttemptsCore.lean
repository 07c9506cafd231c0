import Mathlib.Algebra.Order.Field.Rat
import Mathlib.Data.Finset.Image
import Thought2Build.Library.Histories

/-!
The attempts at one chunk of a stage: calls of a provider, retries, one larger budget and fallback routes. A turn of
the loop is given what the clock, the control, the adapter, the provider and the resolver of routes answer in it. Left
out are the text, the deadlines of a call, metrics, logs and what the client is told.
-/

namespace Thought2Build.Pipeline

/-! Routes -/

abbrev RouteKey := String × String

structure LLMRoute where
  provider : String
  model : String
  modelTier : String
  operation : String

def LLMRoute.key (route : LLMRoute) : RouteKey := (route.provider, route.model)

/-- The tables of budgets; `none` where the source raises a `ValueError` -/
structure OutputBudgets where
  forOperation : String → String → Option Nat
  maxOutputTokens : RouteKey → Option Nat

def OutputBudgets.chunkOutputBudget (budgets : OutputBudgets) (route : LLMRoute) : Option Nat :=
  (budgets.forOperation route.operation route.provider).map fun budget =>
    if route.provider ≠ "" ∧ route.model ≠ "" then
      match budgets.maxOutputTokens route.key with
      | some ceiling => min budget ceiling
      | none => budget
    else budget

abbrev FallbackResolver := LLMRoute → Finset RouteKey → Bool → Option LLMRoute

/-- What `_runtime_fallback_route` asks; `none` for an `LLMRoutingError` -/
structure RuntimeRouting where
  escalationTier : String → Option String
  isProviderConfigured : String → Bool
  canRoute : String → Bool
  resolveRoute : LLMRoute → String → Option LLMRoute
  resolveByProvider : LLMRoute → Finset String → Option LLMRoute

def RuntimeRouting.fallbackRoute (routing : RuntimeRouting) : FallbackResolver :=
  fun failed attemptedRoutes allowSameProvider =>
    let attempted := insert failed.key attemptedRoutes
    let fresh := Option.filter fun route : LLMRoute => route.key ∉ attempted
    let sameProvider :=
      if allowSameProvider ∧ routing.isProviderConfigured failed.provider ∧ routing.canRoute failed.provider then
        match routing.escalationTier failed.provider with
        | none => none
        | some tier => if failed.modelTier ≠ tier then routing.resolveRoute failed tier else none
      else none
    (fresh sameProvider).or (fresh (routing.resolveByProvider failed (attempted.image Prod.fst)))

/-! Errors -/

inductive CallError where
  | provider (failoverAllowed timedOut : Bool) (statusCode : Option Nat)
  | timeout

def CallError.failoverAllowed : CallError → Bool
  | .provider allowed _ _ => allowed
  | .timeout => true

def CallError.sameProviderFallbackAllowed : CallError → Bool
  | .provider _ timedOut statusCode => !(timedOut || statusCode = some 401 || statusCode = some 402)
  | .timeout => false

inductive ChunkError where
  | stopped | deadlineExceeded | incomplete | rateLimited | call | other
  deriving DecidableEq

/-! The loop -/

structure AttemptSettings where
  stageRetryMinRemainingSeconds : Rat
  providerRateLimitMaxRetries : Int

def AttemptSettings.maximum (settings : AttemptSettings) : Nat := (max 0 settings.providerRateLimitMaxRetries).toNat

inductive ChunkAction where
  | call (route : RouteKey) (maxTokens retryCount repairCount : Nat)
  | enlarge (route : RouteKey) (outputBudget : Nat)
  | fallback (failed fallback : RouteKey)

inductive ChunkOutcome where
  | returned (route : LLMRoute) (retryCount : Nat)
  | raised (error : ChunkError)

structure ChunkAttempts where
  attemptRoute : LLMRoute
  attemptedRoutes : Finset RouteKey := ∅
  routeFailovers : Nat := 0
  rateLimitRetries : Nat := 0
  repairCount : Nat := 0
  outputBudget : Nat
  actions : List ChunkAction := []
  outcome : Option ChunkOutcome := none

inductive AttemptResult where
  /-- `adapter_factory` raises an `HTTPException`. -/
  | unavailable (statusCode : Nat)
  | stopped
  | returned
  | incomplete (providerLimitStop : Bool)
  /-- With the delay that `_rate_limit_retry_delay` draws, and whether the control stops the wait -/
  | rateLimited (error : CallError) (delay : Rat) (stopped : Bool)
  | failed (error : CallError)
  | raised

structure AttemptTurn where
  stopped : Bool
  /-- `provider_seconds_remaining` at the top -/
  remaining : Rat
  result : AttemptResult
  /-- `provider_seconds_remaining` and `remaining_seconds` after the attempt -/
  providerSecondsRemaining : Rat
  remainingSeconds : Rat
  resolver : FallbackResolver

namespace ChunkAttempts

variable (settings : AttemptSettings) (budgets : OutputBudgets) (state : ChunkAttempts)

def fail (error : ChunkError) : ChunkAttempts := { state with outcome := some (.raised error) }

def act (action : ChunkAction) : ChunkAttempts := { state with actions := state.actions ++ [action] }

/-- What `_move_to_fallback` changes; an operation without a budget stops the loop. -/
def moveTo (fallback : LLMRoute) : ChunkAttempts :=
  let moved := { state.act (.fallback state.attemptRoute.key fallback.key) with
    attemptRoute := fallback
    routeFailovers := state.routeFailovers + 1
    rateLimitRetries := 0
    repairCount := 0 }
  match budgets.chunkOutputBudget fallback with
  | some outputBudget => { moved with outputBudget }
  | none => moved.fail .other

def recover (turn : AttemptTurn) (error : CallError) (allowSameProvider : Bool) (raised : ChunkError) :
    ChunkAttempts :=
  if !error.failoverAllowed || turn.providerSecondsRemaining < settings.stageRetryMinRemainingSeconds then
    state.fail raised
  else
    match turn.resolver state.attemptRoute state.attemptedRoutes allowSameProvider with
    | none => state.fail raised
    | some fallback =>
        if fallback.key ∈ state.attemptedRoutes then state.fail raised else state.moveTo budgets fallback

def repair (turn : AttemptTurn) (providerLimitStop : Bool) : ChunkAttempts :=
  match budgets.maxOutputTokens state.attemptRoute.key with
  | none => state.fail .other
  | some ceiling =>
      let enlarged := min (state.outputBudget * 2) ceiling
      if providerLimitStop ∧ state.repairCount = 0 ∧ state.outputBudget < enlarged ∧
          settings.stageRetryMinRemainingSeconds ≤ turn.providerSecondsRemaining then
        { state.act (.enlarge state.attemptRoute.key enlarged) with repairCount := 1, outputBudget := enlarged }
      else state.fail .incomplete

def retry (turn : AttemptTurn) (error : CallError) (delay : Rat) (stopped : Bool) : ChunkAttempts :=
  if settings.maximum ≤ state.rateLimitRetries then state.recover settings budgets turn error false .rateLimited
  else if turn.remainingSeconds < max delay settings.stageRetryMinRemainingSeconds then state.fail .rateLimited
  else
    let retried := { state with rateLimitRetries := state.rateLimitRetries + 1 }
    if stopped then retried.fail .stopped else retried

def called : ChunkAttempts :=
  state.act (.call state.attemptRoute.key state.outputBudget (state.routeFailovers + state.rateLimitRetries)
    state.repairCount)

def attempt (turn : AttemptTurn) : ChunkAttempts :=
  match turn.result with
  | .unavailable statusCode =>
      let error := .provider true false (some statusCode)
      state.recover settings budgets turn error error.sameProviderFallbackAllowed .call
  | .stopped => state.fail .stopped
  | .returned =>
      { state.called with
        outcome := some (.returned state.attemptRoute (state.routeFailovers + state.rateLimitRetries)) }
  | .incomplete providerLimitStop => state.called.repair settings budgets turn providerLimitStop
  | .rateLimited error delay stopped => state.called.retry settings budgets turn error delay stopped
  | .failed error => state.called.recover settings budgets turn error error.sameProviderFallbackAllowed .call
  | .raised => state.called.fail .other

def step (turn : AttemptTurn) : ChunkAttempts :=
  if state.outcome.isSome then state
  else if turn.stopped then state.fail .stopped
  else if turn.remaining ≤ 0 then state.fail .deadlineExceeded
  else
    { state with attemptedRoutes := insert state.attemptRoute.key state.attemptedRoutes }.attempt settings budgets turn

def start (route : LLMRoute) : ChunkAttempts :=
  match budgets.chunkOutputBudget route with
  | some outputBudget => { attemptRoute := route, outputBudget }
  | none => { attemptRoute := route, outputBudget := 0, outcome := some (.raised .other) }

end ChunkAttempts

end Thought2Build.Pipeline
