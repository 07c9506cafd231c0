import Mathlib.Algebra.Order.Field.Rat
import Mathlib.Logic.Function.Basic
import Thought2Build.Library.Budgets

/-!
The circuit of each LLM provider in one process. A step is one outcome of a call, one health probe, or one read of the
state; the functions of a step read the clock once. Left out are the meters.
-/

namespace Thought2Build.Llm

open Function (update)

def recentFailureWindowSeconds : Rat := 600

def unhealthyFailureThreshold : Nat := 3

def providerIds : List String := ["anthropic", "openai", "google", "openrouter"]

structure ProviderFailureState where
  count : Nat := 0
  lastFailureAt : Rat := 0
  lastError : String := ""

structure ProviderException where
  name : String
  /-- Whether it is a `ProviderRateLimitError` -/
  rateLimit : Bool
  deriving DecidableEq

inductive ProviderHealth where
  | healthy | degraded | unhealthy | notConfigured
  deriving DecidableEq

abbrev Failures := String → Option ProviderFailureState

namespace Failures

variable (failures : Failures) (provider : String) (now : Rat)

def circuitOpen : Bool × Failures :=
  match failures provider with
  | none => (false, failures)
  | some state =>
      if recentFailureWindowSeconds < now - state.lastFailureAt then (false, update failures provider none)
      else (unhealthyFailureThreshold ≤ state.count, failures)

def canRoute : Bool := !(failures.circuitOpen provider now).1

def providerHealth (configured : Bool) : (ProviderHealth × String) × Failures :=
  if !configured then ((.notConfigured, "API key is not configured."), failures)
  else
    match failures provider with
    | none => ((.healthy, "No provider issues detected."), failures)
    | some state =>
        if recentFailureWindowSeconds < now - state.lastFailureAt then
          ((.healthy, "No recent provider issues detected."), update failures provider none)
        else if unhealthyFailureThreshold ≤ state.count then
          ((.unhealthy, "Recent provider failures: " ++ state.lastError ++ "."), failures)
        else ((.degraded, "Recent provider warning: " ++ state.lastError ++ "."), failures)

def recordProviderSuccess : Failures := update failures provider none

def recordProviderFailure (error : ProviderException) : Failures :=
  if error.rateLimit then failures
  else
    let state := (failures provider).getD {}
    let recorded : Failures :=
      update failures provider (some { count := state.count + 1, lastFailureAt := now, lastError := error.name })
    ((recorded.providerHealth provider now true).2.circuitOpen provider now).2

def checkProviderHealth (configured : Bool) (error : Option ProviderException) : Failures :=
  if !providerIds.contains provider then failures
  else if !configured then (failures.providerHealth provider now false).2
  else
    match error with
    | some error => ((failures.recordProviderFailure provider now error).providerHealth provider now true).2
    | none => ((failures.recordProviderSuccess provider).providerHealth provider now true).2

end Failures

inductive CircuitEvent where
  | success (provider : String) (now : Rat)
  | failure (provider : String) (error : ProviderException) (now : Rat)
  | probe (provider : String) (configured : Bool) (error : Option ProviderException) (now : Rat)
  | canRoute (provider : String) (now : Rat)
  | snapshot (provider : String) (configured : Bool) (now : Rat)
  deriving DecidableEq

def CircuitEvent.time : CircuitEvent → Rat
  | .success _ now | .failure _ _ now | .probe _ _ _ now | .canRoute _ now | .snapshot _ _ now => now

def Failures.step (failures : Failures) : CircuitEvent → Failures
  | .success provider _ => failures.recordProviderSuccess provider
  | .failure provider error now => failures.recordProviderFailure provider now error
  | .probe provider configured error now => failures.checkProviderHealth provider now configured error
  | .canRoute provider now => (failures.circuitOpen provider now).2
  | .snapshot provider configured now => (failures.providerHealth provider now configured).2

end Thought2Build.Llm
