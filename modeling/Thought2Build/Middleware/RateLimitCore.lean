import Mathlib.Algebra.Order.Field.Rat
import Mathlib.Logic.Function.Basic
import Thought2Build.Library.Dictionaries

/-!
The sliding windows of the rate limiter in Redis and in the table of a process that does without it. Times are in
seconds after the epoch; a check reads the clock for its score and once more, in nanoseconds, for its member. Keys stand
without `ratelimit:` in front of them.
-/

namespace Thought2Build.Middleware

open Dictionaries
open Function (update)

structure RateLimit where
  limit : Nat
  windowSeconds : Nat
  limit_pos : 0 < limit
  window_pos : 0 < windowSeconds

def RateLimit.retryAfterSeconds (rate : RateLimit) : Nat := rate.windowSeconds

structure RateCheck where
  key : String
  now : Rat
  timeNs : Nat

def RateCheck.windowStart (check : RateCheck) (rate : RateLimit) : Rat := check.now - rate.windowSeconds

structure WindowSet where
  members : List (String × Rat)
  expires : Rat
  deriving DecidableEq

abbrev RedisWindows := String → WindowSet

def RedisWindows.empty : RedisWindows := fun _ => { members := [], expires := 0 }

def RedisWindows.members (windows : RedisWindows) (key : String) (now : Rat) : List (String × Rat) :=
  if (windows key).expires ≤ now then [] else (windows key).members

def RedisWindows.slidingWindowCheck (limits : String → RateLimit) (windows : RedisWindows) (check : RateCheck) :
    Bool × RedisWindows :=
  let rate := limits check.key
  let counted := (windows.members check.key check.now).filter (check.windowStart rate < ·.2)
  if rate.limit ≤ counted.length then (false, update windows check.key { windows check.key with members := counted })
  else
    (true, update windows check.key
      { members := put (toString check.timeNs) check.now counted, expires := check.now + rate.windowSeconds })

def RedisWindows.step (limits : String → RateLimit) (windows : RedisWindows) (check : RateCheck) : RedisWindows :=
  (windows.slidingWindowCheck limits check).2

def RedisWindows.allows (limits : String → RateLimit) (windows : RedisWindows) (check : RateCheck) : Bool :=
  (windows.slidingWindowCheck limits check).1

/-- `_local_fallback_windows`, in the order of their insertion -/
abbrev LocalWindows := List (String × List Rat)

def localFallbackMaxKeys : Nat := 10000

def localFallbackEvictBatch : Nat := 2000

def LocalWindows.timestamps (windows : LocalWindows) (key : String) : List Rat := (windows.lookup key).getD []

def LocalWindows.evict (windows : LocalWindows) : LocalWindows :=
  if localFallbackMaxKeys < windows.length then windows.drop localFallbackEvictBatch else windows

def LocalWindows.localSlidingWindowCheck (limits : String → RateLimit) (windows : LocalWindows) (check : RateCheck) :
    Bool × LocalWindows :=
  let rate := limits check.key
  let timestamps := (windows.timestamps check.key).filter (check.windowStart rate < ·)
  if rate.limit ≤ timestamps.length then (false, put check.key timestamps windows)
  else (true, LocalWindows.evict (put check.key (timestamps ++ [check.now]) windows))

def LocalWindows.step (limits : String → RateLimit) (windows : LocalWindows) (check : RateCheck) : LocalWindows :=
  (windows.localSlidingWindowCheck limits check).2

def LocalWindows.allows (limits : String → RateLimit) (windows : LocalWindows) (check : RateCheck) : Bool :=
  (windows.localSlidingWindowCheck limits check).1

end Thought2Build.Middleware
