import Thought2Build.Library.Histories
import Thought2Build.Library.Leases
import Thought2Build.Integrations.GovernorCore

/-!
The lock of one repository's content writes. A step is one command to Redis or what a writer does on its own; the
commands of different writers come in any order. A writer's number stands for the token that it draws.
-/

namespace Thought2Build.Integrations

open Function (update)
open Leases

def repoLockTtl : Rat := 1800

def repoLockWait : Rat := 30

def repoLockPoll : Rat := 1 / 4

def deadlinePolls : Nat := max 1 (repoLockWait / repoLockPoll).floor.toNat

/-- A failed command may have been carried out all the same. -/
inductive RedisAnswer where
  | answered
  | failed (applied : Bool)

def RedisAnswer.applied : RedisAnswer → Bool
  | .answered => true
  | .failed applied => applied

/-- Where a use of `repo_write_lock` stands: `acquired` is the time of its `SET`. -/
inductive RepoWriter where
  | polling (polls : Nat)
  | writing (acquired : Option Rat)
  | left
  | throttled (error : GitHubThrottledError)
  deriving DecidableEq

structure RepoLock where
  key : Option (Lease Nat Rat) := none
  writers : Nat → Option RepoWriter := fun _ => none

/-- `serialized` unless there is no Redis or no `repo_id`; a writer that dies sends nothing more. -/
inductive RepoLockEvent where
  | enter (writer : Nat) (serialized : Bool) (now : Rat)
  | poll (writer : Nat) (answer : RedisAnswer) (now : Rat)
  | leave (writer : Nat) (answer : RedisAnswer) (now : Rat)
  | die (writer : Nat) (now : Rat)
  | evict (now : Rat)

def RepoLockEvent.time : RepoLockEvent → Rat
  | .enter _ _ now | .poll _ _ now | .leave _ _ now | .die _ now | .evict now => now

namespace RepoLock

variable (lock : RepoLock)

/-- `_acquire_repo_lock`, after one answer -/
def polled (polls : Nat) (answer : RedisAnswer) (now : Rat) : RepoWriter :=
  match answer with
  | .failed _ => .writing none
  | .answered =>
      if (current lock.key now).isNone then .writing (some now)
      else if polls + 1 < deadlinePolls then .polling (polls + 1)
      else .throttled { retryAfter := repoLockWait, reason := "repo_contended" }

def poll (writer polls : Nat) (answer : RedisAnswer) (now : Rat) : RepoLock where
  key := if answer.applied then acquire lock.key writer now (now + repoLockTtl) else lock.key
  writers := update lock.writers writer (some (lock.polled polls answer now))

/-- `_release_repo_lock`, which only a writer that acquired the lock calls -/
def leave (writer : Nat) (acquired : Option Rat) (answer : RedisAnswer) (now : Rat) : RepoLock where
  key := if acquired.isSome && answer.applied then release lock.key writer now else lock.key
  writers := update lock.writers writer (some .left)

def step (event : RepoLockEvent) : RepoLock :=
  match event with
  | .enter writer serialized _ =>
      match lock.writers writer with
      | none => { lock with
          writers := update lock.writers writer (some (if serialized then .polling 0 else .writing none)) }
      | some _ => lock
  | .poll writer answer now =>
      match lock.writers writer with
      | some (.polling polls) => lock.poll writer polls answer now
      | _ => lock
  | .leave writer answer now =>
      match lock.writers writer with
      | some (.writing acquired) => lock.leave writer acquired answer now
      | _ => lock
  | .die writer _ =>
      match lock.writers writer with
      | some (.polling _) | some (.writing _) =>
          { lock with writers := update lock.writers writer (some .left) }
      | _ => lock
  | .evict _ => { lock with key := none }

end RepoLock

end Thought2Build.Integrations
