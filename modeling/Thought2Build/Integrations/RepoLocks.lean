import Mathlib.Algebra.Order.Field.Rat
import Mathlib.Data.List.Induction
import Thought2Build.Integrations.RepoLocksCore

/-! When two writers of one repository are in at once, and what keeps a writer out. -/

namespace Thought2Build.Integrations.RepoLock

open Histories Leases
open Function (update)

variable {lock : RepoLock} {event : RepoLockEvent} {events front : List RepoLockEvent} {writer other : Nat} {now : Rat}
  {stage found : RepoWriter}

/-! One step -/

theorem update_cases (inside : update lock.writers other (some stage) writer = some found) :
    lock.writers writer = some found ∨ writer = other ∧ stage = found := by
  by_cases own : writer = other
  · subst own
    rw [Function.update_self] at inside
    exact .inr ⟨rfl, Option.some.inj inside⟩
  · rw [Function.update_of_ne own] at inside
    exact .inl inside

/-- How a writer goes in -/
inductive GoesIn (lock : RepoLock) (writer : Nat) : RepoLockEvent → Option Rat → Prop where
  | unserialized (now : Rat) : GoesIn lock writer (.enter writer false now) none
  | unanswered (applied : Bool) (now : Rat) : GoesIn lock writer (.poll writer (.failed applied) now) none
  | acquired {now : Rat} (free : current lock.key now = none)
      (taken : (lock.step (.poll writer .answered now)).key = some ⟨writer, now + repoLockTtl⟩) :
      GoesIn lock writer (.poll writer .answered now) (some now)

theorem writing_step {acquired : Option Rat} (inside : (lock.step event).writers writer = some (.writing acquired)) :
    lock.writers writer = some (.writing acquired) ∨ lock.GoesIn writer event acquired := by
  cases event with
  | enter other serialized now =>
      simp only [step] at inside
      split at inside
      · rcases update_cases inside with same | ⟨rfl, stage⟩
        · exact .inl same
        · cases serialized with
          | true => cases stage
          | false =>
              cases stage
              exact .inr (.unserialized now)
      · exact .inl inside
  | poll other answer now =>
      cases polling : lock.writers other with
      | none => exact .inl (by simpa only [step, polling] using inside)
      | some stage =>
          cases stage with
          | polling polls =>
              simp only [step, polling] at inside
              rcases update_cases inside with same | ⟨rfl, stage⟩
              · exact .inl same
              · cases answer with
                | failed applied =>
                    cases stage
                    exact .inr (.unanswered applied now)
                | answered =>
                    simp only [polled] at stage
                    split at stage
                    · rename_i free
                      cases stage
                      rw [Option.isNone_iff_eq_none] at free
                      have key : (lock.step (.poll writer .answered now)).key =
                          acquire lock.key writer now (now + repoLockTtl) := by simp only [step, polling]; rfl
                      exact .inr (.acquired free (key.trans (acquire_free free)))
                    · split at stage <;> cases stage
          | writing _ | left | throttled _ => exact .inl (by simpa only [step, polling] using inside)
  | leave other answer now | die other now =>
      simp only [step] at inside
      split at inside
      all_goals first
        | exact .inl inside
        | rcases update_cases inside with same | ⟨_, stage⟩
          · exact .inl same
          · cases stage
  | evict now => exact .inl inside

/-- The event is a `SET` of the writer that takes effect. -/
structure Sets (lock : RepoLock) (writer : Nat) (event : RepoLockEvent) : Prop where
  sent : ∃ answer, event = .poll writer answer event.time ∧ answer.applied = true
  polling : ∃ polls, lock.writers writer = some (.polling polls)
  free : current lock.key event.time = none

theorem key_step (lock : RepoLock) (event : RepoLockEvent) :
    (lock.step event).key = lock.key ∨
      (∃ writer, lock.Sets writer event ∧
        (lock.step event).key = some ⟨writer, event.time + repoLockTtl⟩) ∨
      (∃ lease, lock.key = some lease ∧ (lock.step event).writers lease.holder = some .left ∧
        (lock.step event).key = none) ∨
      event = .evict event.time ∧ (lock.step event).key = none := by
  cases event with
  | enter other serialized time =>
      simp only [step]
      split
      · exact .inl rfl
      · exact .inl rfl
  | poll other answer time =>
      simp only [step]
      split
      · rename_i polls polling
        cases applied : answer.applied with
        | false => exact .inl (by simp [poll, applied])
        | true =>
            rcases acquire_cases lock.key other time (time + repoLockTtl) with same | ⟨free, taken⟩
            · exact .inl (by simp [poll, applied, same])
            · have key : (lock.poll other polls answer time).key =
                  acquire lock.key other time (time + repoLockTtl) := by simp only [poll, applied, if_true]
              exact .inr (.inl ⟨other, ⟨⟨answer, rfl, applied⟩, ⟨polls, polling⟩, free⟩, key.trans taken⟩)
      · exact .inl rfl
  | leave other answer time =>
      simp only [step]
      split
      · rename_i acquired writing
        cases deletes : acquired.isSome && answer.applied with
        | false => exact .inl (by simp only [leave, deletes, Bool.false_eq_true, if_false])
        | true =>
            have key : (lock.leave other acquired answer time).key = release lock.key other time := by
              simp only [leave, deletes, if_true]
            rcases release_cases lock.key other time with same | gone
            · exact .inl (key.trans same)
            · cases held : lock.key with
              | none =>
                  rw [held] at gone key
                  exact .inl (key.trans gone)
              | some lease =>
                  by_cases own : lease.holder = other
                  · refine .inr (.inr (.inl ⟨lease, rfl, ?_, key.trans gone⟩))
                    rw [own]
                    exact Function.update_self _ _ _
                  · rw [release_other held own, held] at gone
                    cases gone
      · exact .inl rfl
  | die other time =>
      simp only [step]
      split
      · exact .inl rfl
      · exact .inl rfl
      · exact .inl rfl
  | evict time => exact .inr (.inr (.inr ⟨rfl, rfl⟩))

/-! Runs -/

def Ordered (events : List RepoLockEvent) : Prop := (events.map RepoLockEvent.time).Pairwise (· ≤ ·)

instance (events : List RepoLockEvent) : Decidable (Ordered events) := inferInstanceAs (Decidable (List.Pairwise _ _))

theorem Ordered.early (ordered : Ordered (front ++ [event])) :
    Ordered front ∧ ∀ earlier ∈ front, earlier.time ≤ event.time := by
  rw [Ordered, List.map_append, List.pairwise_append] at ordered
  refine ⟨ordered.1, ?_⟩
  intro earlier member
  exact ordered.2.2 _ (List.mem_map_of_mem member) _ (by simp)

/-- A writer that went in without asking for the lock, or when a command of its own failed -/
def Unserialized (events : List RepoLockEvent) (writer : Nat) : Prop :=
  (∃ now, .enter writer false now ∈ events) ∨ ∃ applied now, .poll writer (.failed applied) now ∈ events

def LostWithin (events : List RepoLockEvent) (since later : Rat) : Prop :=
  ∃ lost, .evict lost ∈ events ∧ since ≤ lost ∧ lost ≤ later

structure Guarded (events : List RepoLockEvent) (lock : RepoLock) : Prop where
  acquired : ∀ writer since, lock.writers writer = some (.writing (some since)) →
    .poll writer .answered since ∈ events
  unserialized : ∀ writer, lock.writers writer = some (.writing none) → Unserialized events writer
  kept : ∀ writer since, lock.writers writer = some (.writing (some since)) →
    lock.key = some ⟨writer, since + repoLockTtl⟩ ∨ (∃ event ∈ events, since + repoLockTtl ≤ event.time) ∨
      ∃ lost, .evict lost ∈ events ∧ since ≤ lost
  apart : ∀ first second since later, first ≠ second → lock.writers first = some (.writing (some since)) →
    lock.writers second = some (.writing (some later)) → since ≤ later →
    since + repoLockTtl ≤ later ∨ LostWithin events since later

theorem Guarded.freed {since : Rat} (guarded : Guarded front lock) (early : ∀ earlier ∈ front, earlier.time ≤ now)
    (inside : lock.writers writer = some (.writing (some since))) (free : current lock.key now = none) :
    since + repoLockTtl ≤ now ∨ LostWithin front since now := by
  rcases guarded.kept writer since inside with held | ⟨event, member, expired⟩ | ⟨lost, member, after⟩
  · exact .inl (expires_le free held)
  · exact .inl (expired.trans (early event member))
  · exact .inr ⟨lost, member, after, early _ member⟩

theorem LostWithin.append {since later : Rat} (lost : LostWithin front since later) :
    LostWithin (front ++ [event]) since later := by
  obtain ⟨time, member, within⟩ := lost
  exact ⟨time, List.mem_append_left _ member, within⟩

theorem Guarded.kept_step {since : Rat} (guarded : Guarded front lock)
    (early : ∀ earlier ∈ front, earlier.time ≤ event.time)
    (before : lock.writers writer = some (.writing (some since)))
    (inside : (lock.step event).writers writer = some (.writing (some since))) :
    (lock.step event).key = some ⟨writer, since + repoLockTtl⟩ ∨
      (∃ other ∈ front ++ [event], since + repoLockTtl ≤ other.time) ∨
      ∃ lost, .evict lost ∈ front ++ [event] ∧ since ≤ lost := by
  have newest : event ∈ front ++ [event] := List.mem_append_right _ (List.mem_singleton_self _)
  rcases guarded.kept writer since before with held | ⟨other, member, expired⟩ | ⟨lost, member, after⟩
  · rcases key_step lock event with same | ⟨setter, ⟨-, -, free⟩, -⟩ | ⟨lease, same, left, -⟩ | ⟨evicted, -⟩
    · exact .inl (same.trans held)
    · exact .inr (.inl ⟨event, newest, expires_le free held⟩)
    · obtain rfl := Option.some.inj (same.symm.trans held)
      rw [inside] at left
      cases left
    · refine .inr (.inr ⟨event.time, evicted ▸ newest, ?_⟩)
      exact early _ (guarded.acquired writer since before)
  · exact .inr (.inl ⟨other, List.mem_append_left _ member, expired⟩)
  · exact .inr (.inr ⟨lost, List.mem_append_left _ member, after⟩)

theorem Guarded.step (guarded : Guarded front lock) (early : ∀ earlier ∈ front, earlier.time ≤ event.time) :
    Guarded (front ++ [event]) (lock.step event) := by
  have newest : event ∈ front ++ [event] := List.mem_append_right _ (List.mem_singleton_self _)
  constructor
  · intro writer since inside
    rcases writing_step inside with before | goes
    · exact List.mem_append_left _ (guarded.acquired writer since before)
    · cases goes
      exact newest
  · intro writer inside
    rcases writing_step inside with before | goes
    · rcases guarded.unserialized writer before with ⟨now, member⟩ | ⟨applied, now, member⟩
      · exact .inl ⟨now, List.mem_append_left _ member⟩
      · exact .inr ⟨applied, now, List.mem_append_left _ member⟩
    · cases goes with
      | unserialized now => exact .inl ⟨now, newest⟩
      | unanswered applied now => exact .inr ⟨applied, now, newest⟩
  · intro writer since inside
    rcases writing_step inside with before | goes
    · exact guarded.kept_step early before inside
    · cases goes with
      | acquired free taken => exact .inl taken
  · intro first second since later different one two order
    rcases writing_step one with before | goes
    · rcases writing_step two with before' | goes
      · exact (guarded.apart first second since later different before before' order).imp_right .append
      · cases goes with
        | acquired free taken => exact (guarded.freed early before free).imp_right .append
    · rcases writing_step two with before | goes'
      · cases goes with
        | acquired free taken =>
            have within := early _ (guarded.acquired second later before)
            obtain rfl : since = later := le_antisymm order within
            rcases guarded.freed early before free with expired | lost
            · exact .inl expired
            · exact .inr lost.append
      · cases goes
        cases goes'
        exact absurd rfl different

theorem guarded_play (ordered : Ordered events) : Guarded events (play step {} events) := by
  induction events using List.reverseRecOn with
  | nil => constructor <;> intros <;> contradiction
  | append_singleton front event ih =>
      rw [play_append]
      exact (ih ordered.early.1).step ordered.early.2

/-- Two writers of one repository are in at once only if one of them went in without the lock, the earlier one had
stayed for longer than the lock lives, or Redis lost the key between them. -/
theorem repo_writers_overlap (events : List RepoLockEvent) (ordered : Ordered events) {first second : Nat}
    (different : first ≠ second) {one two : Option Rat}
    (firstIn : (play step {} events).writers first = some (.writing one))
    (secondIn : (play step {} events).writers second = some (.writing two)) :
    Unserialized events first ∨ Unserialized events second ∨ ∃ since later,
      (one = some since ∧ two = some later ∨ one = some later ∧ two = some since) ∧ since ≤ later ∧
        (since + repoLockTtl ≤ later ∨ LostWithin events since later) := by
  have guarded := guarded_play ordered
  cases one with
  | none => exact .inl (guarded.unserialized first firstIn)
  | some since =>
      cases two with
      | none => exact .inr (.inl (guarded.unserialized second secondIn))
      | some later =>
          refine .inr (.inr ?_)
          rcases le_total since later with order | order
          · have apart := guarded.apart first second since later different firstIn secondIn order
            exact ⟨since, later, .inl ⟨rfl, rfl⟩, order, apart⟩
          · have apart := guarded.apart second first later since different.symm secondIn firstIn order
            exact ⟨later, since, .inr ⟨rfl, rfl⟩, order, apart⟩

/-- The first writer is still in after half an hour, with a second one that had to wait until then. -/
def overstayed : List RepoLockEvent :=
  [.enter 0 true 0, .poll 0 .answered 0, .enter 1 true 1799, .poll 1 .answered 1799, .poll 1 .answered 1800]

theorem repo_writers_overlap_overstayed :
    Unserialized overstayed 0 ∨ Unserialized overstayed 1 ∨ ∃ since later,
      (some 0 = some since ∧ some 1800 = some later ∨ some 0 = some later ∧ some 1800 = some since) ∧ since ≤ later ∧
        (since + repoLockTtl ≤ later ∨ LostWithin overstayed since later) :=
  repo_writers_overlap overstayed (by decide +kernel) (by decide) (by decide +kernel) (by decide +kernel)

/-- The `SET` of a holder at a time took effect in a run. -/
def SetAt (events : List RepoLockEvent) (holder : Nat) (since : Rat) : Prop :=
  ∃ front event back, events = front ++ event :: back ∧ event.time = since ∧
    (play step {} front).Sets holder event

theorem set_of_key {lease : Lease Nat Rat} (held : (play step {} events).key = some lease) :
    ∃ since, SetAt events lease.holder since ∧ lease.expires = since + repoLockTtl := by
  induction events using List.reverseRecOn with
  | nil => cases held
  | append_singleton front event ih =>
      rw [play_append] at held
      rcases key_step (play step {} front) event with same | ⟨setter, sets, taken⟩ | ⟨-, -, -, gone⟩ | ⟨-, gone⟩
      · obtain ⟨since, ⟨early, set, back, rfl, at_⟩, expires⟩ := ih (same.symm.trans held)
        exact ⟨since, ⟨early, set, back ++ [event], by simp, at_⟩, expires⟩
      · obtain rfl := Option.some.inj (taken.symm.trans held)
        exact ⟨event.time, ⟨front, event, [], rfl, rfl, sets⟩, rfl⟩
      · cases gone.symm.trans held
      · cases gone.symm.trans held

/-- Only a `SET` of the last half hour keeps a writer out. -/
theorem repo_lock_denied (events : List RepoLockEvent) {writer polls : Nat} {now : Rat}
    (polling : (play step {} events).writers writer = some (.polling polls))
    (denied : (play step {} (events ++ [.poll writer .answered now])).writers writer ≠ some (.writing (some now))) :
    ∃ holder since, SetAt events holder since ∧ now < since + repoLockTtl ∧
      (play step {} events).key = some ⟨holder, since + repoLockTtl⟩ := by
  rw [play_append, play_cons, play_nil] at denied
  simp only [step, polling, poll, Function.update_self, polled] at denied
  cases held : current (play step {} events).key now with
  | none => simp [held] at denied
  | some lease =>
      obtain ⟨key, live⟩ := current_eq_some.mp held
      obtain ⟨since, set, expires⟩ := set_of_key key
      exact ⟨lease.holder, since, set, expires ▸ live, by rw [key, ← expires]⟩

theorem repo_lock_denied_overstayed : ∃ holder since, SetAt (overstayed.take 3) holder since ∧
    1799 < since + repoLockTtl ∧ (play step {} (overstayed.take 3)).key = some ⟨holder, since + repoLockTtl⟩ :=
  @repo_lock_denied (overstayed.take 3) 1 0 1799 (by decide +kernel) (by decide +kernel)

end Thought2Build.Integrations.RepoLock
