import Mathlib.Tactic.FieldSimp
import Mathlib.Tactic.NormNum
import Mathlib.Tactic.Ring
import Thought2Build.Integrations.GovernorCore

/-! The two buckets bound the requests in every stretch of time, and their waits are long enough. -/

namespace Thought2Build.Integrations

open Budgets Histories
open Function (update)

variable {limit : BucketLimit} {stored : Option TokenBucket} {now soon : Rat} {kind : BucketKind}

namespace BucketLimit

def level (limit : BucketLimit) (stored : Option TokenBucket) (now : Rat) : Rat :=
  match stored with
  | none => limit.capacity
  | some bucket => min (limit.capacity : Rat) (bucket.tokens + (now - bucket.ts) * limit.refillPerSec)

structure Left (limit : BucketLimit) (now : Rat) (bucket : TokenBucket) : Prop where
  past : bucket.ts ≤ now
  nonneg : 0 ≤ bucket.tokens
  full : bucket.tokens ≤ limit.capacity
  expires : bucket.expires = bucket.ts + limit.ttl

structure Sound (limit : BucketLimit) : Prop where
  room : 1 ≤ (limit.capacity : Rat)
  brisk : 1 ≤ limit.refillPerSec
  refilled : (limit.capacity : Rat) ≤ limit.ttl * limit.refillPerSec

theorem Left.later {bucket : TokenBucket} (left : limit.Left now bucket) (ahead : now ≤ soon) :
    limit.Left soon bucket :=
  ⟨left.past.trans ahead, left.nonneg, left.full, left.expires⟩

theorem level_le (stored : Option TokenBucket) (now : Rat) : limit.level stored now ≤ limit.capacity := by
  cases stored with
  | none => exact le_refl _
  | some bucket => exact min_le_left _ _

theorem level_left {tokens : Rat} (full : tokens ≤ limit.capacity) :
    limit.level (some { tokens, ts := now, expires := now + limit.ttl }) now = tokens := by
  rw [level, sub_self, zero_mul, add_zero, min_eq_right full]

variable (sound : limit.Sound)
include sound

theorem Sound.rate_pos : 0 < limit.refillPerSec := lt_of_lt_of_le one_pos sound.brisk

theorem level_nonneg (left : ∀ bucket ∈ stored, limit.Left now bucket) : 0 ≤ limit.level stored now := by
  cases stored with
  | none => exact Nat.cast_nonneg _
  | some bucket =>
      have here := left bucket rfl
      have refill := mul_nonneg (sub_nonneg.mpr here.past) sound.rate_pos.le
      exact le_min (Nat.cast_nonneg _) (add_nonneg here.nonneg refill)

theorem level_later (left : ∀ bucket ∈ stored, limit.Left now bucket) (ahead : now ≤ soon) :
    limit.level stored soon =
      min (limit.capacity : Rat) (limit.level stored now + (soon - now) * limit.refillPerSec) := by
  have refill := mul_nonneg (sub_nonneg.mpr ahead) sound.rate_pos.le
  cases stored with
  | none =>
      rw [level, level]
      exact (min_eq_left (by linarith)).symm
  | some bucket =>
      have sum : bucket.tokens + (soon - bucket.ts) * limit.refillPerSec =
          bucket.tokens + (now - bucket.ts) * limit.refillPerSec + (soon - now) * limit.refillPerSec := by ring
      rw [level, level, sum]
      rcases le_total (limit.capacity : Rat) (bucket.tokens + (now - bucket.ts) * limit.refillPerSec) with above | below
      · rw [min_eq_left above, min_eq_left (by linarith), min_eq_left (by linarith)]
      · rw [min_eq_right below]

theorem level_rises (left : ∀ bucket ∈ stored, limit.Left now bucket) (ahead : now ≤ soon) :
    limit.level stored soon ≤ limit.level stored now + (soon - now) * limit.refillPerSec := by
  rw [level_later sound left ahead]
  exact min_le_right _ _

theorem tokenBucket_eq (left : ∀ bucket ∈ stored, limit.Left now bucket) (requested : Rat) :
    tokenBucket limit now requested stored =
      if requested ≤ limit.level stored now then
        ({ tokens := limit.level stored now - requested, ts := now, expires := now + limit.ttl }, none)
      else
        ({ tokens := limit.level stored now, ts := now, expires := now + limit.ttl },
          some ((requested - limit.level stored now) / limit.refillPerSec)) := by
  have fresh : ∀ rate : Rat, min (limit.capacity : Rat)
      ((limit.capacity : Rat) + (if now - now < 0 then 0 else now - now) * rate) = limit.capacity := by
    intro rate
    simp
  cases stored with
  | none =>
      simp only [tokenBucket, Option.filter_none, Option.getD_none, fresh, level]
      rfl
  | some bucket =>
      have here := left bucket rfl
      have elapsed : (if now - bucket.ts < 0 then 0 else now - bucket.ts) = now - bucket.ts :=
        if_neg (not_lt.mpr (sub_nonneg.mpr here.past))
      by_cases live : now < bucket.expires
      · have kept : (some bucket).filter (fun bucket => decide (now < bucket.expires)) = some bucket := by simp [live]
        simp only [tokenBucket, kept, Option.getD_some, elapsed, level]
        rfl
      · have gone : (some bucket).filter (fun bucket => decide (now < bucket.expires)) = none := by
          simpa using not_lt.mp live
        have long : limit.ttl ≤ now - bucket.ts := by
          rw [here.expires, not_lt] at live
          linarith
        have refill := mul_le_mul_of_nonneg_right long sound.rate_pos.le
        have full : limit.level (some bucket) now = limit.capacity := by
          have refilled := sound.refilled
          have nonneg := here.nonneg
          exact min_eq_left (by linarith)
        rw [full]
        simp only [tokenBucket, gone, Option.getD_none, fresh]

theorem granted_iff (left : ∀ bucket ∈ stored, limit.Left now bucket) :
    (tokenBucket limit now 1 stored).2 = none ↔ 1 ≤ limit.level stored now := by
  rw [tokenBucket_eq sound left]
  split <;> simp_all

theorem left_tokenBucket (left : ∀ bucket ∈ stored, limit.Left now bucket) :
    limit.Left now (tokenBucket limit now 1 stored).1 := by
  have nonneg := level_nonneg sound left
  have full := limit.level_le stored now
  rw [tokenBucket_eq sound left]
  split
  · rename_i enough
    exact ⟨le_refl _, sub_nonneg.mpr enough, by dsimp only; linarith, rfl⟩
  · exact ⟨le_refl _, nonneg, full, rfl⟩

theorem level_tokenBucket (left : ∀ bucket ∈ stored, limit.Left now bucket) :
    limit.level (some (tokenBucket limit now 1 stored).1) now +
      (if (tokenBucket limit now 1 stored).2.isNone then 1 else 0) = limit.level stored now := by
  have full := limit.level_le stored now
  rw [tokenBucket_eq sound left]
  split
  · rw [level_left (by linarith)]
    simp
  · rw [level_left full]
    simp

theorem level_denied (left : ∀ bucket ∈ stored, limit.Left now bucket)
    (denied : (tokenBucket limit now 1 stored).2.isNone = false) (ahead : now ≤ soon) :
    limit.level (some (tokenBucket limit now 1 stored).1) soon = limit.level stored soon := by
  have same := level_tokenBucket sound left
  rw [denied] at same
  have after : ∀ bucket ∈ some (tokenBucket limit now 1 stored).1, limit.Left now bucket := by
    intro bucket same
    rw [← Option.mem_some.mp same]
    exact left_tokenBucket sound left
  rw [level_later sound after ahead, level_later sound left ahead, ← same]
  simp

theorem level_waited (left : ∀ bucket ∈ stored, limit.Left now bucket) {wait : Rat}
    (denied : (tokenBucket limit now 1 stored).2 = some wait) (waited : now + wait ≤ soon) :
    now ≤ soon ∧ 1 ≤ limit.level stored soon := by
  rw [tokenBucket_eq sound left] at denied
  split at denied
  · contradiction
  · rename_i short
    obtain rfl := Option.some.inj denied
    have missing : 0 ≤ 1 - limit.level stored now := by linarith [not_le.mp short]
    have ahead : now ≤ soon := by
      have nonneg := div_nonneg missing sound.rate_pos.le
      linarith
    have refill : 1 - limit.level stored now ≤ (soon - now) * limit.refillPerSec := by
      have longer : (1 - limit.level stored now) / limit.refillPerSec ≤ soon - now := by linarith
      rwa [div_le_iff₀ sound.rate_pos] at longer
    refine ⟨ahead, ?_⟩
    rw [level_later sound left ahead]
    exact le_min sound.room (by linarith)

theorem level_second (left : ∀ bucket ∈ stored, limit.Left now bucket) (waited : now + 1 ≤ soon) :
    1 ≤ limit.level stored soon := by
  have ahead : now ≤ soon := by linarith
  have nonneg := level_nonneg sound left
  have brisk := sound.brisk
  have refill : 1 * limit.refillPerSec ≤ (soon - now) * limit.refillPerSec :=
    mul_le_mul_of_nonneg_right (by linarith) sound.rate_pos.le
  rw [level_later sound left ahead]
  exact le_min sound.room (by linarith)

end BucketLimit

theorem BucketKind.sound (kind : BucketKind) : kind.limit.Sound := by
  cases kind <;> constructor <;> norm_num [BucketKind.limit, BucketLimit.refillPerSec]

namespace Governor

variable {governor start : Governor} {event : GovernorEvent} {attempt : Nat} {front quiet events : List GovernorEvent}

theorem step_cases (governor : Governor) (event : GovernorEvent) :
    ((governor.step event).buckets = governor.buckets ∧ ∀ kind, governor.grants kind event = false) ∨
      ∃ attempt kind, event = .take attempt event.time ∧ governor.attempts[attempt]? = some (.taking kind) ∧
        governor.step event = governor.take attempt kind event.time := by
  cases event with
  | acquire write now => exact .inl ⟨rfl, fun _ => rfl⟩
  | take attempt now =>
      by_cases taking : ∃ kind, governor.attempts[attempt]? = some (.taking kind)
      · obtain ⟨kind, found⟩ := taking
        exact .inr ⟨attempt, kind, rfl, found, by simp only [step, found]; rfl⟩
      · refine .inl ⟨?_, fun kind => ?_⟩
        · rw [step]
          split
          · rename_i kind found
            exact absurd ⟨kind, found⟩ taking
          · rfl
        · have other : ¬governor.attempts[attempt]? = some (.taking kind) := fun found => taking ⟨kind, found⟩
          simp [grants, other]

theorem grants_taking {other : BucketKind} (found : governor.attempts[attempt]? = some (.taking other)) :
    governor.grants kind (.take attempt now) = (decide (other = kind) && (governor.answer kind now).2.isNone) := by
  simp [grants, found]

def Reached (governor : Governor) (now : Rat) : Prop :=
  ∀ kind : BucketKind, ∀ bucket ∈ governor.buckets kind, kind.limit.Left now bucket

def level (governor : Governor) (kind : BucketKind) (now : Rat) : Rat := kind.limit.level (governor.buckets kind) now

theorem take_buckets (attempt : Nat) (kind : BucketKind) (now : Rat) :
    (governor.take attempt kind now).buckets = update governor.buckets kind (some (governor.answer kind now).1) := by
  rw [take]

theorem level_take (attempt : Nat) (kind : BucketKind) (now soon : Rat) :
    (governor.take attempt kind now).level kind soon = kind.limit.level (some (governor.answer kind now).1) soon := by
  rw [level, take_buckets, Function.update_self]

theorem level_take_ne {other : BucketKind} (attempt : Nat) (now soon : Rat) (different : kind ≠ other) :
    (governor.take attempt other now).level kind soon = governor.level kind soon := by
  rw [level, take_buckets, Function.update_of_ne different, level]

theorem Reached.take (reached : governor.Reached now) (attempt : Nat) (kind : BucketKind) :
    (governor.take attempt kind now).Reached now := by
  have left : kind.limit.Left now (governor.answer kind now).1 := by
    rw [answer]
    exact BucketLimit.left_tokenBucket kind.sound (reached kind)
  intro other bucket member
  rw [take_buckets] at member
  by_cases same : other = kind
  · subst same
    rw [Function.update_self, Option.mem_some_iff] at member
    rw [← member]
    exact left
  · rw [Function.update_of_ne same] at member
    exact reached other bucket member

theorem Reached.step (reached : governor.Reached event.time) : (governor.step event).Reached event.time := by
  rcases governor.step_cases event with ⟨same, _⟩ | ⟨attempt, kind, _, _, same⟩
  · intro kind
    rw [same]
    exact reached kind
  · rw [same]
    exact reached.take attempt kind

theorem level_step (reached : governor.Reached event.time) (kept : governor.grants kind event = false)
    (ahead : event.time ≤ soon) : (governor.step event).level kind soon = governor.level kind soon := by
  rcases governor.step_cases event with ⟨same, _⟩ | ⟨attempt, other, call, found, same⟩
  · rw [level, level, same]
  · rw [same]
    by_cases own : kind = other
    · subst own
      rw [call, grants_taking found] at kept
      have denied : (governor.answer kind event.time).2.isNone = false := by simpa using kept
      rw [answer] at denied
      rw [level_take, level, answer]
      exact BucketLimit.level_denied kind.sound (reached kind) denied ahead
    · exact level_take_ne attempt event.time soon own

theorem level_granted (reached : governor.Reached event.time) (granted : governor.grants kind event = true) :
    (governor.step event).level kind event.time + 1 = governor.level kind event.time := by
  rcases governor.step_cases event with ⟨_, none⟩ | ⟨attempt, other, call, found, same⟩
  · rw [none kind] at granted
    contradiction
  · rw [call, grants_taking found] at granted
    obtain ⟨rfl, allowed⟩ : other = kind ∧ (governor.answer kind event.time).2.isNone = true := by
      simpa using granted
    have paid := BucketLimit.level_tokenBucket other.sound (reached other)
    rw [answer] at allowed
    rw [allowed, if_pos rfl] at paid
    rw [same, level_take, level, answer]
    exact paid

def budget (kind : BucketKind) : Budget step GovernorEvent.time (fun governor event => governor.grants kind event) where
  level governor now := governor.level kind now
  capacity := kind.limit.capacity
  rate := kind.limit.refillPerSec
  Reached := Reached
  reached_step _ _ reached := reached.step
  reached_later _ _ _ ahead reached kind bucket member := (reached kind bucket member).later ahead
  rate_nonneg := kind.sound.rate_pos.le
  nonneg _ _ reached := BucketLimit.level_nonneg kind.sound (reached kind)
  full governor now := kind.limit.level_le _ now
  rises _ _ _ reached ahead := BucketLimit.level_rises kind.sound (reached kind) ahead
  falls governor event reached := by
    by_cases granted : governor.grants kind event = true
    · rw [if_pos granted]
      exact (level_granted reached granted).le
    · rw [if_neg granted, add_zero]
      have kept : governor.grants kind event = false := by simpa using granted
      exact (level_step reached kept (le_refl _)).le

theorem level_quiet (reached : start.Reached now) (order : InOrder GovernorEvent.time now (quiet ++ [event]))
    (kept : Along step (fun governor event => governor.grants kind event = false) start quiet)
    (ahead : event.time ≤ soon) : (play step start quiet).level kind soon = start.level kind soon := by
  induction quiet generalizing now start with
  | nil => rfl
  | cons first rest ih =>
      obtain ⟨next, later⟩ := inOrder_cons.mp order
      have here : start.Reached first.time := (budget kind).reached_later start now _ next reached
      have sorted : first.time ≤ event.time := later.le (by simp)
      rw [play_cons, ih here.step later kept.2, level_step here kept.1 (sorted.trans ahead)]

def Past (governor : Governor) (attempt : Nat) (kind : BucketKind) : Prop :=
  ∃ stage, governor.attempts[attempt]? = some stage ∧ stage ≠ .taking kind ∧
    (kind = .primary → stage ≠ .taking .secondary)

theorem answered_ne (kind : BucketKind) (wait : Option Rat) :
    kind.answered wait ≠ .taking kind ∧ kind.answered wait ≠ .taking .secondary := by
  cases wait <;> cases kind <;> simp [BucketKind.answered]

theorem take_attempts (attempt : Nat) (kind : BucketKind) (now : Rat) :
    ∃ stage, (governor.take attempt kind now).attempts = governor.attempts.set attempt stage ∧
      stage ≠ .taking kind ∧ stage ≠ .taking .secondary :=
  ⟨kind.answered (governor.answer kind now).2, rfl, answered_ne kind _⟩

theorem past_take {attempt other : Nat} {taken : BucketKind} (past : governor.Past attempt kind)
    (found : governor.attempts[other]? = some (.taking taken)) : (governor.take other taken now).Past attempt kind := by
  obtain ⟨stage, same, ne, late⟩ := past
  obtain ⟨next, moved, _, secondary⟩ := governor.take_attempts other taken now
  by_cases own : attempt = other
  · subst own
    obtain rfl : .taking taken = stage := by rwa [found, Option.some_inj] at same
    have inside := (List.getElem?_eq_some_iff.mp found).1
    refine ⟨next, by rw [moved, List.getElem?_set_self inside], ?_, fun _ => secondary⟩
    cases kind <;> cases taken <;> simp_all
  · exact ⟨stage, by rw [moved, List.getElem?_set_ne (Ne.symm own), same], ne, late⟩

theorem past_step {attempt : Nat} (past : governor.Past attempt kind) : (governor.step event).Past attempt kind := by
  cases event with
  | acquire write now =>
      obtain ⟨stage, found, rest⟩ := past
      have inside := (List.getElem?_eq_some_iff.mp found).1
      exact ⟨stage, by rw [step, acquire, List.getElem?_append_left inside]; exact found, rest⟩
  | take other now =>
      rw [step]
      split
      · rename_i taken found
        exact past_take past found
      · exact past

theorem past_play {attempt : Nat} (past : start.Past attempt kind) : (play step start events).Past attempt kind := by
  induction events generalizing start with
  | nil => exact past
  | cons event rest ih => exact ih (past_step past)

theorem past_granted {attempt : Nat} (granted : governor.grants kind (.take attempt now) = true) :
    (governor.step (.take attempt now)).Past attempt kind := by
  obtain ⟨found, _⟩ : governor.attempts[attempt]? = some (.taking kind) ∧ (governor.answer kind now).2 = none := by
    simpa [grants] using granted
  have inside := (List.getElem?_eq_some_iff.mp found).1
  obtain ⟨next, moved, other, secondary⟩ := governor.take_attempts attempt kind now
  have taken : governor.step (.take attempt now) = governor.take attempt kind now := by simp only [step, found]
  rw [taken]
  exact ⟨next, by rw [moved, List.getElem?_set_self inside], other, fun _ => secondary⟩

def Alone (attempt : Nat) (governor : Governor) (event : GovernorEvent) : Prop :=
  ∀ kind, governor.grants kind event = true → ∃ now, event = .take attempt now

theorem kept_quiet {attempt : Nat} (alone : Along step (Alone attempt) start quiet)
    (found : (play step start quiet).attempts[attempt]? = some (.taking kind)) :
    Along step (fun governor event => governor.grants kind event = false) start quiet := by
  induction quiet generalizing start with
  | nil => trivial
  | cons event rest ih =>
      refine ⟨?_, ih alone.2 found⟩
      by_contra granted
      have granted : start.grants kind event = true := by simpa using granted
      obtain ⟨now, rfl⟩ := alone.1 kind granted
      obtain ⟨stage, same, ne, _⟩ := past_play (past_granted granted)
      rw [play_cons, same, Option.some_inj] at found
      exact ne found

theorem kept_denied {wait : Rat} {blocked : BucketKind} {denied : Nat}
    (found : governor.attempts[denied]? = some (.taking blocked))
    (denies : (governor.answer blocked now).2 = some wait) : governor.grants kind (.take denied now) = false := by
  rw [grants_taking found]
  by_cases own : blocked = kind
  · subst own
    simp [denies]
  · simp [own]

theorem grants_of_level {attempt : Nat} (reached : governor.Reached now)
    (found : governor.attempts[attempt]? = some (.taking kind)) (enough : 1 ≤ governor.level kind now) :
    governor.grants kind (.take attempt now) = true := by
  have allowed : (governor.answer kind now).2 = none := by
    rw [answer]
    exact (BucketLimit.granted_iff kind.sound (reached kind)).mpr enough
  simp [grants, found, allowed]

structure RateBounded (events : List GovernorEvent) : Prop where
  window : ∀ kind first width, 0 ≤ width →
    total step (grantWithin GovernorEvent.time (fun governor event => governor.grants kind event) first (first + width))
      {} events ≤ (kind.limit.capacity : Rat) + width * kind.limit.refillPerSec
  tokens : ∀ kind, ∀ bucket ∈ (play step {} events).buckets kind,
    0 ≤ bucket.tokens ∧ bucket.tokens ≤ kind.limit.capacity
  waits : ∀ front denied blocked now error wait quiet attempt kind later,
    events = front ++ .take denied now :: (quiet ++ [.take attempt later]) →
    (play step {} front).attempts[denied]? = some (.taking blocked) →
    ((play step {} front).answer blocked now).2 = some wait →
    (play step {} (front ++ [.take denied now])).attempts[denied]? = some (.throttled error) →
    Along step (Alone attempt) (play step {} (front ++ [.take denied now])) quiet →
    (play step {} (front ++ .take denied now :: quiet)).attempts[attempt]? = some (.taking kind) →
    now + error.retryAfter ≤ later ∨ kind = blocked ∧ now + wait ≤ later →
    (play step {} (front ++ .take denied now :: quiet)).grants kind (.take attempt later) = true

theorem reached_empty (now : Rat) : Reached {} now := by
  intro kind bucket member
  exact absurd member (Option.not_mem_none _)

theorem attempts_denied {wait : Rat} {denied : Nat} (inside : denied < governor.attempts.length)
    (denies : (governor.answer kind now).2 = some wait) : (governor.take denied kind now).attempts[denied]? =
      some (.throttled { retryAfter := max 1 wait, reason := kind.limit.reason }) := by
  rw [take, List.getElem?_set_self inside, denies, BucketKind.answered]

theorem throttled_wait {wait : Rat} {error : GitHubThrottledError} {denied : Nat}
    (found : governor.attempts[denied]? = some (.taking kind)) (denies : (governor.answer kind now).2 = some wait)
    (thrown : (governor.step (.take denied now)).attempts[denied]? = some (.throttled error)) :
    error.retryAfter = max 1 wait := by
  have inside := (List.getElem?_eq_some_iff.mp found).1
  have taken : governor.step (.take denied now) = governor.take denied kind now := by simp only [step, found]
  rw [taken, attempts_denied inside denies, Option.some_inj, Attempt.throttled.injEq] at thrown
  rw [← thrown]

theorem level_enough {blocked : BucketKind} {wait : Rat} {error : GitHubThrottledError} {denied : Nat}
    (reached : governor.Reached now) (found : governor.attempts[denied]? = some (.taking blocked))
    (denies : (governor.answer blocked now).2 = some wait)
    (thrown : (governor.step (.take denied now)).attempts[denied]? = some (.throttled error))
    (waited : now + error.retryAfter ≤ soon ∨ kind = blocked ∧ now + wait ≤ soon) :
    1 ≤ governor.level kind soon := by
  have after := throttled_wait found denies thrown
  have short := denies
  rw [answer] at short
  by_cases own : kind = blocked
  · subst own
    have waited : now + wait ≤ soon := by
      rcases waited with waited | ⟨_, waited⟩
      · have longer := le_max_right 1 wait
        rw [after] at waited
        linarith
      · exact waited
    exact (BucketLimit.level_waited kind.sound (reached kind) short waited).2
  · rcases waited with waited | ⟨same, _⟩
    · have longer := le_max_left 1 wait
      rw [after] at waited
      exact BucketLimit.level_second kind.sound (reached kind) (by linarith)
    · contradiction

end Governor

/-- Whatever the workers do and in whatever order, the two buckets bound their requests to GitHub. -/
theorem governor_rateBounded {now : Rat} {events : List GovernorEvent}
    (order : InOrder GovernorEvent.time now events) : Governor.RateBounded events where
  window kind first width wide := by
    have stretch : first ≤ first + width := le_add_of_nonneg_right wide
    have bound := (Governor.budget kind).total_le (Governor.reached_empty now) stretch order
    rwa [add_sub_cancel_left] at bound
  tokens kind bucket member := by
    obtain ⟨last, reached⟩ := (Governor.budget kind).reached_end (Governor.reached_empty now) order
    have left := reached kind bucket member
    exact ⟨left.nonneg, left.full⟩
  waits front denied blocked first error wait quiet attempt kind later split found denies thrown alone taking := by
    intro waited
    subst split
    have reached := (Governor.budget kind).reached_play (Governor.reached_empty now) order
    rw [play_append, play_cons, play_nil] at thrown alone
    rw [play_append, play_cons] at taking ⊢
    have enough := Governor.level_enough reached found denies thrown waited
    have kept := Governor.kept_quiet alone taking
    have after := order.after
    have last : GovernorEvent.take attempt later ∈ quiet ++ [.take attempt later] := by simp
    have denied_kept : (play Governor.step {} front).grants kind (.take denied first) = false :=
      Governor.kept_denied found denies
    have step := Governor.level_step reached denied_kept (after.le last)
    have still := Governor.level_quiet reached.step after kept (le_refl _)
    have enough : 1 ≤ Governor.level _ kind (GovernorEvent.take attempt later).time :=
      enough.trans_eq (step.symm.trans still.symm)
    exact Governor.grants_of_level ((Governor.budget kind).reached_play reached.step after) taking enough

theorem governor_rateBounded_writes : Governor.RateBounded
    [.acquire true 0, .acquire true 0, .take 0 0, .take 1 0, .take 0 1, .take 1 1] :=
  have order : InOrder GovernorEvent.time 0
      [.acquire true 0, .acquire true 0, .take 0 0, .take 1 0, .take 0 1, .take 1 1] := by
    simp [InOrder, GovernorEvent.time]
  governor_rateBounded order

end Thought2Build.Integrations
