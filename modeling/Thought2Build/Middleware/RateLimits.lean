import Thought2Build.Library.Budgets
import Thought2Build.Library.SlidingWindows
import Thought2Build.Middleware.RateLimitCore

/-!
Both limiters against one log of the allowed checks of each key: Redis decides by it as long as no two checks of a key
read the same nanosecond, the table of a process as long as it evicts nothing.
-/

namespace Thought2Build.Middleware

open Budgets Dictionaries Histories SlidingWindows
open Function (update)

variable {σ τ : Type} {limits : String → RateLimit} {checks rest : List RateCheck} {check : RateCheck} {key : String}
  {now soon start : Rat}

section

attribute [local simp] LocalWindows.localSlidingWindowCheck RedisWindows.slidingWindowCheck record

end

theorem total_congr {step : σ → RateCheck → σ} {step' : τ → RateCheck → τ} {amount : σ → RateCheck → Nat}
    {amount' : τ → RateCheck → Nat} {first : σ} {first' : τ}
    (same : ∀ front check back, checks = front ++ check :: back →
      amount (play step first front) check = amount' (play step' first' front) check) :
    total step amount first checks = total step' amount' first' checks := by
  induction checks generalizing first first' with
  | nil => rfl
  | cons check rest ih =>
      have here := same [] check rest rfl
      have later : total step amount (step first check) rest = total step' amount' (step' first' check) rest :=
        ih fun front next back split => same (check :: front) next back (by rw [split]; rfl)
      rw [total, total, later]
      exact congrArg (· + _) here

theorem toString_nat_inj {first second : Nat} (same : toString first = toString second) : first = second := by
  have read := congrArg (fun text : String => Nat.ofDigitChars 10 text.toList 0) same
  simpa using read

def allowedWithin (limits : String → RateLimit) (allows : σ → RateCheck → Bool) (key : String) (last : Rat)
    (windows : σ) (check : RateCheck) : Nat :=
  if allows windows check = true ∧ check.key = key ∧
    last - (limits key).windowSeconds < check.now ∧ check.now ≤ last then 1 else 0

def DistinctReadings (checks : List RateCheck) : Prop :=
  checks.Pairwise fun first second => first.key = second.key → first.timeNs ≠ second.timeNs

abbrev RateLogs := String → List Rat

namespace RateLogs

def allows (limits : String → RateLimit) (logs : RateLogs) (check : RateCheck) : Bool :=
  admits (limits check.key).limit ((limits check.key).windowSeconds : Rat) (logs check.key) check.now

def step (limits : String → RateLimit) (logs : RateLogs) (check : RateCheck) : RateLogs :=
  update logs check.key
    (record (limits check.key).limit ((limits check.key).windowSeconds : Rat) (logs check.key) check.now)

def Sound (limits : String → RateLimit) (logs : RateLogs) (now : Rat) : Prop :=
  ∀ key, Bounded (limits key).limit ((limits key).windowSeconds : Rat) (logs key) now

variable {logs : RateLogs}

theorem Sound.later (sound : logs.Sound limits now) (ahead : now ≤ soon) : logs.Sound limits soon :=
  fun key => (sound key).later ahead

theorem Sound.step (sound : logs.Sound limits check.now) : (logs.step limits check).Sound limits check.now := by
  intro key
  unfold RateLogs.step
  by_cases same : key = check.key
  · subst same
    rw [Function.update_self]
    exact (sound check.key).record
  · rw [Function.update_of_ne same]
    exact sound key

theorem within_play (key : String) (last : Rat) :
    within ((limits key).windowSeconds : Rat) (play (RateLogs.step limits) logs checks key) last =
      within ((limits key).windowSeconds : Rat) (logs key) last +
        total (RateLogs.step limits) (allowedWithin limits (allows limits) key last) logs checks := by
  induction checks generalizing logs with
  | nil => rfl
  | cons check rest ih =>
      have one : within ((limits key).windowSeconds : Rat) (logs.step limits check key) last =
          within ((limits key).windowSeconds : Rat) (logs key) last +
            allowedWithin limits (allows limits) key last logs check := by
        unfold RateLogs.step allowedWithin
        by_cases same : check.key = key
        · subst same
          rw [Function.update_self]
          unfold record allows
          by_cases allowed : admits (limits check.key).limit ((limits check.key).windowSeconds : Rat) (logs check.key)
              check.now = true
          · simp [allowed, within, List.countP_cons]
          · simp [allowed]
        · rw [Function.update_of_ne (Ne.symm same)]
          simp [same]
      rw [play_cons, total, ih, one, Nat.add_assoc]

theorem Sound.play (sound : logs.Sound limits now) (order : InOrder RateCheck.now now checks) :
    ∃ last, (play (RateLogs.step limits) logs checks).Sound limits last := by
  induction checks generalizing logs now with
  | nil => exact ⟨now, sound⟩
  | cons check rest ih =>
      obtain ⟨next, later⟩ := inOrder_cons.mp order
      exact ih (sound.later next).step later

theorem total_le (order : InOrder RateCheck.now start checks) (key : String) (last : Rat) :
    total (RateLogs.step limits) (allowedWithin limits (allows limits) key last) (fun _ => []) checks ≤
      (limits key).limit := by
  have empty : RateLogs.Sound limits (fun _ => []) start := fun _ => bounded_nil
  obtain ⟨_, sound⟩ := empty.play order
  have bound := (sound key).window last
  rw [within_play] at bound
  exact (Nat.le_add_left ..).trans bound

end RateLogs

namespace RedisWindows

variable {windows : RedisWindows} {logs : RateLogs}

theorem step_other (other : key ≠ check.key) : windows.step limits check key = windows key := by
  unfold RedisWindows.step slidingWindowCheck
  dsimp only
  split <;> exact Function.update_of_ne other ..

structure Tracks (limits : String → RateLimit) (windows : RedisWindows) (logs : RateLogs) (now : Rat)
    (checks : List RateCheck) : Prop where
  keeps : ∀ key soon, now ≤ soon →
    Keeps ((windows.members key soon).map (·.2)) (logs key) (soon - (limits key).windowSeconds)
  fresh : ∀ key, ∀ entry ∈ (windows key).members, ∀ check ∈ checks, check.key = key → entry.1 ≠ toString check.timeNs

theorem members_sub {entry : String × Rat} (member : entry ∈ windows.members key now) :
    entry ∈ (windows key).members := by
  unfold members at member
  split at member
  · simp at member
  · exact member

def counted (limits : String → RateLimit) (windows : RedisWindows) (check : RateCheck) : List (String × Rat) :=
  (windows.members check.key check.now).filter (check.windowStart (limits check.key) < ·.2)

theorem allows_eq : windows.allows limits check =
    decide ((windows.counted limits check).length < (limits check.key).limit) := by
  unfold allows slidingWindowCheck counted
  dsimp only
  split
  · rename_i full
    exact (decide_eq_false (not_lt.mpr full)).symm
  · rename_i room
    exact (decide_eq_true (not_le.mp room)).symm

theorem Tracks.allows (tracks : Tracks limits windows logs check.now checks) :
    windows.allows limits check = logs.allows limits check := by
  rw [RateLogs.allows, (tracks.keeps check.key check.now (le_refl _)).admits, allows_eq, counted, RateCheck.windowStart,
    List.filter_map, List.length_map]
  rfl

theorem Tracks.counted_keeps (tracks : Tracks limits windows logs check.now checks) :
    Keeps ((windows.counted limits check).map (·.2)) (logs check.key)
      (check.now - (limits check.key).windowSeconds) := by
  have kept := (tracks.keeps check.key check.now (le_refl _)).filter
  rwa [List.filter_map] at kept

theorem counted_sub {entry : String × Rat} (member : entry ∈ windows.counted limits check) :
    entry ∈ (windows check.key).members :=
  members_sub (List.mem_of_mem_filter member)

theorem Tracks.step_cases (tracks : Tracks limits windows logs check.now (check :: rest)) :
    (windows.step limits check =
        update windows check.key { windows check.key with members := windows.counted limits check } ∧
        logs.step limits check = logs) ∨
      (windows.step limits check = update windows check.key
          { members := windows.counted limits check ++ [(toString check.timeNs, check.now)],
            expires := check.now + (limits check.key).windowSeconds } ∧
        logs.step limits check = update logs check.key (check.now :: logs check.key)) := by
  have decided := tracks.allows
  have new : ∀ entry ∈ windows.counted limits check, entry.1 ≠ toString check.timeNs := fun entry member =>
    tracks.fresh check.key entry (counted_sub member) check List.mem_cons_self rfl
  unfold RedisWindows.allows RateLogs.allows at decided
  unfold RedisWindows.step RateLogs.step record
  rw [← decided]
  unfold slidingWindowCheck
  dsimp only
  split
  · exact .inl ⟨rfl, by rw [if_neg Bool.false_ne_true, Function.update_eq_self]⟩
  · refine .inr ⟨?_, by rw [if_pos rfl]⟩
    rw [← put_fresh new]
    rfl

theorem Tracks.step (tracks : Tracks limits windows logs check.now (check :: rest))
    (sound : logs.Sound limits check.now)
    (distinct : ∀ later ∈ rest, check.key = later.key → check.timeNs ≠ later.timeNs) :
    Tracks limits (windows.step limits check) (logs.step limits check) check.now rest := by
  have kept := tracks.counted_keeps
  rcases tracks.step_cases with ⟨refused, same⟩ | ⟨allowed, grown⟩
  · rw [refused, same]
    constructor
    · intro key soon ahead
      have before := tracks.keeps key soon ahead
      by_cases here : key = check.key
      · subst here
        unfold members at before ⊢
        rw [Function.update_self]
        dsimp only
        split
        · rename_i expired
          rwa [if_pos expired] at before
        · exact kept.later (sub_le_sub_right ahead _)
      · unfold members at before ⊢
        rwa [Function.update_of_ne here]
    · intro key entry member later coming
      by_cases here : key = check.key
      · subst here
        rw [Function.update_self] at member
        exact tracks.fresh check.key entry (counted_sub member) later (List.mem_cons_of_mem _ coming)
      · rw [Function.update_of_ne here] at member
        exact tracks.fresh key entry member later (List.mem_cons_of_mem _ coming)
  · rw [allowed, grown]
    constructor
    · intro key soon ahead
      by_cases here : key = check.key
      · subst here
        unfold members
        rw [Function.update_self, Function.update_self]
        dsimp only
        split
        · -- The key has expired, and so has all of its log.
          rename_i expired
          have passed : check.now ≤ soon - (limits check.key).windowSeconds := le_sub_iff_add_le.mpr expired
          refine keeps_nil fun time member => ?_
          rcases List.mem_cons.mp member with rfl | old
          · exact passed
          · exact ((sound check.key).past time old).trans passed
        · rw [List.map_append]
          exact (kept.append_singleton check.now).later (sub_le_sub_right ahead _)
      · have before := tracks.keeps key soon ahead
        unfold members at before ⊢
        rwa [Function.update_of_ne here, Function.update_of_ne here]
    · intro key entry member later coming
      by_cases here : key = check.key
      · subst here
        rw [Function.update_self] at member
        rcases List.mem_append.mp member with old | added
        · exact tracks.fresh check.key entry (counted_sub old) later (List.mem_cons_of_mem _ coming)
        · obtain rfl := List.mem_singleton.mp added
          intro sameKey named
          exact distinct later coming sameKey.symm (toString_nat_inj named)
      · rw [Function.update_of_ne here] at member
        exact tracks.fresh key entry member later (List.mem_cons_of_mem _ coming)

theorem tracks_empty : Tracks limits empty (fun _ => []) now checks := by
  constructor
  · intro key soon _
    unfold members
    split <;> exact keeps_nil fun _ member => by simp at member
  · intro key entry member
    simp [empty] at member

theorem Tracks.later (tracks : Tracks limits windows logs now checks) (ahead : now ≤ soon) :
    Tracks limits windows logs soon checks :=
  ⟨fun key later reached => tracks.keeps key later (ahead.trans reached), tracks.fresh⟩

theorem Tracks.play_allows {front back : List RateCheck}
    (tracks : Tracks limits windows logs now (front ++ check :: back)) (sound : logs.Sound limits now)
    (order : InOrder RateCheck.now now (front ++ check :: back))
    (distinct : DistinctReadings (front ++ check :: back)) :
    (play (RedisWindows.step limits) windows front).allows limits check =
      (play (RateLogs.step limits) logs front).allows limits check := by
  induction front generalizing windows logs now with
  | nil => exact (tracks.later (inOrder_cons.mp order).1).allows
  | cons first rest ih =>
      obtain ⟨next, later⟩ := inOrder_cons.mp order
      obtain ⟨others, distinct⟩ := List.pairwise_cons.mp distinct
      exact ih ((tracks.later next).step (sound.later next) others) (sound.later next).step later distinct

def Past (windows : RedisWindows) (now : Rat) : Prop := ∀ key, ∀ entry ∈ (windows key).members, entry.2 ≤ now

theorem Past.later (past : windows.Past now) (ahead : now ≤ soon) : windows.Past soon :=
  fun key entry member => (past key entry member).trans ahead

theorem Past.step (past : windows.Past check.now) : (windows.step limits check).Past check.now := by
  intro key entry member
  by_cases here : key = check.key
  · subst here
    unfold RedisWindows.step slidingWindowCheck at member
    dsimp only at member
    split at member
    · dsimp only at member
      rw [Function.update_self] at member
      exact past check.key entry (counted_sub member)
    · dsimp only at member
      rw [Function.update_self] at member
      rcases mem_put member with rfl | old
      · exact le_refl _
      · exact past check.key entry (counted_sub old)
  · rw [step_other here] at member
    exact past key entry member

theorem Past.play {front back : List RateCheck} (past : windows.Past now)
    (order : InOrder RateCheck.now now (front ++ check :: back)) :
    (play (RedisWindows.step limits) windows front).Past check.now := by
  induction front generalizing windows now with
  | nil => exact past.later (inOrder_cons.mp order).1
  | cons first rest ih =>
      obtain ⟨next, later⟩ := inOrder_cons.mp order
      exact ih (past.later next).step later

theorem Past.allows (past : windows.Past now) (waited : now + (limits check.key).windowSeconds ≤ check.now) :
    windows.allows limits check = true := by
  have none : windows.counted limits check = [] := by
    refine List.filter_eq_nil_iff.mpr fun entry member => ?_
    have old := past check.key entry (members_sub member)
    have passed : entry.2 ≤ check.windowStart (limits check.key) := old.trans (le_sub_iff_add_le.mpr waited)
    simpa using passed
  rw [allows_eq, none]
  exact decide_eq_true (limits check.key).limit_pos

end RedisWindows

namespace LocalWindows

variable {windows : LocalWindows} {logs : RateLogs}

def Overflows (windows : LocalWindows) (check : RateCheck) : Prop :=
  localFallbackMaxKeys < (put check.key [] windows).length

instance (windows : LocalWindows) (check : RateCheck) : Decidable (windows.Overflows check) :=
  inferInstanceAs (Decidable (_ < _))

def Tracks (limits : String → RateLimit) (windows : LocalWindows) (logs : RateLogs) (now : Rat) : Prop :=
  ∀ key, Keeps (windows.timestamps key) (logs key) (now - (limits key).windowSeconds)

theorem timestamps_put (key other : String) (times : List Rat) :
    LocalWindows.timestamps (put key times windows) other =
      if other = key then times else windows.timestamps other := by
  unfold timestamps
  rw [lookup_put]
  split <;> rfl

theorem Tracks.later (tracks : Tracks limits windows logs now) (ahead : now ≤ soon) : Tracks limits windows logs soon :=
  fun key => (tracks key).later (sub_le_sub_right ahead _)

theorem Tracks.allows (tracks : Tracks limits windows logs check.now) :
    windows.allows limits check = logs.allows limits check := by
  rw [RateLogs.allows, (tracks check.key).admits, LocalWindows.allows, localSlidingWindowCheck, RateCheck.windowStart]
  split
  · rename_i full
    exact (decide_eq_false (not_lt.mpr full)).symm
  · rename_i room
    exact (decide_eq_true (not_le.mp room)).symm

theorem Tracks.step (tracks : Tracks limits windows logs check.now) (room : ¬windows.Overflows check) :
    Tracks limits (windows.step limits check) (logs.step limits check) check.now := by
  have decided := tracks.allows
  have kept := (tracks check.key).filter
  unfold LocalWindows.allows RateLogs.allows at decided
  intro key
  have before := tracks key
  unfold LocalWindows.step RateLogs.step record
  rw [← decided]
  unfold localSlidingWindowCheck
  dsimp only
  split
  · rw [timestamps_put, if_neg Bool.false_ne_true, Function.update_eq_self]
    split
    · rename_i here
      subst here
      exact kept
    · exact before
  · have fits : ¬localFallbackMaxKeys < (put check.key
        ((windows.timestamps check.key).filter (check.windowStart (limits check.key) < ·) ++ [check.now])
        windows).length := by
      rwa [length_put _ _ []]
    rw [evict, if_neg fits, timestamps_put, if_pos rfl]
    split
    · rename_i here
      subst here
      rw [Function.update_self]
      exact kept.append_singleton check.now
    · rename_i other
      rw [Function.update_of_ne other]
      exact before

theorem Tracks.play_allows {front back : List RateCheck} (tracks : Tracks limits windows logs now)
    (order : InOrder RateCheck.now now (front ++ check :: back))
    (room : Along (LocalWindows.step limits) (fun windows check => ¬windows.Overflows check) windows
      (front ++ check :: back)) :
    (play (LocalWindows.step limits) windows front).allows limits check =
      (play (RateLogs.step limits) logs front).allows limits check := by
  induction front generalizing windows logs now with
  | nil => exact (tracks.later (inOrder_cons.mp order).1).allows
  | cons first rest ih =>
      obtain ⟨next, later⟩ := inOrder_cons.mp order
      obtain ⟨fits, room⟩ := room
      exact ih ((tracks.later next).step fits) later room

theorem check_fresh (fresh : ∀ entry ∈ windows, entry.1 ≠ check.key) :
    windows.allows limits check = true ∧
      windows.step limits check = LocalWindows.evict (windows ++ [(check.key, [check.now])]) := by
  have none : windows.timestamps check.key = [] := by
    unfold timestamps
    rw [List.lookup_eq_none_iff.mpr fun entry member => by simpa using (fresh entry member).symm]
    rfl
  have room : ¬(limits check.key).limit ≤ 0 := not_le.mpr (limits check.key).limit_pos
  unfold LocalWindows.allows LocalWindows.step localSlidingWindowCheck
  rw [none, ← put_fresh fresh]
  exact ⟨congrArg Prod.fst (if_neg room), congrArg Prod.snd (if_neg room)⟩

def Past (windows : LocalWindows) (now : Rat) : Prop := ∀ entry ∈ windows, ∀ time ∈ entry.2, time ≤ now

theorem Past.later (past : windows.Past now) (ahead : now ≤ soon) : windows.Past soon :=
  fun entry member time kept => (past entry member time kept).trans ahead

theorem Past.timestamps (past : windows.Past now) : ∀ time ∈ windows.timestamps key, time ≤ now := by
  intro time member
  unfold LocalWindows.timestamps at member
  cases found : windows.lookup key with
  | none => simp [found] at member
  | some times =>
      rw [found] at member
      exact past (key, times) (mem_of_lookup found) time member

theorem Past.evict (past : windows.Past now) : windows.evict.Past now := by
  unfold LocalWindows.evict
  split
  · exact fun entry member => past entry (List.mem_of_mem_drop member)
  · exact past

theorem Past.put {times : List Rat} (past : windows.Past now) (kept : ∀ time ∈ times, time ≤ now) :
    LocalWindows.Past (put key times windows) now := by
  intro entry member
  rcases mem_put member with rfl | old
  · exact kept
  · exact past entry old

theorem Past.step (past : windows.Past check.now) : (windows.step limits check).Past check.now := by
  have kept : ∀ time ∈ (windows.timestamps check.key).filter (check.windowStart (limits check.key) < ·),
      time ≤ check.now := fun time member => past.timestamps time (List.mem_of_mem_filter member)
  unfold LocalWindows.step localSlidingWindowCheck
  dsimp only
  split
  · exact past.put kept
  · refine (past.put fun time member => ?_).evict
    rcases List.mem_append.mp member with old | new
    · exact kept time old
    · exact (List.mem_singleton.mp new).le

theorem Past.play {front back : List RateCheck} (past : windows.Past now)
    (order : InOrder RateCheck.now now (front ++ check :: back)) :
    (play (LocalWindows.step limits) windows front).Past check.now := by
  induction front generalizing windows now with
  | nil => exact past.later (inOrder_cons.mp order).1
  | cons first rest ih =>
      obtain ⟨next, later⟩ := inOrder_cons.mp order
      exact ih (past.later next).step later

theorem Past.allows (past : windows.Past now) (waited : now + (limits check.key).windowSeconds ≤ check.now) :
    windows.allows limits check = true := by
  have none : (windows.timestamps check.key).filter (check.windowStart (limits check.key) < ·) = [] := by
    refine List.filter_eq_nil_iff.mpr fun time member => ?_
    have passed : time ≤ check.windowStart (limits check.key) :=
      (past.timestamps time member).trans (le_sub_iff_add_le.mpr waited)
    simpa using passed
  have room : ¬(limits check.key).limit ≤
      ((windows.timestamps check.key).filter (check.windowStart (limits check.key) < ·)).length := by
    rw [none]
    exact not_le.mpr (limits check.key).limit_pos
  unfold LocalWindows.allows localSlidingWindowCheck
  exact congrArg Prod.fst (if_neg room)

end LocalWindows

structure RatesSound (limits : String → RateLimit) (checks : List RateCheck) : Prop where
  redis_window : DistinctReadings checks → ∀ key last,
    total (RedisWindows.step limits) (allowedWithin limits (RedisWindows.allows limits) key last) .empty checks ≤
      (limits key).limit
  local_window : Along (LocalWindows.step limits) (fun windows check => ¬windows.Overflows check) [] checks →
    ∀ key last,
      total (LocalWindows.step limits) (allowedWithin limits (LocalWindows.allows limits) key last) [] checks ≤
      (limits key).limit
  redis_retry : ∀ front check back later, checks = front ++ check :: back →
    (play (RedisWindows.step limits) .empty front).allows limits check = false →
    later.key = check.key → check.now + (limits check.key).retryAfterSeconds ≤ later.now →
    (play (RedisWindows.step limits) .empty (front ++ [check])).allows limits later = true
  local_retry : ∀ front check back later, checks = front ++ check :: back →
    LocalWindows.allows limits (play (LocalWindows.step limits) [] front) check = false →
    later.key = check.key → check.now + (limits check.key).retryAfterSeconds ≤ later.now →
    LocalWindows.allows limits (play (LocalWindows.step limits) [] (front ++ [check])) later = true
  same : DistinctReadings checks →
    Along (LocalWindows.step limits) (fun windows check => ¬windows.Overflows check) [] checks →
    ∀ front check back, checks = front ++ check :: back →
      (play (RedisWindows.step limits) .empty front).allows limits check =
        LocalWindows.allows limits (play (LocalWindows.step limits) [] front) check

def oneAMinute : RateLimit where
  limit := 1
  windowSeconds := 60
  limit_pos := Nat.one_pos
  window_pos := Nat.succ_pos 59

def twoAMinute : RateLimit where
  limit := 2
  windowSeconds := 60
  limit_pos := Nat.two_pos
  window_pos := Nat.succ_pos 59

def crowd (size : Nat) : List RateCheck :=
  (List.range size).map fun index => { key := String.ofList (List.replicate index 'a'), now := 0, timeNs := index }

theorem crowd_succ (size : Nat) : crowd (size + 1) =
    crowd size ++ [{ key := String.ofList (List.replicate size 'a'), now := 0, timeNs := size }] := by
  rw [crowd, List.range_succ, List.map_append]
  rfl

def crowdTable (size : Nat) : LocalWindows :=
  (List.range size).map fun index => (String.ofList (List.replicate index 'a'), [0])

theorem crowdTable_fresh (size : Nat) :
    ∀ entry ∈ crowdTable size, entry.1 ≠ String.ofList (List.replicate size 'a') := by
  rintro entry member same
  obtain ⟨index, small, rfl⟩ := List.mem_map.mp member
  have lengths := congrArg String.length same
  simp only [String.length_ofList, List.length_replicate] at lengths
  exact absurd lengths (List.mem_range.mp small).ne

theorem play_crowd {size : Nat} (fits : size ≤ localFallbackMaxKeys) :
    play (LocalWindows.step fun _ => oneAMinute) [] (crowd size) = crowdTable size := by
  induction size with
  | zero => rfl
  | succ size ih =>
      have grown : crowdTable size ++ [(String.ofList (List.replicate size 'a'), [0])] = crowdTable (size + 1) := by
        rw [crowdTable, crowdTable, List.range_succ, List.map_append]
        rfl
      have held : ¬localFallbackMaxKeys < (crowdTable (size + 1)).length := by
        rw [crowdTable, List.length_map, List.length_range]
        exact not_lt.mpr fits
      rw [crowd_succ, play_append, ih (Nat.le_of_succ_le fits), play_cons, play_nil,
        (LocalWindows.check_fresh (crowdTable_fresh size)).2, grown, LocalWindows.evict, if_neg held]

theorem play_crowd_full : play (LocalWindows.step fun _ => oneAMinute) [] (crowd (localFallbackMaxKeys + 1)) =
    (crowdTable (localFallbackMaxKeys + 1)).drop localFallbackEvictBatch := by
  have grown : crowdTable localFallbackMaxKeys ++ [(String.ofList (List.replicate localFallbackMaxKeys 'a'), [0])] =
      crowdTable (localFallbackMaxKeys + 1) := by
    rw [crowdTable, crowdTable, List.range_succ, List.map_append]
    rfl
  have full : localFallbackMaxKeys < (crowdTable (localFallbackMaxKeys + 1)).length := by
    rw [crowdTable, List.length_map, List.length_range]
    exact Nat.lt_succ_self _
  rw [crowd_succ, play_append, play_crowd (le_refl _), play_cons, play_nil,
    (LocalWindows.check_fresh (crowdTable_fresh _)).2, grown, LocalWindows.evict, if_pos full]

def secondVisit : RateCheck := { key := "", now := 1, timeNs := localFallbackMaxKeys + 1 }

theorem local_allows_secondVisit : LocalWindows.allows (fun _ => oneAMinute)
    (play (LocalWindows.step fun _ => oneAMinute) [] (crowd (localFallbackMaxKeys + 1))) secondVisit = true := by
  rw [play_crowd_full]
  refine (LocalWindows.check_fresh fun entry member same => ?_).1
  rw [crowdTable, ← List.map_drop, List.range_eq_range', List.drop_range'] at member
  obtain ⟨index, late, rfl⟩ := List.mem_map.mp member
  have positive : localFallbackEvictBatch ≤ index := by
    have begun := (List.mem_range'_1.mp late).1
    rwa [Nat.zero_add, Nat.mul_one] at begun
  have lengths := congrArg String.length same
  simp only [String.length_ofList, List.length_replicate] at lengths
  rw [lengths] at positive
  exact absurd positive (by decide)

theorem RedisWindows.play_other {windows : RedisWindows} (others : ∀ check ∈ checks, key ≠ check.key) :
    play (RedisWindows.step limits) windows checks key = windows key := by
  induction checks generalizing windows with
  | nil => rfl
  | cons check rest ih =>
      rw [play_cons, ih fun later member => others later (List.mem_cons_of_mem _ member)]
      exact step_other (others check List.mem_cons_self)

theorem redis_refuses_secondVisit (size : Nat) : RedisWindows.allows (fun _ => oneAMinute)
    (play (RedisWindows.step fun _ => oneAMinute) .empty (crowd (size + 1))) secondVisit = false := by
  have split : crowd (size + 1) = { key := "", now := 0, timeNs := 0 } ::
      (List.range size).map fun index =>
        { key := String.ofList (List.replicate (index + 1) 'a'), now := 0, timeNs := index + 1 } := by
    rw [crowd, List.range_succ_eq_map, List.map_cons, List.map_map]
    rfl
  have kept : play (RedisWindows.step fun _ => oneAMinute) .empty (crowd (size + 1)) "" =
      { members := [(toString 0, 0)], expires := 60 } := by
    rw [split, play_cons, RedisWindows.play_other]
    · decide +kernel
    · intro check member
      obtain ⟨index, _, rfl⟩ := List.mem_map.mp member
      intro same
      have lengths := congrArg String.length same
      simp at lengths
  have counted : RedisWindows.counted (fun _ => oneAMinute)
      (play (RedisWindows.step fun _ => oneAMinute) .empty (crowd (size + 1))) secondVisit = [(toString 0, 0)] := by
    unfold RedisWindows.counted RedisWindows.members
    rw [show secondVisit.key = "" from rfl, kept]
    decide +kernel
  rw [RedisWindows.allows_eq, counted]
  rfl

theorem crowd_order (size : Nat) : InOrder RateCheck.now 0 (crowd size ++ [secondVisit]) := by
  have times : (crowd size ++ [secondVisit]).map RateCheck.now = List.replicate size 0 ++ [1] := by
    have zeros : (crowd size).map RateCheck.now = List.replicate size 0 := by
      refine List.eq_replicate_iff.mpr ⟨by simp [crowd], fun time member => ?_⟩
      obtain ⟨check, visited, rfl⟩ := List.mem_map.mp member
      obtain ⟨index, _, rfl⟩ := List.mem_map.mp visited
      rfl
    rw [List.map_append, zeros]
    rfl
  unfold InOrder
  rw [times, ← List.cons_append, ← List.replicate_succ, List.pairwise_append]
  refine ⟨List.pairwise_replicate.mpr (.inr (le_refl _)), List.pairwise_singleton _ _, fun first early last late => ?_⟩
  rw [List.eq_of_mem_replicate early, List.mem_singleton.mp late]
  decide +kernel

theorem crowd_distinct {size : Nat} (last : secondVisit.timeNs = size) :
    DistinctReadings (crowd size ++ [secondVisit]) := by
  have readings : (crowd size ++ [secondVisit]).map RateCheck.timeNs = List.range (size + 1) := by
    rw [List.map_append, List.map_singleton, last, List.range_succ, crowd, List.map_map]
    exact congrArg (· ++ _) (List.map_id' _)
  have distinct : ((crowd size ++ [secondVisit]).map RateCheck.timeNs).Nodup := readings ▸ List.nodup_range
  refine (List.pairwise_map.mp distinct).imp ?_
  intro first second different _
  exact different

def repeatedReading : List RateCheck := List.replicate 3 { key := "k", now := 0, timeNs := 0 }

end Thought2Build.Middleware
