import Mathlib.Tactic.Linarith
import Thought2Build.Integrations.GitHubBreakerCore
import Thought2Build.Library.Budgets

/-! The breaker of a GitHub client against the circuit that it stands for: one that looks at every window. -/

namespace Thought2Build.Integrations

open Budgets Histories

/-- What a client has seen: the failures since the last success, newest first, the last one that opened the circuit,
and the request that tries it out. -/
structure Circuit where
  failures : List Rat := []
  opened : Option Rat := none
  trial : Option Nat := none

namespace Circuit

variable (settings : BreakerSettings) (circuit : Circuit) (request : Nat) (now : Rat)

def rejects : Bool :=
  match circuit.opened with
  | none => false
  | some opened => now < opened + settings.cooldownSeconds || circuit.trial.isSome

def fills : Bool :=
  (circuit.failures.take (settings.failureThreshold - 1)).length = settings.failureThreshold - 1 &&
    (circuit.failures.take (settings.failureThreshold - 1)).all (now - · ≤ settings.windowSeconds)

def sent : Circuit := if circuit.opened.isSome then { circuit with trial := some request } else circuit

def tries : Bool := circuit.trial = some request

def settle : Option Nat := if circuit.tries request then none else circuit.trial

def ended : Option Counted → Circuit
  | none => { circuit with trial := circuit.settle request }
  | some .success => {}
  | some .failure => {
      failures := now :: circuit.failures
      opened := if circuit.fills settings now || circuit.tries request then some now else circuit.opened
      trial := circuit.settle request }

end Circuit

structure Watched where
  client : BreakerClient := {}
  circuit : Circuit := {}

namespace Watched

variable (settings : BreakerSettings) (governed : Bool) (state : Watched)

def step (event : BreakerEvent) : Watched where
  client := state.client.step settings governed event
  circuit :=
    match event with
    | .sends request now =>
        if (state.client.breaker.beforeRequest now).isSome then state.circuit.sent request else state.circuit
    | .ends request outcome now =>
        if request ∈ state.client.inFlight then state.circuit.ended settings request now (outcome.counted governed)
        else state.circuit

/-- A failure that the breaker counts as it should: where its window starts anew, all failures before are older than a
window; while it rejects requests, the failure fills no window; and while it tries the circuit out, it is that of the
trial, or no trial is out and it fills a window. -/
def Fitting (request : Nat) (now : Rat) : Prop :=
  let breaker := state.client.breaker
  if breaker.halfOpen then
    state.circuit.tries request ∨ state.circuit.trial = none ∧ state.circuit.fills settings now = true
  else if breaker.openUntil.isSome then
    settings.failureThreshold ≤ 1 ∨ state.circuit.fills settings now = false
  else breaker.restarts settings now = true → ∀ failure ∈ state.circuit.failures, settings.windowSeconds < now - failure

instance (request : Nat) (now : Rat) : Decidable (state.Fitting settings request now) := by
  unfold Fitting; infer_instance

/-- No request is sent while a trial is out, and failures are fitting. -/
def Careful : BreakerEvent → Prop
  | .sends _ _ => state.client.breaker.halfOpen = true → state.circuit.trial = none
  | .ends request outcome now =>
      request ∈ state.client.inFlight → outcome.counted governed = some .failure → state.Fitting settings request now

instance (event : BreakerEvent) : Decidable (state.Careful settings governed event) := by
  cases event <;> unfold Careful <;> infer_instance

end Watched

variable {settings : BreakerSettings} {governed : Bool} {state : Watched} {breaker : GitHubCircuitBreaker}
  {circuit : Circuit} {now soon : Rat} {request : Nat} {event : BreakerEvent} {events : List BreakerEvent}

structure Counts (breaker : GitHubCircuitBreaker) (failures : List Rat) (now : Rat) : Prop where
  past : ∀ failure ∈ failures, failure ≤ now
  started : breaker.windowStart = 0 ∨ breaker.windowStart ≤ now
  few : breaker.failures ≤ failures.length
  fresh : ∀ failure ∈ failures.take breaker.failures, breaker.windowStart ≤ failure

namespace GitHubCircuitBreaker

def count (settings : BreakerSettings) (breaker : GitHubCircuitBreaker) (now : Rat) : GitHubCircuitBreaker :=
  if breaker.restarts settings now then { breaker with windowStart := now, failures := 1 }
  else { breaker with failures := breaker.failures + 1 }

theorem recordFailure_closed (closed : breaker.halfOpen = false) :
    breaker.recordFailure settings now =
      if settings.failureThreshold ≤ (breaker.count settings now).failures then
        { breaker.count settings now with openUntil := some (now + settings.cooldownSeconds), failures := 0 }
      else breaker.count settings now := by
  obtain ⟨failures, windowStart, openUntil, halfOpen⟩ := breaker
  obtain rfl : halfOpen = false := closed
  unfold recordFailure count
  rw [if_neg Bool.false_ne_true]
  split <;> rfl

theorem halfOpen_count : (breaker.count settings now).halfOpen = breaker.halfOpen := by
  unfold count
  split <;> rfl

theorem openUntil_count : (breaker.count settings now).openUntil = breaker.openUntil := by
  unfold count
  split <;> rfl

end GitHubCircuitBreaker

open GitHubCircuitBreaker

theorem Counts.later (counts : Counts breaker circuit.failures now) (ahead : now ≤ soon) :
    Counts breaker circuit.failures soon where
  past failure member := (counts.past failure member).trans ahead
  started := counts.started.imp_right fun early => early.trans ahead
  few := counts.few
  fresh := counts.fresh

theorem Counts.reset {failures : List Rat} (counts : Counts breaker failures now) {other : GitHubCircuitBreaker}
    (none : other.failures = 0) (same : other.windowStart = breaker.windowStart) :
    Counts other failures now := by
  refine ⟨counts.past, by rw [same]; exact counts.started, by omega, ?_⟩
  rw [none, List.take_zero]
  exact fun failure member => absurd member List.not_mem_nil

theorem Counts.count (counts : Counts breaker circuit.failures now) :
    Counts (breaker.count settings now) (now :: circuit.failures) now := by
  obtain ⟨past, started, few, fresh⟩ := counts
  have older : ∀ failure ∈ now :: circuit.failures, failure ≤ now :=
    List.forall_mem_cons.mpr ⟨le_refl now, past⟩
  unfold GitHubCircuitBreaker.count
  split
  · refine ⟨older, .inr (le_refl now), by simp, ?_⟩
    intro failure member
    rw [List.take_succ_cons, List.take_zero, List.mem_singleton] at member
    rw [member]
  · rename_i goesOn
    have early : breaker.windowStart ≤ now := by
      refine started.resolve_left fun unset => goesOn ?_
      simp [restarts, unset]
    refine ⟨older, .inr early, by simpa using few, ?_⟩
    rw [List.take_succ_cons]
    exact List.forall_mem_cons.mpr ⟨early, fresh⟩

theorem window_of_goesOn (goesOn : ¬breaker.restarts settings now = true) :
    now - breaker.windowStart ≤ settings.windowSeconds := by
  simp only [restarts, Bool.or_eq_true, decide_eq_true_eq, not_or, not_lt] at goesOn
  exact goesOn.2

theorem fills_iff : circuit.fills settings now = true ↔
    settings.failureThreshold - 1 ≤ circuit.failures.length ∧
      ∀ failure ∈ circuit.failures.take (settings.failureThreshold - 1), now - failure ≤ settings.windowSeconds := by
  simp only [Circuit.fills, List.length_take, Bool.and_eq_true, decide_eq_true_eq, List.all_eq_true]
  rw [min_eq_left_iff]

theorem fills_of_reached (counts : Counts breaker circuit.failures now)
    (reached : settings.failureThreshold ≤ (breaker.count settings now).failures) :
    circuit.fills settings now = true := by
  obtain ⟨past, started, few, fresh⟩ := counts
  rw [fills_iff]
  unfold GitHubCircuitBreaker.count at reached
  split at reached
  · have single : settings.failureThreshold - 1 = 0 := by
      dsimp only at reached
      omega
    rw [single]
    exact ⟨Nat.zero_le _, fun failure member => by simp at member⟩
  · rename_i goesOn
    have window := window_of_goesOn goesOn
    have enough : settings.failureThreshold - 1 ≤ breaker.failures := by
      dsimp only at reached
      omega
    refine ⟨enough.trans few, fun failure member => ?_⟩
    have recent := fresh failure ((List.take_sublist_take_left enough).subset member)
    linarith

theorem reached_of_fills (counts : Counts breaker circuit.failures now)
    (old : ∀ failure ∈ circuit.failures.drop breaker.failures, settings.windowSeconds < breaker.windowStart - failure)
    (fitting : breaker.restarts settings now = true →
      ∀ failure ∈ circuit.failures, settings.windowSeconds < now - failure)
    (fills : circuit.fills settings now = true) :
    settings.failureThreshold ≤ (breaker.count settings now).failures := by
  obtain ⟨enough, within⟩ := fills_iff.mp fills
  unfold GitHubCircuitBreaker.count
  split
  · rename_i anew
    by_contra many
    -- The failure before this one is too old to count with it.
    cases failures : circuit.failures with
    | nil =>
        rw [failures] at enough
        simp only [List.length_nil] at enough many
        omega
    | cons last rest =>
        have first : last ∈ circuit.failures.take (settings.failureThreshold - 1) := by
          have positive : settings.failureThreshold - 1 = settings.failureThreshold - 2 + 1 := by
            dsimp only at many
            omega
          rw [failures, positive, List.take_succ_cons]
          exact List.mem_cons_self
        have late := fitting anew last (by rw [failures]; exact List.mem_cons_self)
        exact absurd (within last first) (not_le.mpr late)
  · rename_i goesOn
    by_contra short
    dsimp only at short
    -- One of the failures that fill the window came before the window of the breaker.
    have inside : breaker.failures < circuit.failures.length := by omega
    have dropped : circuit.failures[breaker.failures] ∈ circuit.failures.drop breaker.failures :=
      List.mem_drop_iff_getElem.mpr ⟨0, by simpa using inside, by simp⟩
    have taken : circuit.failures[breaker.failures] ∈ circuit.failures.take (settings.failureThreshold - 1) :=
      List.mem_take_iff_getElem.mpr ⟨breaker.failures, by omega, rfl⟩
    have early : breaker.windowStart ≤ now := by
      refine counts.started.resolve_left fun unset => goesOn ?_
      simp [restarts, unset]
    have late := old _ dropped
    have recent := within _ taken
    linarith

inductive Mode (settings : BreakerSettings) (breaker : GitHubCircuitBreaker) (circuit : Circuit) (now : Rat) : Prop
  | closed (half : breaker.halfOpen = false) (unset : breaker.openUntil = none) (fresh : circuit.opened = none)
      (none : circuit.trial = none)
      (old : ∀ failure ∈ circuit.failures.drop breaker.failures, settings.windowSeconds < breaker.windowStart - failure)
  | shut {opened : Rat} (half : breaker.halfOpen = false)
      (set : breaker.openUntil = some (opened + settings.cooldownSeconds)) (found : circuit.opened = some opened)
      (none : circuit.trial = none)
  | trying {opened : Rat} (half : breaker.halfOpen = true) (unset : breaker.openUntil = none)
      (found : circuit.opened = some opened) (passed : opened + settings.cooldownSeconds ≤ now)

structure Tracks (settings : BreakerSettings) (state : Watched) (now : Rat) : Prop where
  counts : Counts state.client.breaker state.circuit.failures now
  mode : Mode settings state.client.breaker state.circuit now

theorem Tracks.later (tracks : Tracks settings state now) (ahead : now ≤ soon) : Tracks settings state soon := by
  refine ⟨tracks.counts.later ahead, ?_⟩
  cases tracks.mode with
  | closed half unset fresh none old => exact .closed half unset fresh none old
  | shut half set found none => exact .shut half set found none
  | trying half unset found passed => exact .trying half unset found (passed.trans ahead)

theorem Tracks.rejects (tracks : Tracks settings state now)
    (careful : state.Careful settings governed (.sends request now)) :
    state.client.breaker.beforeRequest now = none ↔ state.circuit.rejects settings now = true := by
  unfold beforeRequest Circuit.rejects
  cases tracks.mode with
  | closed half unset fresh none old => simp [unset, fresh]
  | shut half set found none => simp [set, found, none]
  | trying half unset found passed => simp [unset, found, careful half, not_lt.mpr passed]

theorem Tracks.sends (tracks : Tracks settings state now) :
    Tracks settings (state.step settings governed (.sends request now)) now := by
  obtain ⟨counts, mode⟩ := tracks
  simp only [Watched.step, BreakerClient.step]
  cases mode with
  | closed half unset fresh none old =>
      have goes : state.client.breaker.beforeRequest now = some state.client.breaker := by
        simp [beforeRequest, unset]
      simp only [goes, Option.isSome_some, if_true, Circuit.sent, fresh, Option.isSome_none, Bool.false_eq_true,
        if_false]
      exact ⟨counts, .closed half unset fresh none old⟩
  | @shut opened half set found none =>
      by_cases early : now < opened + settings.cooldownSeconds
      · have stays : state.client.breaker.beforeRequest now = Option.none := by
          simp [beforeRequest, set, early]
        simp only [stays, Option.isSome_none, Bool.false_eq_true, if_false]
        exact ⟨counts, .shut half set found none⟩
      · have goes : state.client.breaker.beforeRequest now =
            some { state.client.breaker with openUntil := Option.none, halfOpen := true } := by
          simp [beforeRequest, set, early]
        simp only [goes, Option.isSome_some, if_true, Circuit.sent, found]
        exact ⟨⟨counts.past, counts.started, counts.few, counts.fresh⟩, .trying rfl rfl rfl (not_lt.mp early)⟩
  | trying half unset found passed =>
      have goes : state.client.breaker.beforeRequest now = some state.client.breaker := by
        simp [beforeRequest, unset]
      simp only [goes, Option.isSome_some, if_true, Circuit.sent, found]
      exact ⟨⟨counts.past, counts.started, counts.few, counts.fresh⟩, .trying half unset rfl passed⟩

theorem Tracks.recordFailure (tracks : Tracks settings state now) (fitting : state.Fitting settings request now) :
    Tracks settings
      { client := { state.client with breaker := state.client.breaker.recordFailure settings now }
        circuit := state.circuit.ended settings request now (some .failure) } now := by
  obtain ⟨counts, mode⟩ := tracks
  have counted : Counts (state.client.breaker.count settings now) (now :: state.circuit.failures) now := counts.count
  unfold Watched.Fitting at fitting
  cases mode with
  | closed half unset fresh none old =>
      simp only [half, Bool.false_eq_true, if_false, unset, Option.isSome_none] at fitting
      have settled : state.circuit.settle request = Option.none := by
        simp [Circuit.settle, none]
      have tries : state.circuit.tries request = false := by
        simp [Circuit.tries, none]
      rw [recordFailure_closed half]
      simp only [Circuit.ended, settled, tries, Bool.or_false]
      split
      · rename_i reached
        rw [if_pos (fills_of_reached counts reached)]
        refine ⟨counted.reset rfl rfl, ?_⟩
        exact .shut (by rw [← half]; exact halfOpen_count) rfl rfl rfl
      · rename_i short
        have unfilled : ¬state.circuit.fills settings now = true :=
          fun fills => short (reached_of_fills counts old fitting fills)
        rw [if_neg unfilled]
        refine ⟨counted, .closed (halfOpen_count.trans half) (openUntil_count.trans unset) fresh rfl ?_⟩
        unfold GitHubCircuitBreaker.count
        split
        · rename_i anew
          exact fitting anew
        · exact old
  | shut half set found none =>
      simp only [half, Bool.false_eq_true, if_false, set, Option.isSome_some, if_true] at fitting
      have settled : state.circuit.settle request = Option.none := by
        simp [Circuit.settle, none]
      have tries : state.circuit.tries request = false := by
        simp [Circuit.tries, none]
      rw [recordFailure_closed half]
      simp only [Circuit.ended, settled, tries, Bool.or_false]
      split
      · rename_i reached
        rw [if_pos (fills_of_reached counts reached)]
        refine ⟨counted.reset rfl rfl, ?_⟩
        exact .shut (by rw [← half]; exact halfOpen_count) rfl rfl rfl
      · rename_i short
        have positive : 0 < (state.client.breaker.count settings now).failures := by
          unfold GitHubCircuitBreaker.count
          split
          · exact Nat.one_pos
          · exact Nat.succ_pos _
        have unfilled := fitting.resolve_left (by omega)
        rw [unfilled, if_neg Bool.false_ne_true]
        exact ⟨counted, .shut (halfOpen_count.trans half) (openUntil_count.trans set) found rfl⟩
  | trying half unset found passed =>
      simp only [half, if_true] at fitting
      have opens : (state.circuit.fills settings now || state.circuit.tries request) = true := by
        rcases fitting with tries | ⟨_, fills⟩
        · rw [tries, Bool.or_true]
        · rw [fills, Bool.true_or]
      have settled : state.circuit.settle request = none := by
        rcases fitting with tries | ⟨none, _⟩
        · rw [Circuit.settle, if_pos tries]
        · simp [Circuit.settle, none]
      have older : ∀ failure ∈ now :: state.circuit.failures, failure ≤ now :=
        List.forall_mem_cons.mpr ⟨le_refl now, counts.past⟩
      unfold GitHubCircuitBreaker.recordFailure
      simp only [half, if_true, Circuit.ended, opens, settled]
      exact ⟨⟨older, counts.started, Nat.zero_le _, fun failure member => by simp at member⟩, .shut rfl rfl rfl rfl⟩

theorem Tracks.ends {outcome : SendOutcome} (tracks : Tracks settings state now)
    (careful : state.Careful settings governed (.ends request outcome now)) :
    Tracks settings (state.step settings governed (.ends request outcome now)) now := by
  simp only [Watched.step, BreakerClient.step]
  by_cases flying : request ∈ state.client.inFlight
  · simp only [if_pos flying]
    cases said : outcome.counted governed with
    | none =>
        obtain ⟨counts, mode⟩ := tracks
        refine ⟨⟨counts.past, counts.started, counts.few, counts.fresh⟩, ?_⟩
        cases mode with
        | closed half unset fresh none old =>
            exact .closed half unset fresh (by simp [Circuit.ended, Circuit.settle, none]) old
        | shut half set found none => exact .shut half set found (by simp [Circuit.ended, Circuit.settle, none])
        | trying half unset found passed => exact .trying half unset found passed
    | some kind =>
        cases kind with
        | success =>
            refine ⟨⟨fun failure member => absurd member List.not_mem_nil, .inl rfl, Nat.le_refl 0, ?_⟩, ?_⟩
            · exact fun failure member => by simp [Circuit.ended] at member
            · exact .closed rfl rfl rfl rfl fun failure member => by simp [Circuit.ended] at member
        | failure =>
            have recorded := tracks.recordFailure (careful flying said)
            exact ⟨recorded.counts, recorded.mode⟩
  · simp only [if_neg flying]
    exact tracks

theorem Tracks.step (tracks : Tracks settings state event.time) (careful : state.Careful settings governed event) :
    Tracks settings (state.step settings governed event) event.time := by
  cases event with
  | sends request now => exact tracks.sends
  | ends request outcome now => exact tracks.ends careful

theorem Tracks.play {moment : Rat} (tracks : Tracks settings state now)
    (order : InOrder BreakerEvent.time now (events ++ [.sends request moment]))
    (careful : Along (Watched.step settings governed) (Watched.Careful settings governed) state events) :
    Tracks settings (play (Watched.step settings governed) state events) moment := by
  induction events generalizing state now with
  | nil => exact tracks.later (inOrder_cons.mp order).1
  | cons event rest ih =>
      obtain ⟨next, later⟩ := inOrder_cons.mp order
      exact ih ((tracks.later next).step careful.1) later careful.2

theorem tracks_start (settings : BreakerSettings) (now : Rat) : Tracks settings {} now where
  counts := ⟨fun failure member => absurd member List.not_mem_nil, .inl rfl, Nat.le_refl 0, fun failure member => by
    simp at member⟩
  mode := .closed rfl rfl rfl rfl fun failure member => by simp at member

/-- In every careful run a request is rejected exactly if the failures since the last success have opened the circuit,
and the cooldown since then has not passed or a trial is out. -/
theorem breaker_is_circuit {settings : BreakerSettings} {governed : Bool} {now moment : Rat} {request : Nat}
    {events : List BreakerEvent} (order : InOrder BreakerEvent.time now (events ++ [.sends request moment]))
    (careful : Along (Watched.step settings governed) (Watched.Careful settings governed) {}
      (events ++ [.sends request moment])) :
    (play (BreakerClient.step settings governed) {} events).breaker.beforeRequest moment = none ↔
      (play (Watched.step settings governed) {} events).circuit.rejects settings moment = true := by
  obtain ⟨early, last, _⟩ := along_append.mp careful
  have client : ∀ (events : List BreakerEvent) (state : Watched),
      (play (Watched.step settings governed) state events).client =
        play (BreakerClient.step settings governed) state.client events := by
    intro events
    induction events with
    | nil => exact fun state => rfl
    | cons event rest ih => exact fun state => ih (state.step settings governed event)
  have tracks := (tracks_start settings now).play order early
  have same := tracks.rejects last
  rwa [client] at same

theorem breaker_is_circuit_sample :
    let settings : BreakerSettings := { failureThreshold := 2 }
    let failed := SendOutcome.answered 503 false
    let events : List BreakerEvent := [.sends 1 1, .sends 2 2, .ends 1 .networkError 3, .ends 2 failed 4, .sends 3 10,
      .sends 4 40, .ends 4 .throttled 41, .sends 5 42, .ends 5 failed 43, .sends 6 50, .sends 7 80,
      .ends 7 (.answered 200 false) 81]
    (play (BreakerClient.step settings true) {} events).breaker.beforeRequest 82 = none ↔
      (play (Watched.step settings true) {} events).circuit.rejects settings 82 = true := by
  intro settings failed events
  refine @breaker_is_circuit settings true 0 82 8 events ?_ ?_
  · norm_num [InOrder, events, failed, BreakerEvent.time]
  · decide +kernel

theorem breaker_misses :
    let settings : BreakerSettings := { failureThreshold := 3 }
    let fails (request : Nat) (now : Rat) : List BreakerEvent :=
      [.sends request now, .ends request .networkError now]
    let scattered := fails 1 1 ++ fails 2 60 ++ fails 3 62 ++ fails 4 63
    let opened := fails 1 1 ++ fails 2 2 ++ fails 3 3 ++ [.sends 4 33]
    InOrder BreakerEvent.time 0 (scattered ++ [.sends 5 64]) ∧ InOrder BreakerEvent.time 0 (opened ++ [.sends 5 34]) ∧
      (play (BreakerClient.step settings true) {} scattered).breaker.beforeRequest 64 ≠ none ∧
      (play (Watched.step settings true) {} scattered).circuit.rejects settings 64 = true ∧
      (play (BreakerClient.step settings true) {} opened).breaker.beforeRequest 34 ≠ none ∧
      (play (Watched.step settings true) {} opened).circuit.rejects settings 34 = true := by
  intro settings fails scattered opened
  refine ⟨?_, ?_, ?_⟩
  · norm_num [InOrder, scattered, fails, BreakerEvent.time]
  · norm_num [InOrder, opened, fails, BreakerEvent.time]
  · decide +kernel

end Thought2Build.Integrations
