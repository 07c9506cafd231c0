import Mathlib.Tactic.Linarith
import Thought2Build.Llm.CircuitCore

/-! The answers of a circuit are those of the failures since the last success, as long as the failures come in time. -/

namespace Thought2Build.Llm

open Budgets Histories
open Function (update)

variable {failures next : Failures} {provider other : String} {now soon : Rat} {event : CircuitEvent}
  {times : List Rat} {events : List CircuitEvent}

inductive Outcome where
  | success | failure
  deriving DecidableEq

def CircuitEvent.outcome (provider : String) : CircuitEvent → Option Outcome
  | .success called _ => if called = provider then some .success else none
  | .failure called error _ => if called = provider ∧ error.rateLimit = false then some .failure else none
  | .probe called configured error _ =>
      if called = provider ∧ configured = true ∧ providerIds.contains called = true then
        match error with
        | none => some .success
        | some error => if error.rateLimit then none else some .failure
      else none
  | .canRoute _ _ | .snapshot _ _ _ => none

def since (provider : String) (times : List Rat) (event : CircuitEvent) : List Rat :=
  match event.outcome provider with
  | some .success => []
  | some .failure => event.time :: times
  | none => times

def Tripped (now : Rat) : List Rat → Bool
  | third :: second :: first :: _ =>
      now - third ≤ recentFailureWindowSeconds && third - second ≤ recentFailureWindowSeconds &&
        second - first ≤ recentFailureWindowSeconds
  | _ => false

def Prompt (provider : String) (times : List Rat) (event : CircuitEvent) : Prop :=
  event.outcome provider = some .failure → ∀ last ∈ times.head?, event.time - last ≤ recentFailureWindowSeconds

instance : Decidable (Prompt provider times event) := by unfold Prompt; infer_instance

namespace Failures

def Kept (failures : Failures) (provider : String) (now : Rat) (next : Failures) : Prop :=
  next provider = failures provider ∨
    next provider = none ∧ ∃ state, failures provider = some state ∧
      recentFailureWindowSeconds < now - state.lastFailureAt

section

attribute [local simp] CircuitEvent.outcome step checkProviderHealth since

end

theorem Kept.refl (failures : Failures) (provider : String) (now : Rat) : failures.Kept provider now failures :=
  .inl rfl

theorem kept_drop {state : ProviderFailureState} (found : failures other = some state)
    (old : recentFailureWindowSeconds < now - state.lastFailureAt) :
    failures.Kept provider now (update failures other none) := by
  by_cases same : provider = other
  · subst same
    exact .inr ⟨Function.update_self .., state, found, old⟩
  · exact .inl (Function.update_of_ne same ..)

theorem kept_circuitOpen (failures : Failures) (provider other : String) (now : Rat) :
    failures.Kept provider now (failures.circuitOpen other now).2 := by
  unfold circuitOpen
  split
  · exact .refl ..
  · rename_i state found
    split
    · rename_i old
      exact kept_drop found old
    · exact .refl ..

theorem kept_providerHealth (failures : Failures) (provider other : String) (now : Rat) (configured : Bool) :
    failures.Kept provider now (failures.providerHealth other now configured).2 := by
  unfold providerHealth
  split
  · exact .refl ..
  · split
    · exact .refl ..
    · rename_i state found
      split
      · rename_i old
        exact kept_drop found old
      · split <;> exact .refl ..

theorem Kept.fresh {state : ProviderFailureState} (kept : failures.Kept provider now next)
    (found : failures provider = some state) (young : state.lastFailureAt = now) : next provider = some state := by
  rcases kept with same | ⟨_, old, stored, late⟩
  · rw [same, found]
  · obtain rfl := Option.some.inj (found.symm.trans stored)
    rw [young, sub_self] at late
    exact absurd late (by norm_num [recentFailureWindowSeconds])

theorem recordProviderFailure_self {error : ProviderException} (counts : error.rateLimit = false) :
    failures.recordProviderFailure provider now error provider =
      some { count := ((failures provider).getD {}).count + 1, lastFailureAt := now, lastError := error.name } := by
  rw [recordProviderFailure, counts, if_neg Bool.false_ne_true]
  exact (kept_circuitOpen ..).fresh ((kept_providerHealth ..).fresh (Function.update_self ..) rfl) rfl

theorem Kept.trans {middle : Failures} (first : failures.Kept provider now middle)
    (second : middle.Kept provider now next) : failures.Kept provider now next := by
  rcases first with same | ⟨gone, old⟩
  · unfold Kept
    rwa [← same]
  · rcases second with same | ⟨_, state, found, _⟩
    · exact .inr ⟨same.trans gone, old⟩
    · rw [gone] at found
      contradiction

theorem kept_recordProviderFailure {error : ProviderException} (apart : provider = other → error.rateLimit = true) :
    failures.Kept provider now (failures.recordProviderFailure other now error) := by
  unfold recordProviderFailure
  split
  · exact .refl ..
  · rename_i counts
    have different : provider ≠ other := fun same => counts (apart same)
    have recorded : failures.Kept provider now (update failures other (some
        { count := ((failures other).getD {}).count + 1, lastFailureAt := now, lastError := error.name })) :=
      .inl (Function.update_of_ne different ..)
    exact (recorded.trans (kept_providerHealth ..)).trans (kept_circuitOpen ..)

theorem step_success (decided : event.outcome provider = some .success) : failures.step event provider = none := by
  cases event with
  | success called now =>
      simp only [CircuitEvent.outcome, Option.ite_none_right_eq_some] at decided
      obtain ⟨rfl, _⟩ := decided
      exact Function.update_self ..
  | probe called configured error now =>
      simp only [CircuitEvent.outcome, Option.ite_none_right_eq_some] at decided
      obtain ⟨⟨rfl, rfl, known⟩, decided⟩ := decided
      cases error with
      | some error => by_cases limit : error.rateLimit = true <;> simp [limit] at decided
      | none =>
          simp only [step, checkProviderHealth, known, Bool.not_true, if_neg Bool.false_ne_true]
          rcases kept_providerHealth (failures.recordProviderSuccess called) called called now true with
            same | ⟨gone, _⟩
          · exact same.trans (Function.update_self ..)
          · exact gone
  | failure called error now =>
      simp only [CircuitEvent.outcome, Option.ite_none_right_eq_some] at decided
      cases decided.2
  | canRoute called now => cases decided
  | snapshot called configured now => cases decided

theorem step_failure (decided : event.outcome provider = some .failure) :
    ∃ error, failures.step event provider =
      some { count := ((failures provider).getD {}).count + 1, lastFailureAt := event.time, lastError := error } := by
  cases event with
  | success called now =>
      simp only [CircuitEvent.outcome, Option.ite_none_right_eq_some] at decided
      cases decided.2
  | probe called configured error now =>
      simp only [CircuitEvent.outcome, Option.ite_none_right_eq_some] at decided
      obtain ⟨⟨rfl, rfl, known⟩, decided⟩ := decided
      cases error with
      | none => contradiction
      | some error =>
          have counts : error.rateLimit = false := by
            cases limit : error.rateLimit with
            | true => simp [limit] at decided
            | false => rfl
          refine ⟨error.name, ?_⟩
          simp only [step, checkProviderHealth, known, Bool.not_true, if_neg Bool.false_ne_true]
          exact (kept_providerHealth ..).fresh (recordProviderFailure_self counts) rfl
  | failure called error now =>
      simp only [CircuitEvent.outcome, Option.ite_none_right_eq_some] at decided
      obtain ⟨⟨rfl, counts⟩, _⟩ := decided
      exact ⟨error.name, recordProviderFailure_self counts⟩
  | canRoute called now => cases decided
  | snapshot called configured now => cases decided

theorem step_none (silent : event.outcome provider = none) :
    failures.Kept provider event.time (failures.step event) := by
  cases event with
  | success called now =>
      have different : provider ≠ called := by
        rintro rfl
        simp [CircuitEvent.outcome] at silent
      exact .inl (Function.update_of_ne different ..)
  | failure called error now =>
      refine kept_recordProviderFailure fun same => ?_
      simpa [CircuitEvent.outcome, same] using silent
  | probe called configured error now =>
      unfold step checkProviderHealth
      dsimp only
      split
      · exact .refl ..
      · rename_i known
        split
        · exact kept_providerHealth ..
        · rename_i configured
          have apart : provider = called → ∃ limit, error = some limit ∧ limit.rateLimit = true := by
            rintro rfl
            cases error with
            | none => simp_all [CircuitEvent.outcome]
            | some error => exact ⟨error, rfl, by simp_all [CircuitEvent.outcome]⟩
          cases error with
          | none =>
              have different : provider ≠ called := fun same => by simpa using apart same
              have recorded : failures.Kept provider now (failures.recordProviderSuccess called) :=
                .inl (Function.update_of_ne different ..)
              exact recorded.trans (kept_providerHealth ..)
          | some error =>
              have recorded : failures.Kept provider now (failures.recordProviderFailure called now error) := by
                refine kept_recordProviderFailure fun same => ?_
                obtain ⟨limit, found, limited⟩ := apart same
                rwa [Option.some.inj found]
              exact recorded.trans (kept_providerHealth ..)
  | canRoute called now => exact kept_circuitOpen ..
  | snapshot called configured now => exact kept_providerHealth ..

end Failures

structure Tracks (provider : String) (failures : Failures) (times : List Rat) (now : Rat) : Prop where
  steady : times.IsChain fun later earlier => later - earlier ≤ recentFailureWindowSeconds
  stored : ∀ state, failures provider = some state → times.head? = some state.lastFailureAt ∧ state.count = times.length
  dropped : failures provider = none → ∀ last ∈ times.head?, recentFailureWindowSeconds < now - last

theorem Tracks.later (tracks : Tracks provider failures times now) (ahead : now ≤ soon) :
    Tracks provider failures times soon :=
  ⟨tracks.steady, tracks.stored, fun gone last newest => (tracks.dropped gone last newest).trans_le (by linarith)⟩

theorem Tracks.step (tracks : Tracks provider failures times event.time) (prompt : Prompt provider times event) :
    Tracks provider (failures.step event) (since provider times event) event.time := by
  unfold since
  split
  · rename_i decided
    have gone : failures.step event provider = none := Failures.step_success decided
    exact ⟨.nil, fun state found => by simp [gone] at found, fun _ last newest => by simp at newest⟩
  · rename_i decided
    have close := prompt decided
    obtain ⟨error, found⟩ : ∃ error, failures.step event provider =
        some { count := ((failures provider).getD {}).count + 1, lastFailureAt := event.time, lastError := error } :=
      Failures.step_failure decided
    have count : ((failures provider).getD {}).count = times.length := by
      cases stored : failures provider with
      | some state => exact (tracks.stored state stored).2
      | none =>
          have none : times = [] := by
            cases times with
            | nil => rfl
            | cons last rest =>
                have old := tracks.dropped stored last rfl
                exact absurd (close last rfl) (not_le.mpr old)
          rw [none]
          rfl
    have steady : (event.time :: times).IsChain fun later earlier => later - earlier ≤ recentFailureWindowSeconds := by
      cases times with
      | nil => exact .singleton _
      | cons last rest => exact .cons_cons (close last rfl) tracks.steady
    refine ⟨steady, fun state stored => ?_, fun gone => by simp [found] at gone⟩
    rw [found, Option.some_inj] at stored
    rw [← stored, count]
    exact ⟨rfl, rfl⟩
  · rename_i silent
    have kept : failures.Kept provider event.time (failures.step event) := Failures.step_none silent
    rcases kept with same | ⟨gone, state, found, old⟩
    · exact ⟨tracks.steady, by rw [same]; exact tracks.stored, by rw [same]; exact tracks.dropped⟩
    · refine ⟨tracks.steady, fun state stored => by simp [gone] at stored, fun _ last newest => ?_⟩
      rw [(tracks.stored state found).1, Option.mem_some_iff] at newest
      rwa [← newest]

theorem Tracks.canRoute (tracks : Tracks provider failures times now) :
    failures.canRoute provider now = !Tripped now times := by
  obtain ⟨steady, stored, dropped⟩ := tracks
  unfold Failures.canRoute Failures.circuitOpen
  cases found : failures provider with
  | none =>
      rcases times with _ | ⟨last, _ | ⟨second, _ | ⟨first, rest⟩⟩⟩
      · rfl
      · rfl
      · rfl
      · have old := dropped found last rfl
        simp [Tripped, not_le.mpr old]
  | some state =>
      obtain ⟨newest, count⟩ := stored state found
      dsimp only
      rw [count]
      by_cases old : recentFailureWindowSeconds < now - state.lastFailureAt
      · rw [if_pos old]
        rcases times with _ | ⟨last, _ | ⟨second, _ | ⟨first, rest⟩⟩⟩
        · rfl
        · rfl
        · rfl
        · obtain rfl := Option.some.inj newest
          simp [Tripped, not_le.mpr old]
      · rw [if_neg old]
        rcases times with _ | ⟨last, _ | ⟨second, _ | ⟨first, rest⟩⟩⟩
        · rfl
        · rfl
        · rfl
        · obtain rfl := Option.some.inj newest
          obtain ⟨late, tail⟩ := List.isChain_cons_cons.mp steady
          have early := (List.isChain_cons_cons.mp tail).1
          simp [Tripped, not_lt.mp old, late, early, unhealthyFailureThreshold]

theorem Tracks.play {read : CircuitEvent} (tracks : Tracks provider failures times now)
    (order : InOrder CircuitEvent.time now (events ++ [read]))
    (prompt : Along (since provider) (Prompt provider) times events) :
    Tracks provider (play Failures.step failures events) (play (since provider) times events) read.time := by
  induction events generalizing failures times now with
  | nil => exact tracks.later (inOrder_cons.mp order).1
  | cons event rest ih =>
      obtain ⟨next, later⟩ := inOrder_cons.mp order
      exact ih ((tracks.later next).step prompt.1) later prompt.2

def decides (provider : String) (event : CircuitEvent) : Bool := (event.outcome provider).isSome

theorem play_decides (provider : String) (times : List Rat) (events : List CircuitEvent) :
    play (since provider) times (events.filter (decides provider)) = play (since provider) times events := by
  induction events generalizing times with
  | nil => rfl
  | cons event rest ih =>
      cases said : event.outcome provider with
      | none =>
          have same : since provider times event = times := by simp only [since, said]
          rw [List.filter_cons_of_neg (by simp [decides, said]), play_cons, same, ih]
      | some outcome => rw [List.filter_cons_of_pos (by simp [decides, said]), play_cons, play_cons, ih]

theorem along_decides (provider : String) (times : List Rat) (events : List CircuitEvent) :
    Along (since provider) (Prompt provider) times (events.filter (decides provider)) ↔
      Along (since provider) (Prompt provider) times events := by
  induction events generalizing times with
  | nil => rfl
  | cons event rest ih =>
      cases said : event.outcome provider with
      | none =>
          have same : since provider times event = times := by simp only [since, said]
          have prompt : Prompt provider times event := fun decided => by simp [said] at decided
          rw [List.filter_cons_of_neg (by simp [decides, said]), ih, Along, same]
          exact (and_iff_right prompt).symm
      | some outcome => rw [List.filter_cons_of_pos (by simp [decides, said]), Along, Along, ih]

/-- While the failures of a provider come in time, its circuit answers by them alone, whatever else happens: the reads,
the rate limits and the events of other providers change no answer. -/
theorem circuit_determined {provider : String} {now moment : Rat} {events : List CircuitEvent}
    (order : InOrder CircuitEvent.time now (events ++ [.canRoute provider moment]))
    (prompt : Along (since provider) (Prompt provider) [] events) :
    (play Failures.step (fun _ => none) events).canRoute provider moment =
        !Tripped moment (play (since provider) [] events) ∧
      ∀ others, InOrder CircuitEvent.time now (others ++ [.canRoute provider moment]) →
        others.filter (decides provider) = events.filter (decides provider) →
        (play Failures.step (fun _ => none) others).canRoute provider moment =
          (play Failures.step (fun _ => none) events).canRoute provider moment := by
  have empty : Tracks provider (fun _ => none) [] now := ⟨.nil, by simp, by simp⟩
  have answer := (empty.play order prompt).canRoute
  refine ⟨answer, fun others ordered same => ?_⟩
  have decided : Along (since provider) (Prompt provider) [] others := by
    rw [← along_decides, same, along_decides]
    exact prompt
  have times : play (since provider) [] others = play (since provider) [] events := by
    rw [← play_decides, same, play_decides]
  have other := (empty.play ordered decided).canRoute
  rw [times] at other
  exact other.trans answer.symm

theorem circuit_determined_open :
    let failure (now : Rat) : CircuitEvent := .failure "openai" { name := "ProviderError", rateLimit := false } now
    let events := [failure 0, .snapshot "openai" true 5, failure 10,
      .failure "openai" { name := "ProviderRateLimitError", rateLimit := true } 15, failure 20]
    (play Failures.step (fun _ => none) events).canRoute "openai" 30 =
        !Tripped 30 (play (since "openai") [] events) ∧
      ∀ others, InOrder CircuitEvent.time 0 (others ++ [.canRoute "openai" 30]) →
        others.filter (decides "openai") = events.filter (decides "openai") →
        (play Failures.step (fun _ => none) others).canRoute "openai" 30 =
          (play Failures.step (fun _ => none) events).canRoute "openai" 30 := by
  intro failure events
  refine circuit_determined ?_ ?_
  · norm_num [InOrder, events, failure, CircuitEvent.time]
  · decide +kernel

theorem circuit_reads :
    let failure (now : Rat) : CircuitEvent := .failure "openai" { name := "ProviderError", rateLimit := false } now
    let silent := [failure 0, failure 1, failure 1000]
    let read := [failure 0, failure 1, .canRoute "openai" 700, failure 1000]
    InOrder CircuitEvent.time 0 (read ++ [.canRoute "openai" 1000]) ∧
      silent.filter (decides "openai") = read.filter (decides "openai") ∧
      (play Failures.step (fun _ => none) silent).canRoute "openai" 1000 = false ∧
      (play Failures.step (fun _ => none) read).canRoute "openai" 1000 = true ∧
      Tripped 1000 (play (since "openai") [] silent) = false := by
  intro failure silent read
  refine ⟨?_, ?_⟩
  · norm_num [InOrder, read, failure, CircuitEvent.time]
  · decide +kernel

end Thought2Build.Llm
