import Mathlib.Data.Finset.Card
import Mathlib.Data.Finset.SDiff
import Mathlib.Tactic.Linarith
import Thought2Build.Pipeline.ChunkAttemptsCore

/-! The loop ends: each turn uses up a retry, the repair or a route that has not been attempted. -/

namespace Thought2Build.Pipeline

open Histories

variable {settings : AttemptSettings} {budgets : OutputBudgets} {routes : Finset RouteKey} {key : RouteKey}

namespace ChunkAction

def isCall : ChunkAction → Bool
  | .call .. => true
  | _ => false

def calls (key : RouteKey) : ChunkAction → Bool
  | .call route .. => route = key
  | _ => false

def enlarges (key : RouteKey) : ChunkAction → Bool
  | .enlarge route _ => route = key
  | _ => false

def leaves (key : RouteKey) : ChunkAction → Bool
  | .fallback failed _ => failed = key
  | _ => false

end ChunkAction

theorem RuntimeRouting.fallbackRoute_fresh {routing : RuntimeRouting} {failed fallback : LLMRoute}
    {attempted : Finset RouteKey} {allowSameProvider : Bool}
    (found : routing.fallbackRoute failed attempted allowSameProvider = some fallback) :
    fallback.key ≠ failed.key ∧ fallback.key ∉ attempted ∧
      ((∃ tier, routing.resolveRoute failed tier = some fallback) ∨
        ∃ excluded, routing.resolveByProvider failed excluded = some fallback) := by
  unfold fallbackRoute at found
  rcases Option.or_eq_some_iff.mp found with same | ⟨_, other⟩
  · obtain ⟨resolved, fresh⟩ := Option.filter_eq_some_iff.mp same
    simp only [decide_eq_true_eq, Finset.mem_insert, not_or] at fresh
    refine ⟨fresh.1, fresh.2, .inl ?_⟩
    split at resolved
    · split at resolved
      · contradiction
      · rename_i tier _
        split at resolved
        · exact ⟨tier, resolved⟩
        · contradiction
    · contradiction
  · obtain ⟨resolved, fresh⟩ := Option.filter_eq_some_iff.mp other
    simp only [decide_eq_true_eq, Finset.mem_insert, not_or] at fresh
    exact ⟨fresh.1, fresh.2, .inr ⟨_, resolved⟩⟩

def AttemptTurn.Within (routes : Finset RouteKey) (turn : AttemptTurn) : Prop :=
  ∀ failed attempted allowSameProvider, ∀ fallback ∈ turn.resolver failed attempted allowSameProvider,
    fallback.key ∈ routes

namespace ChunkAttempts

variable {state before next : ChunkAttempts} {turn : AttemptTurn} {turns : List AttemptTurn}

def entered (state : ChunkAttempts) : ChunkAttempts :=
  { state with attemptedRoutes := insert state.attemptRoute.key state.attemptedRoutes }

inductive Goes (settings : AttemptSettings) (budgets : OutputBudgets) (turn : AttemptTurn) (before : ChunkAttempts) :
    ChunkAttempts → Prop
  | ended (outcome : ChunkOutcome) (rateLimitRetries : Nat) :
      Goes settings budgets turn before { before with rateLimitRetries, outcome := some outcome }
  | moved {fallback : LLMRoute} (allowSameProvider : Bool) :
      turn.resolver before.attemptRoute before.attemptedRoutes allowSameProvider = some fallback →
      fallback.key ∉ before.attemptedRoutes → Goes settings budgets turn before (before.moveTo budgets fallback)
  | enlarged {ceiling : Nat} : budgets.maxOutputTokens before.attemptRoute.key = some ceiling →
      before.repairCount = 0 →
      Goes settings budgets turn before
        { before.act (.enlarge before.attemptRoute.key (min (before.outputBudget * 2) ceiling)) with
          repairCount := 1, outputBudget := min (before.outputBudget * 2) ceiling }
  | retried : before.rateLimitRetries < settings.maximum →
      Goes settings budgets turn before { before with rateLimitRetries := before.rateLimitRetries + 1 }

theorem goes_fail (error : ChunkError) : Goes settings budgets turn before (before.fail error) := .ended _ _

theorem goes_recover (error : CallError) (allowSameProvider : Bool) (raised : ChunkError) :
    Goes settings budgets turn before (before.recover settings budgets turn error allowSameProvider raised) := by
  unfold recover
  split
  · exact goes_fail raised
  · split
    · exact goes_fail raised
    · rename_i fallback found
      split
      · exact goes_fail raised
      · rename_i fresh
        exact .moved allowSameProvider found fresh

theorem goes_repair (providerLimitStop : Bool) :
    Goes settings budgets turn before (before.repair settings budgets turn providerLimitStop) := by
  unfold repair
  split
  · exact goes_fail .other
  · rename_i ceiling known
    dsimp only
    split
    · rename_i enlarges
      exact .enlarged known enlarges.2.1
    · exact goes_fail .incomplete

theorem goes_retry (error : CallError) (delay : Rat) (stopped : Bool) :
    Goes settings budgets turn before (before.retry settings budgets turn error delay stopped) := by
  unfold retry
  split
  · exact goes_recover error false .rateLimited
  · rename_i more
    split
    · exact goes_fail .rateLimited
    · dsimp only
      split
      · exact .ended _ _
      · exact .retried (not_le.mp more)

theorem step_goes (running : state.outcome = none) (turn : AttemptTurn) :
    (∃ error, state.step settings budgets turn = state.fail error) ∨
      ∃ before, (before = state.entered ∨ before = state.entered.called) ∧
        Goes settings budgets turn before (state.step settings budgets turn) := by
  have going : ¬state.outcome.isSome = true := by simp [running]
  unfold step
  rw [if_neg going]
  split
  · exact .inl ⟨_, rfl⟩
  · split
    · exact .inl ⟨_, rfl⟩
    · refine .inr ?_
      change ∃ before, _ ∧ Goes settings budgets turn before (state.entered.attempt settings budgets turn)
      unfold attempt
      split
      · exact ⟨_, .inl rfl, goes_recover ..⟩
      · exact ⟨_, .inl rfl, goes_fail _⟩
      · exact ⟨_, .inr rfl, .ended _ _⟩
      · exact ⟨_, .inr rfl, goes_repair _⟩
      · exact ⟨_, .inr rfl, goes_retry ..⟩
      · exact ⟨_, .inr rfl, goes_recover ..⟩
      · exact ⟨_, .inr rfl, goes_fail _⟩

def allowance (settings : AttemptSettings) (routes : Finset RouteKey) (state : ChunkAttempts) : Nat :=
  if state.outcome.isSome then 0
  else
    (routes \ state.entered.attemptedRoutes).card * (settings.maximum + 2) +
      (settings.maximum - state.rateLimitRetries) + (1 - state.repairCount) + 1

structure Sound (settings : AttemptSettings) (budgets : OutputBudgets) (routes : Finset RouteKey)
    (state : ChunkAttempts) : Prop where
  current : state.attemptRoute.key ∈ routes
  left : ∀ action ∈ state.actions, ∀ key, action.leaves key = true →
    key ∈ state.attemptedRoutes ∧ key ≠ state.attemptRoute.key
  apart : state.actions.Pairwise fun earlier later => ∀ key, earlier.leaves key = true → later.calls key = false
  repaired : state.actions.countP (ChunkAction.enlarges state.attemptRoute.key) ≤ state.repairCount
  once : ∀ key ∈ state.attemptedRoutes, key ≠ state.attemptRoute.key →
    state.actions.countP (ChunkAction.enlarges key) ≤ 1
  never : ∀ key ∉ state.attemptedRoutes, key ≠ state.attemptRoute.key →
    state.actions.countP (ChunkAction.enlarges key) = 0
  repairs : state.repairCount ≤ 1
  ceiling : ∀ key outputBudget, .enlarge key outputBudget ∈ state.actions →
    ∃ ceiling, budgets.maxOutputTokens key = some ceiling ∧ outputBudget ≤ ceiling

theorem Sound.entered (sound : state.Sound settings budgets routes) : state.entered.Sound settings budgets routes where
  current := sound.current
  left action member key left := by
    obtain ⟨attempted, other⟩ := sound.left action member key left
    exact ⟨Finset.mem_insert_of_mem attempted, other⟩
  apart := sound.apart
  repaired := sound.repaired
  once key attempted other := by
    rcases Finset.mem_insert.mp attempted with same | attempted
    · contradiction
    · exact sound.once key attempted other
  never key fresh other := sound.never key (fun attempted => fresh (Finset.mem_insert_of_mem attempted)) other
  repairs := sound.repairs
  ceiling := sound.ceiling

theorem Sound.called (sound : state.Sound settings budgets routes) : state.called.Sound settings budgets routes := by
  have none : ∀ key, [ChunkAction.call state.attemptRoute.key state.outputBudget
      (state.routeFailovers + state.rateLimitRetries) state.repairCount].countP (ChunkAction.enlarges key) = 0 := by
    intro key
    simp [ChunkAction.enlarges]
  constructor
  case current => exact sound.current
  case left =>
    intro action member key left
    rcases List.mem_append.mp member with member | member
    · exact sound.left action member key left
    · rw [List.mem_singleton.mp member] at left
      contradiction
  case apart =>
    refine List.pairwise_append.mpr ⟨sound.apart, List.pairwise_singleton _ _, ?_⟩
    intro earlier member later call key left
    rw [List.mem_singleton.mp call]
    have other := (sound.left earlier member key left).2
    simpa [ChunkAction.calls] using other.symm
  case repaired =>
    rw [ChunkAttempts.called, act, List.countP_append, none]
    exact sound.repaired
  case once =>
    intro key attempted other
    rw [ChunkAttempts.called, act, List.countP_append, none]
    exact sound.once key attempted other
  case never =>
    intro key fresh other
    rw [ChunkAttempts.called, act, List.countP_append, none]
    exact sound.never key fresh other
  case repairs => exact sound.repairs
  case ceiling =>
    intro key outputBudget member
    rcases List.mem_append.mp member with member | member
    · exact sound.ceiling key outputBudget member
    · cases List.mem_singleton.mp member

theorem moveTo_eq (state : ChunkAttempts) (budgets : OutputBudgets) (fallback : LLMRoute) : ∃ outputBudget outcome,
    state.moveTo budgets fallback =
      { attemptRoute := fallback, attemptedRoutes := state.attemptedRoutes, routeFailovers := state.routeFailovers + 1,
        outputBudget, actions := state.actions ++ [.fallback state.attemptRoute.key fallback.key], outcome } ∧
      (outcome = state.outcome ∨ ∃ ended, outcome = some ended) := by
  unfold moveTo
  split
  · exact ⟨_, _, rfl, .inl rfl⟩
  · exact ⟨_, _, rfl, .inr ⟨_, rfl⟩⟩

theorem Sound.moveTo {fallback : LLMRoute} (sound : state.Sound settings budgets routes)
    (attempted : state.attemptRoute.key ∈ state.attemptedRoutes) (known : fallback.key ∈ routes)
    (fresh : fallback.key ∉ state.attemptedRoutes) : (state.moveTo budgets fallback).Sound settings budgets routes := by
  have other : fallback.key ≠ state.attemptRoute.key := fun same => fresh (same ▸ attempted)
  have count : ∀ key, (state.actions ++ [ChunkAction.fallback state.attemptRoute.key fallback.key]).countP
      (ChunkAction.enlarges key) = state.actions.countP (ChunkAction.enlarges key) := by
    intro key
    simp [ChunkAction.enlarges]
  obtain ⟨outputBudget, outcome, same, _⟩ := state.moveTo_eq budgets fallback
  rw [same]
  constructor
  case current => exact known
  case left =>
    intro action member key left
    have old : key ∈ state.attemptedRoutes := by
      rcases List.mem_append.mp member with member | member
      · exact (sound.left action member key left).1
      · rw [List.mem_singleton.mp member] at left
        have same : state.attemptRoute.key = key := by simpa [ChunkAction.leaves] using left
        exact same ▸ attempted
    exact ⟨old, fun same => fresh (same ▸ old)⟩
  case apart =>
    refine List.pairwise_append.mpr ⟨sound.apart, List.pairwise_singleton _ _, ?_⟩
    intro earlier _ later moves key _
    rw [List.mem_singleton.mp moves]
    rfl
  case repaired => exact (count _).trans_le (sound.never fallback.key fresh other).le
  case once =>
    intro key member _
    rw [count]
    by_cases present : key = state.attemptRoute.key
    · rw [present]
      exact sound.repaired.trans sound.repairs
    · exact sound.once key member present
  case never =>
    intro key unknown _
    rw [count]
    exact sound.never key unknown fun same => unknown (same ▸ attempted)
  case repairs => exact Nat.zero_le 1
  case ceiling =>
    intro key outputBudget member
    rcases List.mem_append.mp member with member | member
    · exact sound.ceiling key outputBudget member
    · cases List.mem_singleton.mp member

theorem Sound.enlarge {ceiling : Nat} (sound : state.Sound settings budgets routes)
    (known : budgets.maxOutputTokens state.attemptRoute.key = some ceiling) (first : state.repairCount = 0)
    (outputBudget : Nat) (within : outputBudget ≤ ceiling) : Sound settings budgets routes
      { state.act (.enlarge state.attemptRoute.key outputBudget) with repairCount := 1, outputBudget } := by
  have count : ∀ key ≠ state.attemptRoute.key,
      (state.actions ++ [ChunkAction.enlarge state.attemptRoute.key outputBudget]).countP (ChunkAction.enlarges key) =
        state.actions.countP (ChunkAction.enlarges key) := by
    intro key other
    have none : ChunkAction.enlarges key (.enlarge state.attemptRoute.key outputBudget) = false := by
      simpa [ChunkAction.enlarges] using other.symm
    rw [List.countP_append, List.countP_singleton, none]
    rfl
  constructor
  case current => exact sound.current
  case left =>
    intro action member key left
    rcases List.mem_append.mp member with member | member
    · exact sound.left action member key left
    · rw [List.mem_singleton.mp member] at left
      contradiction
  case apart =>
    refine List.pairwise_append.mpr ⟨sound.apart, List.pairwise_singleton _ _, ?_⟩
    intro earlier _ later enlarges key _
    rw [List.mem_singleton.mp enlarges]
    rfl
  case repaired =>
    have none := sound.repaired
    rw [first] at none
    rw [act, List.countP_append, Nat.le_zero.mp none, Nat.zero_add]
    exact List.countP_le_length
  case once =>
    intro key attempted other
    rw [act, count key other]
    exact sound.once key attempted other
  case never =>
    intro key fresh other
    rw [act, count key other]
    exact sound.never key fresh other
  case repairs => exact le_refl 1
  case ceiling =>
    intro key budget member
    rcases List.mem_append.mp member with member | member
    · exact sound.ceiling key budget member
    · cases List.mem_singleton.mp member
      exact ⟨ceiling, known, within⟩

theorem Sound.goes (sound : before.Sound settings budgets routes)
    (attempted : before.attemptRoute.key ∈ before.attemptedRoutes) (within : turn.Within routes)
    (goes : Goes settings budgets turn before next) : next.Sound settings budgets routes := by
  cases goes with
  | ended outcome rateLimitRetries => exact { sound with }
  | moved allowSameProvider found fresh => exact sound.moveTo attempted (within _ _ _ _ found) fresh
  | enlarged known first => exact sound.enlarge known first _ (min_le_right _ _)
  | retried _ => exact { sound with }

theorem Sound.step (sound : state.Sound settings budgets routes) (within : turn.Within routes) :
    (state.step settings budgets turn).Sound settings budgets routes := by
  cases running : state.outcome with
  | some outcome =>
      rw [ChunkAttempts.step, running, Option.isSome_some, if_pos rfl]
      exact sound
  | none =>
      rcases step_goes running turn with ⟨error, same⟩ | ⟨before, rfl | rfl, goes⟩
      · rw [same]
        exact { sound with }
      · exact sound.entered.goes (Finset.mem_insert_self _ _) within goes
      · exact sound.entered.called.goes (Finset.mem_insert_self _ _) within goes

theorem allowance_ended {outcome : ChunkOutcome} (ended : state.outcome = some outcome) :
    state.allowance settings routes = 0 := by
  rw [allowance, ended, Option.isSome_some, if_pos rfl]

theorem allowance_running (running : state.outcome = none) : state.allowance settings routes =
    (routes \ state.entered.attemptedRoutes).card * (settings.maximum + 2) +
      (settings.maximum - state.rateLimitRetries) + (1 - state.repairCount) + 1 := by
  rw [allowance, running, Option.isSome_none, if_neg Bool.false_ne_true]

theorem allowance_moveTo {fallback : LLMRoute} (running : state.outcome = none)
    (attempted : state.attemptRoute.key ∈ state.attemptedRoutes) (known : fallback.key ∈ routes)
    (fresh : fallback.key ∉ state.attemptedRoutes) :
    (state.moveTo budgets fallback).allowance settings routes + 1 ≤ state.allowance settings routes := by
  have same : state.entered.attemptedRoutes = state.attemptedRoutes := Finset.insert_eq_of_mem attempted
  have member : fallback.key ∈ routes \ state.attemptedRoutes := Finset.mem_sdiff.mpr ⟨known, fresh⟩
  have fewer : (routes \ insert fallback.key state.attemptedRoutes).card + 1 =
      (routes \ state.attemptedRoutes).card := by
    rw [Finset.sdiff_insert, Finset.card_erase_add_one member]
  obtain ⟨outputBudget, outcome, moved, going | ⟨ended, done⟩⟩ := state.moveTo_eq budgets fallback
  · rw [moved, allowance_running (going.trans running), allowance_running running, same, ← fewer]
    simp only [ChunkAttempts.entered]
    rw [Nat.add_mul]
    omega
  · rw [moved, allowance_ended done, allowance_running running]
    omega

theorem allowance_goes (goes : Goes settings budgets turn before next) (running : before.outcome = none)
    (attempted : before.attemptRoute.key ∈ before.attemptedRoutes) (within : turn.Within routes) :
    next.allowance settings routes + 1 ≤ before.allowance settings routes := by
  cases goes with
  | ended outcome rateLimitRetries =>
      rw [allowance_ended rfl, allowance_running running]
      omega
  | moved allowSameProvider found fresh => exact allowance_moveTo running attempted (within _ _ _ _ found) fresh
  | enlarged known first =>
      simp only [allowance, ChunkAttempts.entered, act, running, first, Option.isSome_none, if_neg Bool.false_ne_true]
      omega
  | retried more =>
      simp only [allowance, ChunkAttempts.entered, running, Option.isSome_none, if_neg Bool.false_ne_true]
      omega

theorem calls_goes (goes : Goes settings budgets turn before next) :
    next.actions.countP ChunkAction.isCall = before.actions.countP ChunkAction.isCall := by
  cases goes with
  | ended outcome rateLimitRetries => rfl
  | moved allowSameProvider found fresh =>
      obtain ⟨outputBudget, outcome, moved, _⟩ := before.moveTo_eq budgets _
      rw [moved]
      simp [ChunkAction.isCall]
  | enlarged known first => simp [act, ChunkAction.isCall]
  | retried more => rfl

theorem step_allowance (settings : AttemptSettings) (budgets : OutputBudgets) (running : state.outcome = none)
    (within : turn.Within routes) :
    (state.step settings budgets turn).allowance settings routes + 1 ≤ state.allowance settings routes ∧
      (state.step settings budgets turn).actions.countP ChunkAction.isCall ≤
        state.actions.countP ChunkAction.isCall + 1 := by
  have entered : state.entered.allowance settings routes = state.allowance settings routes := by
    have same : state.entered.entered = state.entered := by simp [ChunkAttempts.entered]
    rw [allowance, same]
    rfl
  rcases step_goes running turn with ⟨error, same⟩ | ⟨before, rfl | rfl, goes⟩
  · rw [same, allowance_ended rfl, allowance_running running]
    exact ⟨by omega, Nat.le_succ _⟩
  · have less := allowance_goes goes running (Finset.mem_insert_self _ _) within
    rw [calls_goes goes]
    exact ⟨less.trans entered.le, Nat.le_succ _⟩
  · have less := allowance_goes goes running (Finset.mem_insert_self _ _) within
    have one : state.entered.called.actions.countP ChunkAction.isCall =
        state.actions.countP ChunkAction.isCall + 1 := by
      simp [ChunkAttempts.called, ChunkAttempts.entered, act, ChunkAction.isCall]
    rw [calls_goes goes, one]
    exact ⟨less.trans entered.le, le_refl _⟩

structure Bounded (settings : AttemptSettings) (budgets : OutputBudgets) (routes : Finset RouteKey)
    (state : ChunkAttempts) : Prop where
  calls : state.actions.countP ChunkAction.isCall ≤ routes.card * (settings.maximum + 2)
  left : state.actions.Pairwise fun earlier later => ∀ key, earlier.leaves key = true → later.calls key = false
  once : ∀ key, state.actions.countP (ChunkAction.enlarges key) ≤ 1
  ceiling : ∀ key outputBudget, .enlarge key outputBudget ∈ state.actions →
    ∃ ceiling, budgets.maxOutputTokens key = some ceiling ∧ outputBudget ≤ ceiling

theorem Sound.enlarges_le (sound : state.Sound settings budgets routes) (key : RouteKey) :
    state.actions.countP (ChunkAction.enlarges key) ≤ 1 := by
  by_cases current : key = state.attemptRoute.key
  · rw [current]
    exact sound.repaired.trans sound.repairs
  · by_cases attempted : key ∈ state.attemptedRoutes
    · exact sound.once key attempted current
    · exact (sound.never key attempted current).trans_le (Nat.zero_le 1)

theorem sound_start (settings : AttemptSettings) (budgets : OutputBudgets) {route : LLMRoute}
    (known : route.key ∈ routes) :
    (start budgets route).Sound settings budgets routes ∧ (start budgets route).actions = [] ∧
      (start budgets route).allowance settings routes ≤ routes.card * (settings.maximum + 2) := by
  have fewer : (routes \ {route.key}).card + 1 = routes.card := by
    rw [Finset.sdiff_singleton_eq_erase, Finset.card_erase_add_one known]
  have sound : ∀ outputBudget outcome, Sound settings budgets routes
      { attemptRoute := route, outputBudget, outcome } := by
    intro outputBudget outcome
    constructor <;> simp [known]
  unfold start
  split
  · refine ⟨sound _ _, rfl, ?_⟩
    simp only [allowance, ChunkAttempts.entered, Option.isSome_none, if_neg Bool.false_ne_true, insert_empty_eq]
    rw [← fewer, Nat.add_mul]
    omega
  · refine ⟨sound _ _, rfl, ?_⟩
    rw [allowance_ended rfl]
    exact Nat.zero_le _

theorem sound_play (sound : state.Sound settings budgets routes) (within : ∀ turn ∈ turns, turn.Within routes) :
    (play (step settings budgets) state turns).Sound settings budgets routes := by
  induction turns generalizing state with
  | nil => exact sound
  | cons turn rest ih =>
      obtain ⟨here, later⟩ := List.forall_mem_cons.mp within
      exact ih (sound.step here) later

theorem play_ended {outcome : ChunkOutcome} (ended : state.outcome = some outcome) (turns : List AttemptTurn) :
    play (step settings budgets) state turns = state := by
  induction turns with
  | nil => rfl
  | cons turn rest ih =>
      have same : state.step settings budgets turn = state := by rw [step, ended, Option.isSome_some, if_pos rfl]
      rw [play_cons, same, ih]

theorem play_allowance (within : ∀ turn ∈ turns, turn.Within routes) :
    (play (step settings budgets) state turns).actions.countP ChunkAction.isCall ≤
        state.actions.countP ChunkAction.isCall + state.allowance settings routes ∧
      ((play (step settings budgets) state turns).outcome = none →
        (play (step settings budgets) state turns).allowance settings routes + turns.length ≤
          state.allowance settings routes) := by
  induction turns generalizing state with
  | nil => exact ⟨Nat.le_add_right _ _, fun _ => le_refl _⟩
  | cons turn rest ih =>
      cases running : state.outcome with
      | some outcome =>
          rw [play_ended running, running]
          exact ⟨Nat.le_add_right _ _, by simp⟩
      | none =>
          obtain ⟨here, later⟩ := List.forall_mem_cons.mp within
          obtain ⟨less, calls⟩ := step_allowance settings budgets running here
          rw [play_cons]
          refine ⟨(ih later).1.trans (by omega), fun going => ?_⟩
          have longer := (ih later).2 going
          rw [List.length_cons]
          omega

end ChunkAttempts

/-- Whatever the providers, the clock, the control and the resolver do, the loop keeps its bounds and ends. -/
theorem chunkAttempts_bounded (settings : AttemptSettings) (budgets : OutputBudgets) {routes : Finset RouteKey}
    {route : LLMRoute} {turns : List AttemptTurn} (known : route.key ∈ routes)
    (within : ∀ turn ∈ turns, turn.Within routes) :
    let state := play (ChunkAttempts.step settings budgets) (ChunkAttempts.start budgets route) turns
    state.Bounded settings budgets routes ∧
      (routes.card * (settings.maximum + 2) ≤ turns.length → state.outcome.isSome = true) := by
  obtain ⟨sound, silent, allowance⟩ := ChunkAttempts.sound_start settings budgets known
  have last := ChunkAttempts.sound_play sound within
  obtain ⟨calls, ends⟩ := ChunkAttempts.play_allowance within
  rw [silent] at calls
  refine ⟨⟨?_, last.apart, last.enlarges_le, last.ceiling⟩, fun long => ?_⟩
  · exact (calls.trans_eq (Nat.zero_add _)).trans allowance
  · by_contra running
    have going := Option.not_isSome_iff_eq_none.mp running
    have used := ends going
    rw [ChunkAttempts.allowance_running going] at used
    omega

theorem chunkAttempts_bounded_fallback :
    let routing : RuntimeRouting :=
      { escalationTier := fun _ => none, isProviderConfigured := fun _ => true, canRoute := fun _ => true
        resolveRoute := fun _ _ => none
        resolveByProvider := fun failed _ => some { failed with provider := "openai", model := "gpt" } }
    let turn : AttemptTurn :=
      { stopped := false, remaining := 600, result := .returned, providerSecondsRemaining := 500,
        remainingSeconds := 500, resolver := routing.fallbackRoute }
    let settings : AttemptSettings := { stageRetryMinRemainingSeconds := 120, providerRateLimitMaxRetries := 1 }
    let budgets : OutputBudgets := { forOperation := fun _ _ => some 8, maxOutputTokens := fun _ => some 12 }
    let state := play (ChunkAttempts.step settings budgets)
      (ChunkAttempts.start budgets
        { provider := "anthropic", model := "opus", modelTier := "top", operation := "spec.generate" })
      [{ turn with result := .rateLimited (.provider true false (some 429)) 2 false },
        { turn with result := .failed .timeout }, turn]
    state.Bounded settings budgets {("anthropic", "opus"), ("openai", "gpt")} ∧
      (2 * 3 ≤ 3 → state.outcome.isSome = true) := by
  intro routing turn settings budgets state
  have known : turn.Within {("anthropic", "opus"), ("openai", "gpt")} := by
    intro failed attempted allowSameProvider fallback found
    obtain ⟨_, _, ⟨tier, resolved⟩ | ⟨excluded, resolved⟩⟩ := RuntimeRouting.fallbackRoute_fresh found
    · contradiction
    · simp [← Option.some.inj resolved, LLMRoute.key]
  refine chunkAttempts_bounded settings budgets (by simp [LLMRoute.key]) ?_
  exact List.forall_mem_cons.mpr ⟨known, List.forall_mem_cons.mpr ⟨known, List.forall_mem_singleton.mpr known⟩⟩

end Thought2Build.Pipeline
