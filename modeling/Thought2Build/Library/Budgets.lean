import Mathlib.Algebra.Order.Field.Basic
import Mathlib.Tactic.Linarith
import Thought2Build.Library.Histories

/-! A budget that every grant draws on, and that refills at a rate, bounds the grants in every stretch of time. -/

namespace Budgets

open Histories

variable {σ ε : Type} {K : Type*} [LinearOrder K] {step : σ → ε → σ} {time : ε → K} {granted : σ → ε → Bool}

def InOrder (time : ε → K) (now : K) (events : List ε) : Prop := (now :: events.map time).Pairwise (· ≤ ·)

def grantWithin (time : ε → K) (granted : σ → ε → Bool) (first last : K) (state : σ) (event : ε) : Nat :=
  if granted state event ∧ first ≤ time event ∧ time event ≤ last then 1 else 0

variable {now first last : K} {start : σ} {event : ε} {events rest : List ε}

theorem inOrder_cons : InOrder time now (event :: rest) ↔ now ≤ time event ∧ InOrder time (time event) rest := by
  simp only [InOrder, List.map_cons, List.pairwise_cons, List.mem_cons, List.mem_map, forall_eq_or_imp]
  constructor
  · rintro ⟨⟨soon, _⟩, later, sorted⟩
    exact ⟨soon, later, sorted⟩
  · rintro ⟨soon, later, sorted⟩
    exact ⟨⟨soon, fun other member => soon.trans (later other member)⟩, later, sorted⟩

theorem InOrder.after (order : InOrder time now (rest ++ event :: events)) : InOrder time (time event) events := by
  induction rest generalizing now with
  | nil => exact (inOrder_cons.mp order).2
  | cons first rest ih => exact ih (inOrder_cons.mp order).2

theorem InOrder.le (order : InOrder time now events) (member : event ∈ events) : now ≤ time event :=
  (List.pairwise_cons.mp order).1 (time event) (List.mem_map_of_mem member)

theorem total_passed (passed : last < now) (order : InOrder time now events) :
    total step (grantWithin time granted first last) start events = 0 := by
  induction events generalizing now start with
  | nil => rfl
  | cons event rest ih =>
      obtain ⟨soon, later⟩ := inOrder_cons.mp order
      have behind : last < time event := passed.trans_le soon
      have none : grantWithin time granted first last start event = 0 :=
        if_neg fun within => absurd within.2.2 (not_le.mpr behind)
      rw [total, none, ih behind later]

variable [Field K]

/-- A level that is known for every state from the time on at which it was reached. -/
structure Budget (step : σ → ε → σ) (time : ε → K) (granted : σ → ε → Bool) where
  level : σ → K → K
  capacity : K
  rate : K
  Reached : σ → K → Prop
  reached_step : ∀ state event, Reached state (time event) → Reached (step state event) (time event)
  reached_later : ∀ state now later, now ≤ later → Reached state now → Reached state later
  rate_nonneg : 0 ≤ rate
  nonneg : ∀ state now, Reached state now → 0 ≤ level state now
  full : ∀ state now, level state now ≤ capacity
  rises : ∀ state now later, Reached state now → now ≤ later →
    level state later ≤ level state now + (later - now) * rate
  falls : ∀ state event, Reached state (time event) →
    level (step state event) (time event) + (if granted state event then 1 else 0) ≤ level state (time event)

namespace Budget

variable (budget : Budget step time granted)
include budget

theorem reached_play (reached : budget.Reached start now) (order : InOrder time now (rest ++ event :: events)) :
    budget.Reached (play step start rest) (time event) := by
  induction rest generalizing now start with
  | nil => exact budget.reached_later start now (time event) (inOrder_cons.mp order).1 reached
  | cons first rest ih =>
      obtain ⟨next, later⟩ := inOrder_cons.mp order
      exact ih (budget.reached_step start first (budget.reached_later start now _ next reached)) later

theorem reached_end (reached : budget.Reached start now) (order : InOrder time now events) :
    ∃ last, budget.Reached (play step start events) last := by
  induction events generalizing now start with
  | nil => exact ⟨now, reached⟩
  | cons event rest ih =>
      obtain ⟨next, later⟩ := inOrder_cons.mp order
      exact ih (budget.reached_step start event (budget.reached_later start now _ next reached)) later

variable [IsStrictOrderedRing K]

theorem total_until (reached : budget.Reached start now) (soon : now ≤ last) (order : InOrder time now events) :
    (total step (grantWithin time granted first last) start events : K) ≤
      budget.level start now + (last - now) * budget.rate := by
  induction events generalizing now start with
  | nil =>
      have level := budget.nonneg start now reached
      have risen := mul_nonneg (sub_nonneg.mpr soon) budget.rate_nonneg
      simpa [total] using add_nonneg level risen
  | cons event rest ih =>
      obtain ⟨next, later⟩ := inOrder_cons.mp order
      have here := budget.reached_later start now (time event) next reached
      by_cases within : time event ≤ last
      · have rest := ih (budget.reached_step start event here) within later
        have rises := budget.rises start now (time event) reached next
        have falls := budget.falls start event here
        have paid : ((grantWithin time granted first last start event : Nat) : K) ≤
            if granted start event then 1 else 0 := by
          unfold grantWithin
          split
          · rename_i good
            rw [if_pos good.1, Nat.cast_one]
          · split <;> simp
        rw [total, Nat.cast_add]
        linarith
      · have passed := not_le.mp within
        have none : grantWithin time granted first last start event = 0 := if_neg fun good => within good.2.2
        have level := budget.nonneg start now reached
        have risen := mul_nonneg (sub_nonneg.mpr soon) budget.rate_nonneg
        rw [total, none, total_passed passed later]
        simpa using add_nonneg level risen

theorem total_le (reached : budget.Reached start now) (stretch : first ≤ last) (order : InOrder time now events) :
    (total step (grantWithin time granted first last) start events : K) ≤
      budget.capacity + (last - first) * budget.rate := by
  have full := budget.full start
  induction events generalizing now start with
  | nil =>
      have level := (budget.nonneg start now reached).trans (full now)
      have risen := mul_nonneg (sub_nonneg.mpr stretch) budget.rate_nonneg
      simpa [total] using add_nonneg level risen
  | cons event rest ih =>
      obtain ⟨next, later⟩ := inOrder_cons.mp order
      have here := budget.reached_later start now (time event) next reached
      by_cases early : time event < first
      · have none : grantWithin time granted first last start event = 0 :=
          if_neg fun good => absurd good.2.1 (not_le.mpr early)
        rw [total, none, Nat.zero_add]
        exact ih (budget.reached_step start event here) later (budget.full _)
      · have begun := not_lt.mp early
        by_cases within : time event ≤ last
        · have soon : (total step (grantWithin time granted first last) start (event :: rest) : K) ≤
              budget.level start (time event) + (last - time event) * budget.rate :=
            budget.total_until here within (inOrder_cons.mpr ⟨le_refl _, later⟩)
          have longer := mul_le_mul_of_nonneg_right (sub_le_sub_left begun last) budget.rate_nonneg
          have top := full (time event)
          linarith
        · have none : grantWithin time granted first last start event = 0 := if_neg fun good => within good.2.2
          have level := (budget.nonneg start now reached).trans (full now)
          have risen := mul_nonneg (sub_nonneg.mpr stretch) budget.rate_nonneg
          rw [total, none, total_passed (not_le.mp within) later]
          simpa using add_nonneg level risen

end Budget

end Budgets
