import Mathlib.Order.Basic

/-! Runs of a deterministic system: what a step keeps, a run keeps; what a step spends, a run spends. -/

namespace Histories

variable {σ ε : Type} (step : σ → ε → σ)

def play (start : σ) (events : List ε) : σ := events.foldl step start

@[simp] theorem play_nil (start : σ) : play step start [] = start := rfl

@[simp] theorem play_cons (start : σ) (event : ε) (rest : List ε) :
    play step start (event :: rest) = play step (step start event) rest := rfl

theorem play_append (start : σ) (front back : List ε) :
    play step start (front ++ back) = play step (play step start front) back := by
  simp [play, List.foldl_append]

def Along (meets : σ → ε → Prop) : σ → List ε → Prop
  | _, [] => True
  | state, event :: rest => meets state event ∧ Along meets (step state event) rest

instance Along.decidable {meets : σ → ε → Prop} [∀ state event, Decidable (meets state event)] :
    ∀ start events, Decidable (Along step meets start events)
  | _, [] => isTrue trivial
  | start, event :: rest =>
      have : Decidable (Along step meets (step start event) rest) :=
        Along.decidable (step start event) rest
      inferInstanceAs (Decidable (meets start event ∧ Along step meets (step start event) rest))

def total (amount : σ → ε → Nat) : σ → List ε → Nat
  | _, [] => 0
  | state, event :: rest => amount state event + total amount (step state event) rest

variable {step} {meets : σ → ε → Prop} {start : σ} {events front back : List ε}

theorem along_append :
    Along step meets start (front ++ back) ↔
      Along step meets start front ∧ Along step meets (play step start front) back := by
  induction front generalizing start with
  | nil => simp [Along]
  | cons event rest ih => simp [Along, ih, and_assoc]

theorem total_append {amount : σ → ε → Nat} : total step amount start (front ++ back) =
    total step amount start front + total step amount (play step start front) back := by
  induction front generalizing start with
  | nil => simp [total]
  | cons event rest ih => simp [total, ih, Nat.add_assoc]

theorem along_iff : Along step meets start events ↔
    ∀ front event back, events = front ++ event :: back → meets (play step start front) event := by
  induction events generalizing start with
  | nil => simp [Along]
  | cons first rest ih =>
      rw [Along, ih]
      constructor
      · rintro ⟨now, later⟩ front event back split
        cases front with
        | nil =>
            obtain ⟨rfl, rfl⟩ := List.cons.inj split
            exact now
        | cons other front =>
            obtain ⟨rfl, rfl⟩ := List.cons.inj split
            exact later front event back rfl
      · intro every
        refine ⟨every [] first rest rfl, ?_⟩
        intro front event back split
        exact every (first :: front) event back (by rw [split]; rfl)

theorem Along.invariant {Holds : σ → Prop}
    (kept : ∀ state event, Holds state → meets state event → Holds (step state event))
    (along : Along step meets start events) (holds : Holds start) :
    Holds (play step start events) := by
  induction events generalizing start with
  | nil => exact holds
  | cons event rest ih => exact ih along.2 (kept start event holds along.1)

theorem invariant {Holds : σ → Prop} (kept : ∀ state event, Holds state → Holds (step state event))
    (holds : Holds start) (events : List ε) : Holds (play step start events) := by
  induction events generalizing start with
  | nil => exact holds
  | cons event rest ih => exact ih (kept start event holds)

/-- If every step takes its amount from a budget, the total and what is left of the budget fit into
the budget of the start. -/
theorem Along.total_le {Holds : σ → Prop} {amount : σ → ε → Nat} (budget : σ → Nat)
    (kept : ∀ state event, Holds state → meets state event → Holds (step state event))
    (spent : ∀ state event, Holds state → meets state event →
      amount state event + budget (step state event) ≤ budget state)
    (along : Along step meets start events) (holds : Holds start) :
    total step amount start events + budget (play step start events) ≤ budget start := by
  induction events generalizing start with
  | nil => simp [total]
  | cons event rest ih =>
      have later := ih along.2 (kept start event holds along.1)
      have now := spent start event holds along.1
      simp only [total, play_cons]
      omega

theorem Along.total_eq {Holds : σ → Prop} {amount : σ → ε → Nat} (level : σ → Nat)
    (kept : ∀ state event, Holds state → meets state event → Holds (step state event))
    (raised : ∀ state event, Holds state → meets state event →
      level state + amount state event = level (step state event))
    (along : Along step meets start events) (holds : Holds start) :
    level start + total step amount start events = level (play step start events) := by
  induction events generalizing start with
  | nil => simp [total]
  | cons event rest ih =>
      have later := ih along.2 (kept start event holds along.1)
      have now := raised start event holds along.1
      simp only [total, play_cons]
      omega

end Histories
