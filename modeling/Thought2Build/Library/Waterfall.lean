import Thought2Build.Library.Rows

/-!
Greedy draining: a need is met from vessels in order, each giving what it has. Draining twice
takes from every vessel what draining once for both needs does.
-/

namespace Waterfall

open Rows

variable {α : Type}

/-- What `vessel` gives when `need` is met from the vessels in order. -/
def poured [DecidableEq α] (capacity : α → Int) : List α → Int → α → Int
  | [], _, _ => 0
  | vessel :: vessels, need, other =>
      (if other = vessel then min (capacity vessel) need else 0) +
        poured capacity vessels (need - min (capacity vessel) need) other

/-- The part of the need that all vessels together do not meet. -/
def overflow (capacity : α → Int) : List α → Int → Int
  | [], need => need
  | vessel :: vessels, need =>
      overflow capacity vessels (need - min (capacity vessel) need)

section

variable {capacity capacity' : α → Int} {vessels : List α} {need first second : Int} {vessel : α}

section

attribute [local simp] poured overflow

end

theorem overflow_congr (same : ∀ vessel ∈ vessels, capacity vessel = capacity' vessel)
    (need : Int) : overflow capacity vessels need = overflow capacity' vessels need := by
  induction vessels generalizing need with
  | nil => rfl
  | cons vessel vessels ih =>
      simp only [overflow]
      rw [same vessel List.mem_cons_self,
        ih (fun later member => same later (List.mem_cons_of_mem _ member))]

theorem overflow_bounds (nonneg : ∀ vessel ∈ vessels, 0 ≤ capacity vessel) (needed : 0 ≤ need) :
    0 ≤ overflow capacity vessels need ∧ overflow capacity vessels need ≤ need := by
  induction vessels generalizing need with
  | nil => exact ⟨needed, le_rfl⟩
  | cons first vessels ih =>
      have head := nonneg first List.mem_cons_self
      have later := @ih (need - min (capacity first) need)
        (fun vessel member => nonneg vessel (List.mem_cons_of_mem _ member)) (by omega)
      simp only [overflow]
      omega

theorem overflow_filter {kept : α → Bool} (needed : 0 ≤ need)
    (dropped : ∀ vessel ∈ vessels, kept vessel = false → capacity vessel = 0) :
    overflow capacity (vessels.filter kept) need = overflow capacity vessels need := by
  induction vessels generalizing need with
  | nil => rfl
  | cons vessel vessels ih =>
      have later := fun other member => dropped other (List.mem_cons_of_mem vessel member)
      cases keep : kept vessel with
      | true =>
          rw [List.filter_cons_of_pos keep, overflow, overflow, ih (by omega) later]
      | false =>
          rw [List.filter_cons_of_neg (by simp [keep]), overflow,
            dropped vessel List.mem_cons_self keep, min_eq_left needed, Int.sub_zero,
            ih needed later]

variable [DecidableEq α]

theorem poured_filter {kept : α → Bool} (needed : 0 ≤ need)
    (dropped : ∀ vessel ∈ vessels, kept vessel = false → capacity vessel = 0) :
    poured capacity (vessels.filter kept) need = poured capacity vessels need := by
  funext other
  induction vessels generalizing need with
  | nil => rfl
  | cons vessel vessels ih =>
      have later := fun other member => dropped other (List.mem_cons_of_mem vessel member)
      cases keep : kept vessel with
      | true =>
          rw [List.filter_cons_of_pos keep, poured, poured, ih (by omega) later]
      | false =>
          rw [List.filter_cons_of_neg (by simp [keep]), poured,
            dropped vessel List.mem_cons_self keep, min_eq_left needed, Int.sub_zero,
            ih needed later, ite_self, Int.zero_add]

theorem poured_congr (same : ∀ vessel ∈ vessels, capacity vessel = capacity' vessel)
    (need : Int) : poured capacity vessels need = poured capacity' vessels need := by
  funext other
  induction vessels generalizing need with
  | nil => rfl
  | cons vessel vessels ih =>
      simp only [poured]
      rw [same vessel List.mem_cons_self,
        ih (fun later member => same later (List.mem_cons_of_mem _ member))]

theorem poured_absent (absent : vessel ∉ vessels) (need : Int) :
    poured capacity vessels need vessel = 0 := by
  induction vessels generalizing need with
  | nil => rfl
  | cons here vessels ih =>
      obtain ⟨different, later⟩ := not_or.mp (mt List.mem_cons.mpr absent)
      simp [poured, different, ih later]

theorem poured_zero (nonneg : ∀ vessel ∈ vessels, 0 ≤ capacity vessel) :
    poured capacity vessels 0 vessel = 0 := by
  induction vessels with
  | nil => rfl
  | cons here vessels ih =>
      have ih := ih fun later member => nonneg later (List.mem_cons_of_mem _ member)
      simp [poured, min_eq_right (nonneg here List.mem_cons_self), ih]

theorem poured_bounds (nonneg : ∀ vessel ∈ vessels, 0 ≤ capacity vessel)
    (distinct : vessels.Nodup) (needed : 0 ≤ need) (here : 0 ≤ capacity vessel) :
    0 ≤ poured capacity vessels need vessel ∧
      poured capacity vessels need vessel ≤ capacity vessel := by
  induction vessels generalizing need with
  | nil => exact ⟨le_rfl, here⟩
  | cons first vessels ih =>
      obtain ⟨fresh, distinct⟩ := List.nodup_cons.mp distinct
      have head := nonneg first List.mem_cons_self
      by_cases same : vessel = first
      · subst same
        simp only [poured, if_true, poured_absent fresh]
        omega
      · simp only [poured, same, if_false, Int.zero_add]
        exact ih (fun later member => nonneg later (List.mem_cons_of_mem _ member)) distinct
          (by omega)

theorem remaining_tail (fresh : vessel ∉ vessels) :
    ∀ other ∈ vessels,
      capacity other - poured capacity (vessel :: vessels) need other =
        capacity other -
          poured capacity vessels (need - min (capacity vessel) need) other := by
  intro other member
  have different : other ≠ vessel := by
    rintro rfl
    exact fresh member
  simp [poured, different]

theorem poured_head (fresh : vessel ∉ vessels) :
    poured capacity (vessel :: vessels) need vessel = min (capacity vessel) need := by
  simp [poured, poured_absent fresh]

theorem need_behind {room : Int} (secondNonneg : 0 ≤ second) :
    first + second - min room (first + second) =
      (first - min room first) + (second - min (room - min room first) second) := by
  rcases le_total room first with full | partly
  · rw [min_eq_left full, min_eq_left (full.trans (le_add_of_nonneg_right secondNonneg)), sub_self,
      min_eq_left secondNonneg]
    omega
  · rw [min_eq_right partly]
    rcases le_total (room - first) second with full | partly
    · rw [min_eq_left full, min_eq_left (sub_le_iff_le_add'.mp full)]
      omega
    · rw [min_eq_right partly, min_eq_right (le_sub_iff_add_le'.mp partly)]
      omega

theorem poured_add (nonneg : ∀ vessel ∈ vessels, 0 ≤ capacity vessel) (distinct : vessels.Nodup)
    (firstNonneg : 0 ≤ first) (secondNonneg : 0 ≤ second) :
    poured capacity vessels (first + second) vessel =
      poured capacity vessels first vessel +
        poured (fun other => capacity other - poured capacity vessels first other) vessels second
          vessel := by
  induction vessels generalizing first second with
  | nil => rfl
  | cons head vessels ih =>
      obtain ⟨fresh, distinct⟩ := List.nodup_cons.mp distinct
      have here := nonneg head List.mem_cons_self
      have later := fun other member => nonneg other (List.mem_cons_of_mem head member)
      have tail := @ih (first - min (capacity head) first)
        (second - min (capacity head - min (capacity head) first) second) later distinct
        (by omega) (by omega)
      rw [poured, need_behind secondNonneg, tail, poured, poured, poured_head fresh,
        poured_congr (remaining_tail fresh)]
      by_cases same : vessel = head
      · simp only [same, if_true]
        linarith only [@need_behind first second (capacity head) secondNonneg]
      · simp only [same, if_false, zero_add]

theorem overflow_add (nonneg : ∀ vessel ∈ vessels, 0 ≤ capacity vessel) (distinct : vessels.Nodup)
    (firstNonneg : 0 ≤ first) (secondNonneg : 0 ≤ second) :
    overflow capacity vessels (first + second) =
      overflow capacity vessels first +
        overflow (fun other => capacity other - poured capacity vessels first other) vessels
          second := by
  induction vessels generalizing first second with
  | nil => rfl
  | cons head vessels ih =>
      obtain ⟨fresh, distinct⟩ := List.nodup_cons.mp distinct
      have here := nonneg head List.mem_cons_self
      have later := fun other member => nonneg other (List.mem_cons_of_mem head member)
      have tail := @ih (first - min (capacity head) first)
        (second - min (capacity head - min (capacity head) first) second) later distinct
        (by omega) (by omega)
      rw [overflow, need_behind secondNonneg, tail, overflow, overflow, poured_head fresh,
        overflow_congr (remaining_tail fresh)]

end

end Waterfall
