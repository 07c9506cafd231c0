import Mathlib.Data.List.Range

/-! First fit: a request takes the lowest slot below a limit that is not taken. -/

namespace FirstFit

variable {β : Type} [DecidableEq β] (slot : Nat → β)

def free (taken : List β) (bound : Nat) : Nat := (List.range bound).countP (slot · ∉ taken)

def seek (taken : List β) : Nat → Nat → Option Nat
  | 0, _ => none
  | fuel + 1, index => if slot index ∉ taken then some index else seek taken fuel (index + 1)

def lowest (limit : Nat) (taken : List β) : Option Nat := seek slot taken limit 0

variable {slot} {taken : List β} {bound lower upper index limit : Nat}

section

attribute [local simp] seek

end

@[simp] theorem free_zero : free slot taken 0 = 0 := rfl

theorem free_succ : free slot taken (bound + 1) = free slot taken bound + if slot bound ∈ taken then 0 else 1 := by
  rw [free, List.range_succ, List.countP_append, free]
  by_cases member : slot bound ∈ taken <;> simp [member]

theorem free_mono (le : lower ≤ upper) : free slot taken lower ≤ free slot taken upper := by
  induction le with
  | refl => exact Nat.le_refl _
  | step _ ih =>
      rw [free_succ]
      omega

theorem free_lt (vacant : slot lower ∉ taken) (below : lower < upper) :
    free slot taken lower < free slot taken upper := by
  have next : free slot taken (lower + 1) = free slot taken lower + 1 := by simp [free_succ, vacant]
  have later : free slot taken (lower + 1) ≤ free slot taken upper := free_mono below
  omega

theorem free_eq_zero : free slot taken bound = 0 ↔ ∀ index < bound, slot index ∈ taken := by
  simp [free, List.countP_eq_zero]

theorem seek_eq_none {fuel start : Nat} : seek slot taken fuel start = none ↔
    ∀ index, start ≤ index → index < start + fuel → slot index ∈ taken := by
  induction fuel generalizing start with
  | zero =>
      simp only [seek, true_iff]
      omega
  | succ fuel ih =>
      by_cases member : slot start ∈ taken
      · rw [seek, if_neg (by simpa using member), ih]
        constructor
        · intro later index lower upper
          rcases Nat.eq_or_lt_of_le lower with rfl | above
          · exact member
          · exact later index above (by omega)
        · intro all index lower upper
          exact all index (by omega) (by omega)
      · rw [seek, if_pos member]
        simp only [reduceCtorEq, false_iff, not_forall]
        exact ⟨start, Nat.le_refl _, by omega, member⟩

theorem seek_eq_some {fuel start : Nat} : seek slot taken fuel start = some index ↔
    start ≤ index ∧ index < start + fuel ∧ slot index ∉ taken ∧
      ∀ other, start ≤ other → other < index → slot other ∈ taken := by
  induction fuel generalizing start with
  | zero =>
      simp only [seek, reduceCtorEq, false_iff, not_and]
      omega
  | succ fuel ih =>
      by_cases member : slot start ∈ taken
      · rw [seek, if_neg (by simpa using member), ih]
        constructor
        · rintro ⟨lower, upper, vacant, earlier⟩
          refine ⟨by omega, by omega, vacant, fun other above below => ?_⟩
          rcases Nat.eq_or_lt_of_le above with rfl | later
          · exact member
          · exact earlier other later below
        · rintro ⟨lower, upper, vacant, earlier⟩
          have apart : start ≠ index := fun same => vacant (same ▸ member)
          exact ⟨by omega, by omega, vacant, fun other above below => earlier other (by omega) below⟩
      · rw [seek, if_pos member, Option.some_inj]
        constructor
        · rintro rfl
          exact ⟨Nat.le_refl _, by omega, member, by omega⟩
        · rintro ⟨lower, _, vacant, earlier⟩
          by_contra apart
          exact member (earlier start (Nat.le_refl _) (by omega))

theorem lowest_eq_none : lowest slot limit taken = none ↔ free slot taken limit = 0 := by
  simp [lowest, seek_eq_none, free_eq_zero]

theorem lowest_eq_some : lowest slot limit taken = some index ↔
    index < limit ∧ slot index ∉ taken ∧ free slot taken index = 0 := by
  simp [lowest, seek_eq_some, free_eq_zero]

theorem free_cons_other {value : β} (other : ∀ index < bound, slot index ≠ value) :
    free slot (value :: taken) bound = free slot taken bound := by
  apply List.countP_congr
  intro index member
  simp [other index (List.mem_range.mp member)]

theorem exists_free {rank : Nat} (more : rank < free slot taken bound) :
    ∃ index < bound, slot index ∉ taken ∧ free slot taken index = rank := by
  induction bound with
  | zero => simp at more
  | succ bound ih =>
      rw [free_succ] at more
      by_cases here : rank < free slot taken bound
      · obtain ⟨index, below, found⟩ := ih here
        exact ⟨index, by omega, found⟩
      · by_cases member : slot bound ∈ taken
        · simp only [member, if_true] at more
          omega
        · simp only [member, if_false] at more
          exact ⟨bound, by omega, member, by omega⟩

theorem free_cons_slot (vacant : slot index ∉ taken) (below : index < bound)
    (single : ∀ other < bound, slot other = slot index → other = index) :
    free slot (slot index :: taken) bound + 1 = free slot taken bound := by
  induction bound with
  | zero => omega
  | succ bound ih =>
      rw [free_succ, free_succ]
      by_cases last : index = bound
      · subst last
        have same : free slot (slot index :: taken) index = free slot taken index := by
          apply free_cons_other
          intro other lower same
          have := single other (by omega) same
          omega
        simp [same, vacant]
      · have rest := ih (by omega) fun other lower => single other (by omega)
        have apart : slot bound ≠ slot index := fun same => last (single bound (by omega) same).symm
        simp only [List.mem_cons, apart, false_or]
        omega

end FirstFit
