import Mathlib.Data.List.Induction
import Mathlib.Data.List.Sort

/-!
Registers in which the latest write wins. A write older than the one that is kept is dropped; where no two
writes of one time differ, neither the order of the writes nor their number matters.
-/

namespace LatestWrites

variable {τ α : Type} [LinearOrder τ]

structure Register (τ α : Type) where
  time : Option τ
  value : α

def Register.outdated (register : Register τ α) (time : τ) : Bool := register.time.any (time < ·)

def Register.put (register : Register τ α) (write : τ × α) : Register τ α :=
  if register.outdated write.1 then register else ⟨some write.1, write.2⟩

variable {register : Register τ α} {writes others : List (τ × α)} {time later : τ}

theorem outdated_iff : register.outdated time = true ↔ ∃ kept, register.time = some kept ∧ time < kept := by
  simp [Register.outdated, Option.any_eq_true]

theorem outdated_of_le (outdated : register.outdated later = true) (le : time ≤ later) :
    register.outdated time = true := by
  obtain ⟨kept, held, before⟩ := outdated_iff.mp outdated
  exact outdated_iff.mpr ⟨kept, held, lt_of_le_of_lt le before⟩

theorem lt_of_outdated (outdated : register.outdated time = true) (counts : register.outdated later = false) :
    time < later := by
  by_contra reach
  rw [outdated_of_le outdated (le_of_not_gt reach)] at counts
  contradiction

/-- What a register holds after some writes: what it held, or the latest of them. -/
inductive Settled (register : Register τ α) (writes : List (τ × α)) : Register τ α → Prop where
  | kept (outdated : ∀ write ∈ writes, register.outdated write.1 = true) : Settled register writes register
  | latest {write : τ × α} (member : write ∈ writes) (counts : register.outdated write.1 = false)
      (newest : ∀ other ∈ writes, other.1 ≤ write.1) : Settled register writes ⟨some write.1, write.2⟩

theorem settled_put {after : Register τ α} (settled : Settled register writes after) (write : τ × α) :
    Settled register (writes ++ [write]) (after.put write) := by
  unfold Register.put
  cases settled with
  | kept outdated =>
      split
      · rename_i old
        refine .kept ?_
        intro other member
        rcases List.mem_append.mp member with before | last
        · exact outdated other before
        · rwa [List.mem_singleton.mp last]
      · rename_i counts
        rw [Bool.not_eq_true] at counts
        refine .latest (List.mem_append_right _ (List.mem_singleton_self _)) counts ?_
        intro other member
        rcases List.mem_append.mp member with before | last
        · exact (lt_of_outdated (outdated other before) counts).le
        · exact (List.mem_singleton.mp last ▸ le_refl _)
  | @latest former member counts newest =>
      have dropped : (⟨some former.1, former.2⟩ : Register τ α).outdated write.1 = true ↔ write.1 < former.1 := by
        simp [Register.outdated]
      split
      · rename_i old
        refine .latest (List.mem_append_left _ member) counts ?_
        intro other held
        rcases List.mem_append.mp held with before | last
        · exact newest other before
        · rw [List.mem_singleton.mp last]
          exact (dropped.mp old).le
      · rename_i fresh
        have reach : former.1 ≤ write.1 := le_of_not_gt fun before => fresh (dropped.mpr before)
        refine .latest (List.mem_append_right _ (List.mem_singleton_self _)) ?_ ?_
        · by_contra old
          rw [Bool.not_eq_false] at old
          rw [outdated_of_le old reach] at counts
          contradiction
        · intro other held
          rcases List.mem_append.mp held with before | last
          · exact (newest other before).trans reach
          · exact (List.mem_singleton.mp last ▸ le_refl _)

theorem settled_foldl (register : Register τ α) (writes : List (τ × α)) :
    Settled register writes (writes.foldl Register.put register) := by
  induction writes using List.reverseRecOn with
  | nil => exact .kept (by simp)
  | append_singleton front last ih =>
      rw [List.foldl_append]
      exact settled_put ih last

theorem Settled.unique {first second : Register τ α} (settled : Settled register writes first)
    (other : Settled register others second) (same : ∀ write, write ∈ writes ↔ write ∈ others)
    (distinct : ∀ write ∈ writes, ∀ other ∈ writes, write.1 = other.1 → write = other) : first = second := by
  cases settled with
  | kept outdated =>
      cases other with
      | kept => rfl
      | latest member counts newest =>
          rw [outdated _ ((same _).mpr member)] at counts
          contradiction
  | @latest write member counts newest =>
      cases other with
      | kept outdated =>
          rw [outdated _ ((same _).mp member)] at counts
          contradiction
      | @latest rival held _ reach =>
          have equal : write = rival := distinct write member rival ((same _).mpr held)
            (le_antisymm (reach write ((same _).mp member)) (newest rival ((same _).mpr held)))
          rw [equal]

/-! Writes that have been made -/

def Register.Covers (register : Register τ α) (write : τ × α) : Prop :=
  ∃ kept, register.time = some kept ∧ write.1 ≤ kept ∧ (write.1 = kept → register.value = write.2)

theorem covers_put (register : Register τ α) (write : τ × α) : (register.put write).Covers write := by
  unfold Register.put
  split
  · rename_i old
    obtain ⟨kept, held, before⟩ := outdated_iff.mp old
    exact ⟨kept, held, before.le, fun same => absurd same before.ne⟩
  · exact ⟨write.1, rfl, le_refl _, fun _ => rfl⟩

theorem Register.Covers.put {write other : τ × α} (covers : register.Covers other)
    (agree : other.1 = write.1 → other.2 = write.2) : (register.put write).Covers other := by
  obtain ⟨kept, held, reach, value⟩ := covers
  unfold Register.put
  split
  · exact ⟨kept, held, reach, value⟩
  · rename_i counts
    have later : kept ≤ write.1 := le_of_not_gt fun before => counts (outdated_iff.mpr ⟨kept, held, before⟩)
    exact ⟨write.1, rfl, reach.trans later, fun same => (agree same).symm⟩

theorem Register.Covers.value_of_counts {write : τ × α} (covers : register.Covers write)
    (counts : register.outdated write.1 = false) : register = ⟨some write.1, write.2⟩ := by
  obtain ⟨kept, held, reach, value⟩ := covers
  have same : write.1 = kept := by
    refine le_antisymm reach (le_of_not_gt fun before => ?_)
    rw [outdated_iff.mpr ⟨kept, held, before⟩] at counts
    contradiction
  obtain ⟨time, content⟩ := register
  simp only at held value
  rw [held, same, value same]

theorem Register.Covers.put_self {write : τ × α} (covers : register.Covers write) :
    register.put write = register := by
  unfold Register.put
  split
  · rfl
  · rename_i counts
    exact (covers.value_of_counts (by simpa using counts)).symm

end LatestWrites
