import Mathlib.Data.List.Basic

/-! The parts of a list between the places of a separator. -/

namespace SplitTexts

variable {α : Type} [DecidableEq α] {separator : α} {text part : List α}

theorem part_plain (member : part ∈ text.splitOn separator) : separator ∉ part ∧ part ⊆ text := by
  induction text generalizing part with
  | nil =>
      rw [List.splitOn_nil, List.mem_singleton] at member
      rw [member]
      exact ⟨List.not_mem_nil, List.Subset.refl []⟩
  | cons letter rest ih =>
      rw [List.splitOn_cons_eq_if_modifyHead] at member
      split at member
      · rcases List.mem_cons.mp member with rfl | later
        · exact ⟨List.not_mem_nil, List.nil_subset _⟩
        · exact ⟨(ih later).1, List.subset_cons_of_subset letter (ih later).2⟩
      · rename_i other
        have away : separator ≠ letter := fun same => other (beq_iff_eq.mpr same.symm)
        obtain ⟨first, parts, split⟩ := List.exists_cons_of_ne_nil (List.splitOn_ne_nil separator rest)
        rw [split] at ih
        rw [split, List.modifyHead_cons] at member
        rcases List.mem_cons.mp member with rfl | later
        · obtain ⟨plain, inside⟩ := ih List.mem_cons_self
          exact ⟨List.not_mem_cons_of_ne_of_not_mem away plain, List.cons_subset_cons letter inside⟩
        · obtain ⟨plain, inside⟩ := ih (List.mem_cons_of_mem _ later)
          exact ⟨plain, List.subset_cons_of_subset letter inside⟩

theorem not_mem_part (member : part ∈ text.splitOn separator) : separator ∉ part := (part_plain member).1

theorem part_subset (member : part ∈ text.splitOn separator) : part ⊆ text := (part_plain member).2

end SplitTexts
