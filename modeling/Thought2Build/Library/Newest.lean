import Mathlib.Data.List.MinMax

/-! How many rows of its group are newer than a row, by a number; and what this becomes as rows go. -/

namespace Newest

variable {α κ : Type} [DecidableEq κ] (group : α → κ) (number : α → Nat)

def rank (rows : List α) (row : α) : Nat :=
  rows.countP fun other => group other = group row ∧ number row < number other

variable {group number} {rows : List α} {row : α} {keep : Nat}

theorem rank_append (more : List α) : rank group number rows row ≤ rank group number (rows ++ more) row := by
  simp [rank, List.countP_append]

theorem rank_map {change : α → α} (groups : ∀ other, group (change other) = group other)
    (numbers : ∀ other, number (change other) = number other) (row : α) :
    rank group number (rows.map change) (change row) = rank group number rows row := by
  simp [rank, List.countP_map, Function.comp_def, groups, numbers]

/-- The newest of the rows that go has only rows that stay above it. So if each of them has `keep` rows above it, a
row that had `keep` rows above it has so still. -/
theorem rank_filter (stays : α → Bool)
    (deep : ∀ other ∈ rows, stays other = false → group other = group row → keep ≤ rank group number rows other)
    (old : keep ≤ rank group number rows row) : keep ≤ rank group number (rows.filter stays) row := by
  let above := fun other => decide (group other = group row ∧ number row < number other)
  let gone := rows.filter fun other => above other && !stays other
  rw [rank, List.countP_filter]
  cases last : gone.argmax number with
  | none =>
      have none := List.argmax_eq_none.mp last
      refine old.trans (List.countP_mono_left fun other member newer => ?_)
      by_contra goes
      have lost : other ∈ gone := List.mem_filter.mpr ⟨member, by simp_all [above]⟩
      rw [none] at lost
      simp at lost
  | some newest =>
      have member := List.argmax_mem last
      obtain ⟨held, goes⟩ := List.mem_filter.mp member
      simp only [above, Bool.and_eq_true, decide_eq_true_eq, Bool.not_eq_true'] at goes
      obtain ⟨⟨own, higher⟩, leaves⟩ := goes
      refine (deep newest held leaves own).trans (List.countP_mono_left fun other present newer => ?_)
      simp only [decide_eq_true_eq] at newer
      have counts : above other = true := decide_eq_true ⟨newer.1.trans own, higher.trans newer.2⟩
      by_contra lost
      have also : other ∈ gone := List.mem_filter.mpr ⟨present, by simp_all [above]⟩
      have most : number other ≤ number newest := List.le_of_mem_argmax also last
      omega

end Newest
