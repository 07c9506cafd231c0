/-! Binary search for the last number that meets a condition. -/

namespace Bisection

/-- The window from `low` to `high`, halved as often as there is fuel -/
def last (fits : Nat → Bool) : Nat → Nat → Nat → Nat
  | 0, low, _ => low
  | fuel + 1, low, high =>
      if low < high then
        let middle := (low + high + 1) / 2
        if fits middle then last fits fuel middle high else last fits fuel low (middle - 1)
      else low

theorem last_spec {fits : Nat → Bool} {fuel low high : Nat} (falls : ∀ less more, less ≤ more → fits more = true →
    fits less = true) (enough : high - low ≤ fuel) (window : low ≤ high) (start : fits low = true) :
    fits (last fits fuel low high) = true ∧ last fits fuel low high ≤ high ∧
      ∀ more, more ≤ high → fits more = true → more ≤ last fits fuel low high := by
  induction fuel generalizing low high with
  | zero =>
      have same : low = high := by omega
      exact ⟨start, window, fun more within _ => same ▸ within⟩
  | succ fuel ih =>
      rw [last]
      split
      · rename_i wide
        dsimp only
        have above : low < (low + high + 1) / 2 := by omega
        have below : (low + high + 1) / 2 ≤ high := by omega
        generalize (low + high + 1) / 2 = middle at above below ⊢
        split
        · rename_i holds
          exact ih (by omega) below holds
        · rename_i fails
          obtain ⟨found, bound, most⟩ := @ih low (middle - 1) (by omega) (Nat.le_pred_of_lt above) start
          refine ⟨found, Nat.le_trans bound (Nat.le_trans (Nat.pred_le middle) below), fun more within good => ?_⟩
          by_cases small : more ≤ middle - 1
          · exact most more small good
          · exact absurd (falls middle more (Nat.le_of_pred_lt (Nat.not_le.mp small)) good) fails
      · rename_i narrow
        exact ⟨start, window, fun more within _ => Nat.le_trans within (Nat.not_lt.mp narrow)⟩

end Bisection
