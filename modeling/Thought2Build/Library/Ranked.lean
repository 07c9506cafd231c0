import Mathlib.Logic.Relation
import Mathlib.Data.Finset.Card
import Mathlib.Data.Finset.Range
import Mathlib.Order.Interval.Finset.Nat

/-!
Relations with a rank. A rank falls along every edge, so a ranked relation has no
cycle; and new edges keep a relation ranked as long as they only end in sinks.
-/

variable {α : Type}

def Ranked (edge : α → α → Prop) : Prop :=
  ∃ rank : α → Nat, ∀ source target, edge source target → rank target < rank source

namespace Ranked

variable {edge edge' : α → α → Prop}

theorem mono (ranked : Ranked edge) (fewer : ∀ source target, edge' source target →
    edge source target) : Ranked edge' := by
  obtain ⟨rank, falls⟩ := ranked
  exact ⟨rank, fun source target found => falls source target (fewer source target found)⟩

theorem acyclic (ranked : Ranked edge) (node : α) : ¬Relation.TransGen edge node node := by
  obtain ⟨rank, falls⟩ := ranked
  have descends : ∀ {source target}, Relation.TransGen edge source target →
      rank target < rank source := by
    intro source target path
    induction path with
    | single found => exact falls _ _ found
    | tail _ found ih => exact (falls _ _ found).trans ih
  exact fun cycle => (descends cycle).false

theorem extend (ranked : Ranked edge) (added : ∀ source target, edge' source target →
    edge source target ∨ ∀ next, ¬edge' target next) : Ranked edge' := by
  classical
  obtain ⟨rank, falls⟩ := ranked
  refine ⟨fun node => if ∀ next, ¬edge' node next then 0 else rank node + 1,
    fun source target found => ?_⟩
  have sourceInner : ¬∀ next, ¬edge' source next := fun sink => sink target found
  beta_reduce
  rw [if_neg sourceInner]
  by_cases sink : ∀ next, ¬edge' target next
  · rw [if_pos sink]
    omega
  · rw [if_neg sink]
    have := falls source target ((added source target found).resolve_right sink)
    omega

theorem bounded {edge : Nat → Nat → Prop} (ranked : Ranked edge) {count : Nat}
    (within : ∀ source target, edge source target → target < count) :
    ∃ rank : Nat → Nat, (∀ source target, edge source target → rank target < rank source) ∧
      ∀ node, rank node ≤ count := by
  obtain ⟨rank, falls⟩ := ranked
  refine ⟨fun node => ((Finset.range count).filter fun other => rank other < rank node).card,
    fun source target found => ?_, fun node => ?_⟩
  · have lower := falls source target found
    apply Finset.card_lt_card
    refine Finset.ssubset_iff_subset_ne.mpr ⟨fun other member => ?_, fun same => ?_⟩
    · rw [Finset.mem_filter] at member ⊢
      exact ⟨member.1, member.2.trans lower⟩
    · have present : target ∈ (Finset.range count).filter fun other => rank other < rank source :=
        Finset.mem_filter.mpr ⟨Finset.mem_range.mpr (within source target found), lower⟩
      rw [← same, Finset.mem_filter] at present
      exact present.2.false
  · calc _ ≤ (Finset.range count).card := Finset.card_filter_le _ _
      _ = count := Finset.card_range count

end Ranked
