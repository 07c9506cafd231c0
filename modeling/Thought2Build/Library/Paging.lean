import Mathlib.Data.List.Sort
import Mathlib.Data.List.Range
import Mathlib.Order.Basic

/-! Paging through an ordered list: a cursor remembers a key, a page is the next few items past it. -/

namespace Paging

variable {α ι : Type} {size : Nat} {items front back : List α}

theorem pages_flatten (items : List α) (size count : Nat) :
    (List.range count).flatMap (fun page => (items.drop (page * size)).take size) =
      items.take (count * size) := by
  induction count with
  | zero => simp
  | succ count ih =>
      rw [List.range_succ, List.flatMap_append, ih, Nat.succ_mul, List.take_add]
      simp

theorem length_lt_pages (positive : 0 < size) (items : List α) :
    items.length < (items.length / size + 1) * size := by
  have := Nat.lt_mul_div_succ items.length positive
  rwa [Nat.mul_comm] at this

theorem take_pages (positive : 0 < size) (items : List α) :
    items.take ((items.length / size + 1) * size) = items :=
  List.take_of_length_le (length_lt_pages positive items).le

theorem two_stretches (positive : 0 < size) {first second total : Nat}
    (fits : first + second < total) : second ≤ (total / size - first / size + 1) * size := by
  have below : first / size ≤ total / size := Nat.div_le_div_right (by omega)
  have upper := Nat.lt_mul_div_succ total positive
  have lower := Nat.div_mul_le_self first size
  have split : (total / size - first / size + 1) * size + first / size * size =
      size * (total / size + 1) := by
    rw [← Nat.add_mul, Nat.mul_comm]
    congr 1
    omega
  omega

variable [LinearOrder ι] {key : α → ι} {cursor : ι}

def past (key : α → ι) (cursor : ι) (items : List α) : List α :=
  items.filter fun item => cursor < key item

@[simp] theorem mem_past {item : α} : item ∈ past key cursor items ↔ item ∈ items ∧ cursor < key item := by
  simp [past]

theorem past_of_forall (all : ∀ item ∈ items, cursor < key item) : past key cursor items = items := by
  rw [past, List.filter_eq_self]
  intro item member
  exact decide_eq_true (all item member)

theorem past_past {later : ι} (forward : cursor ≤ later) :
    past key later (past key cursor items) = past key later items := by
  rw [past, past, List.filter_filter]
  apply List.filter_congr
  intro item _
  by_cases beyond : later < key item
  · simp [beyond, forward.trans_lt beyond]
  · simp [beyond]

theorem past_split {last : α}
    (ascending : (front ++ last :: back).Pairwise fun first second => key first < key second) :
    past key (key last) (front ++ last :: back) = back := by
  obtain ⟨-, tail, between⟩ := List.pairwise_append.mp ascending
  obtain ⟨behind, -⟩ := List.pairwise_cons.mp tail
  rw [past, List.filter_append, List.filter_eq_nil_iff.mpr, List.nil_append,
    List.filter_cons_of_neg (by simp), List.filter_eq_self]
  · intro item member
    exact decide_eq_true (behind item member)
  · intro item member
    have := between item member last List.mem_cons_self
    simpa using this.le

theorem past_advance {start : α}
    (ascending : items.Pairwise fun first second => key first < key second)
    (unread : past key (key start) items = front ++ back) :
    past key (key (front.getLastD start)) items = back := by
  rcases List.eq_nil_or_concat front with rfl | ⟨initial, last, rfl⟩
  · exact unread
  · rw [List.concat_eq_append] at unread ⊢
    have sorted := ascending.filter (fun item => decide (key start < key item))
    rw [show items.filter _ = _ from unread, List.append_assoc] at sorted
    have forward : key start < key last := by
      have member : last ∈ past key (key start) items := by simp [unread]
      exact (mem_past.mp member).2
    rw [show (initial ++ [last]).getLastD start = last by simp, ← past_past forward.le, unread,
      List.append_assoc]
    exact past_split sorted

end Paging
