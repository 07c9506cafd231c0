import Mathlib.Data.List.AList

/-! Workers under way: each has a key and stands at some point of its task. -/

abbrev Workers (π : Type) := AList fun _ : Nat => π

namespace Workers

variable {π : Type} {workers : Workers π} {holds weaker : Nat → π → Prop} {key : Nat} {point : π}

def All (workers : Workers π) (holds : Nat → π → Prop) : Prop :=
  ∀ key ∈ workers.keys, ∀ point ∈ workers.lookup key, holds key point

instance [∀ key point, Decidable (holds key point)] : Decidable (workers.All holds) := by
  unfold All; infer_instance

theorem all_iff : workers.All holds ↔ ∀ key point, workers.lookup key = some point → holds key point := by
  constructor
  · intro all key point found
    refine all key ?_ point found
    rw [← AList.mem_keys, ← AList.lookup_isSome, found]
    rfl
  · intro every key _ point found
    exact every key point found

theorem All.at (all : workers.All holds) (found : workers.lookup key = some point) : holds key point :=
  all_iff.mp all key point found

theorem All.mono (all : workers.All holds) (weakens : ∀ key point, holds key point → weaker key point) :
    workers.All weaker :=
  fun key member point found => weakens key point (all key member point found)

@[simp] theorem all_empty : (∅ : Workers π).All holds := by
  simp [All]

theorem lookup_insert_eq (workers : Workers π) (key other : Nat) (point : π) :
    (workers.insert key point).lookup other = if other = key then some point else workers.lookup other := by
  split
  · rename_i same
    rw [same, AList.lookup_insert]
  · rename_i differs
    rw [AList.lookup_insert_ne differs]

theorem lookup_erase_eq (workers : Workers π) (key other : Nat) :
    (workers.erase key).lookup other = if other = key then none else workers.lookup other := by
  split
  · rename_i same
    rw [same, AList.lookup_erase]
  · rename_i differs
    rw [AList.lookup_erase_ne differs]

theorem all_insert : Workers.All (workers.insert key point) holds ↔
    holds key point ∧ workers.All fun other stands => other ≠ key → holds other stands := by
  simp only [all_iff, lookup_insert_eq]
  constructor
  · intro every
    refine ⟨every key point (if_pos rfl), ?_⟩
    intro other stands found differs
    exact every other stands (by rw [if_neg differs, found])
  · rintro ⟨own, rest⟩ other stands found
    split at found
    · rename_i same
      obtain rfl := Option.some.inj found
      rwa [same]
    · rename_i differs
      exact rest other stands found differs

theorem all_erase : Workers.All (workers.erase key) holds ↔
    workers.All fun other stands => other ≠ key → holds other stands := by
  simp only [all_iff, lookup_erase_eq]
  constructor
  · intro every other stands found differs
    exact every other stands (by rw [if_neg differs, found])
  · intro rest other stands found
    split at found
    · contradiction
    · rename_i differs
      exact rest other stands found differs

theorem All.insert (all : workers.All holds) (own : holds key point) :
    Workers.All (workers.insert key point) holds :=
  all_insert.mpr ⟨own, all.mono fun _ _ stands _ => stands⟩

theorem All.erase (all : workers.All holds) (key : Nat) : Workers.All (workers.erase key) holds :=
  all_erase.mpr (all.mono fun _ _ stands _ => stands)

/-! How many stand where -/

def count (workers : Workers π) (stands : π → Bool) : Nat := workers.entries.countP fun entry => stands entry.2

variable {stands : π → Bool}

theorem count_insert : count (workers.insert key point) stands =
    count (workers.erase key) stands + (stands point).toNat := by
  rw [count, AList.entries_insert, List.countP_cons]
  cases stands point <;> rfl

theorem count_of_lookup (found : workers.lookup key = some point) :
    workers.count stands = count (workers.erase key) stands + (stands point).toNat := by
  have member : key ∈ workers.entries.keys := AList.lookup_isSome.mp (by rw [found]; rfl)
  obtain ⟨other, front, back, fresh, split, erased⟩ := List.exists_of_kerase member
  have own : other = point := by
    have entry : ⟨key, other⟩ ∈ workers.entries := by
      rw [split]
      simp
    have seen := AList.mem_lookup_iff.mpr entry
    rw [found] at seen
    exact (Option.some.inj seen).symm
  subst own
  have rest : (workers.erase key).entries = front ++ back := erased
  rw [count, count, rest, split, List.countP_append, List.countP_append, List.countP_cons]
  cases stands other <;> simp [Nat.add_assoc]

theorem erase_of_free (free : key ∉ workers) : workers.erase key = workers := by
  refine AList.ext ?_
  exact List.kerase_of_notMem_keys free

theorem count_erase_le : count (workers.erase key) stands ≤ workers.count stands := by
  cases found : workers.lookup key with
  | none => rw [erase_of_free (AList.lookup_eq_none.mp found)]
  | some point =>
      rw [count_of_lookup found]
      omega

theorem count_eq_zero (none : workers.All fun _ point => stands point = false) : workers.count stands = 0 := by
  refine List.countP_eq_zero.mpr fun entry member => ?_
  have stays := all_iff.mp none entry.1 entry.2 (AList.mem_lookup_iff.mpr member)
  simp [stays]

end Workers
