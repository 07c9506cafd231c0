import Mathlib.Data.List.Forall2

/-! A list whose items are read one by one, and which cannot be read if one of them cannot. -/

namespace Readings

variable {α β : Type} {reads : α → Option β} {items : List α} {results : List β}

theorem mapM_eq_some_iff :
    items.mapM reads = some results ↔ List.Forall₂ (fun item result => reads item = some result) items results := by
  induction items generalizing results with
  | nil =>
      constructor
      · intro mapped
        obtain rfl : [] = results := Option.some.inj mapped
        exact .nil
      · intro each
        cases each
        rfl
  | cons item rest ih =>
      rw [List.mapM_cons]
      constructor
      · intro mapped
        obtain ⟨first, here, mapped⟩ := Option.bind_eq_some_iff.mp mapped
        obtain ⟨others, there, mapped⟩ := Option.bind_eq_some_iff.mp mapped
        obtain rfl := Option.some.inj mapped
        exact .cons here (ih.mp there)
      · intro each
        cases each with
        | cons here there => rw [here, ih.mpr there]; rfl

theorem isSome_mapM : (items.mapM reads).isSome = true ↔ ∀ item ∈ items, (reads item).isSome = true := by
  induction items with
  | nil => simp
  | cons item rest ih =>
      rw [List.mapM_cons, List.forall_mem_cons, ← ih]
      cases reads item <;> cases rest.mapM reads <;> simp

theorem mem_results (mapped : items.mapM reads = some results) :
    ∀ result ∈ results, ∃ item ∈ items, reads item = some result := by
  have each := mapM_eq_some_iff.mp mapped
  clear mapped
  induction each with
  | nil => simp
  | cons here _ ih =>
      intro result member
      rcases List.mem_cons.mp member with rfl | later
      · exact ⟨_, List.mem_cons_self, here⟩
      · obtain ⟨item, within, read⟩ := ih result later
        exact ⟨item, List.mem_cons_of_mem _ within, read⟩

theorem isSome_of_perm {others : List α} (same : items.Perm others) :
    (items.mapM reads).isSome = (others.mapM reads).isSome := by
  rw [Bool.eq_iff_iff, isSome_mapM, isSome_mapM]
  exact ⟨fun all item member => all item (same.mem_iff.mpr member),
    fun all item member => all item (same.mem_iff.mp member)⟩

theorem rel_cases {relation : α → β → Prop} {first : Option α} {second : Option β}
    (rel : Option.Rel relation first second) : first = none ∧ second = none ∨
      ∃ one other, first = some one ∧ second = some other ∧ relation one other := by
  cases rel with
  | none => exact .inl ⟨rfl, rfl⟩
  | some same => exact .inr ⟨_, _, rfl, rfl, same⟩

end Readings
