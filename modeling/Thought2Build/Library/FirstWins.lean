import Mathlib.Data.List.Nodup

/-! Of the items with one key the first is kept; an item without a key is kept always. -/

namespace FirstWins

variable {α κ : Type} [DecidableEq κ] (key : α → Option κ)

/-- What is kept of some items behind others, whose keys are given. -/
def firstWins : List κ → List α → List α
  | _, [] => []
  | seen, item :: rest =>
      match key item with
      | none => item :: firstWins seen rest
      | some own => if own ∈ seen then firstWins seen rest else item :: firstWins (own :: seen) rest

variable {key} {seen : List κ} {items : List α} {item : α}

section

attribute [local simp] firstWins

end

theorem firstWins_unkeyed (unkeyed : key item = none) (rest : List α) :
    firstWins key seen (item :: rest) = item :: firstWins key seen rest := by
  rw [firstWins, unkeyed]

theorem firstWins_repeated {own : κ} (keyed : key item = some own) (old : own ∈ seen) (rest : List α) :
    firstWins key seen (item :: rest) = firstWins key seen rest := by
  simp only [firstWins, keyed, if_pos old]

theorem firstWins_new {own : κ} (keyed : key item = some own) (new : own ∉ seen) (rest : List α) :
    firstWins key seen (item :: rest) = item :: firstWins key (own :: seen) rest := by
  simp only [firstWins, keyed, if_neg new]

theorem firstWins_sublist : (firstWins key seen items).Sublist items := by
  induction items generalizing seen with
  | nil => exact List.Sublist.refl []
  | cons item rest ih =>
      rw [firstWins]
      split
      · exact ih.cons_cons item
      · split
        · exact ih.cons item
        · exact ih.cons_cons item

theorem filter_firstWins : (firstWins key seen items).filter (key · = none) = items.filter (key · = none) := by
  induction items generalizing seen with
  | nil => rfl
  | cons item rest ih =>
      rw [firstWins]
      split
      · rename_i unkeyed
        rw [List.filter_cons_of_pos (by simpa using unkeyed), List.filter_cons_of_pos (by simpa using unkeyed), ih]
      · rename_i own keyed
        split
        · rw [ih, List.filter_cons_of_neg (by simp [keyed])]
        · rw [List.filter_cons_of_neg (by simp [keyed]), List.filter_cons_of_neg (by simp [keyed]), ih]

theorem find_firstWins {own : κ} (new : own ∉ seen) :
    (firstWins key seen items).find? (key · = some own) = items.find? (key · = some own) := by
  induction items generalizing seen with
  | nil => rfl
  | cons item rest ih =>
      rw [firstWins]
      split
      · rename_i unkeyed
        rw [List.find?_cons_of_neg (by simp [unkeyed]), List.find?_cons_of_neg (by simp [unkeyed]), ih new]
      · rename_i other keyed
        by_cases same : other = own
        · subst same
          rw [if_neg new, List.find?_cons_of_pos (by simpa using keyed), List.find?_cons_of_pos (by simpa using keyed)]
        · have later : (item :: rest).find? (key · = some own) = rest.find? (key · = some own) :=
            List.find?_cons_of_neg (by simpa [keyed] using same)
          rw [later]
          split
          · exact ih new
          · rw [List.find?_cons_of_neg (by simpa [keyed] using same)]
            exact ih (by simpa [Ne.symm same] using new)

theorem keys_firstWins :
    ((firstWins key seen items).filterMap key).Nodup ∧ ∀ own ∈ (firstWins key seen items).filterMap key, own ∉ seen := by
  induction items generalizing seen with
  | nil => simp [firstWins]
  | cons item rest ih =>
      rw [firstWins]
      split
      · rename_i unkeyed
        rw [List.filterMap_cons_none unkeyed]
        exact ih
      · rename_i own keyed
        split
        · exact ih
        · rename_i new
          obtain ⟨distinct, apart⟩ := @ih (own :: seen)
          rw [List.filterMap_cons_some keyed]
          refine ⟨List.nodup_cons.mpr ⟨fun again => apart own again List.mem_cons_self, distinct⟩, ?_⟩
          rintro other member
          rcases List.mem_cons.mp member with rfl | later
          · exact new
          · exact fun old => apart other later (List.mem_cons_of_mem _ old)

theorem firstWins_eq_self (distinct : (items.filterMap key).Nodup) (apart : ∀ own ∈ items.filterMap key, own ∉ seen) :
    firstWins key seen items = items := by
  induction items generalizing seen with
  | nil => rfl
  | cons item rest ih =>
      cases keyed : key item with
      | none =>
          rw [List.filterMap_cons_none keyed] at distinct apart
          rw [firstWins_unkeyed keyed, ih distinct apart]
      | some own =>
          rw [List.filterMap_cons_some keyed] at distinct apart
          obtain ⟨single, later⟩ := List.nodup_cons.mp distinct
          rw [firstWins_new keyed (apart own List.mem_cons_self), ih later]
          intro other member old
          rcases List.mem_cons.mp old with rfl | old
          · exact single member
          · exact apart other (List.mem_cons_of_mem _ member) old

variable (key) in
/-- Of the items with one key the first is kept, of those without a key all of them, in their order. -/
structure KeepsFirst (items kept : List α) : Prop where
  sublist : kept.Sublist items
  unkeyed : kept.filter (key · = none) = items.filter (key · = none)
  first : ∀ own, kept.find? (key · = some own) = items.find? (key · = some own)
  once : (kept.filterMap key).Nodup

theorem keepsFirst : KeepsFirst key items (firstWins key [] items) where
  sublist := firstWins_sublist
  unkeyed := filter_firstWins
  first _ := find_firstWins List.not_mem_nil
  once := keys_firstWins.1

theorem mem_firstWins {own : κ} (keyed : key item = some own) :
    item ∈ firstWins key [] items ↔ items.find? (key · = some own) = some item := by
  have kept : KeepsFirst key items (firstWins key [] items) := keepsFirst
  rw [← kept.first own]
  constructor
  · intro member
    obtain ⟨front, back, whole⟩ := List.append_of_mem member
    have once := kept.once
    rw [whole, List.filterMap_append, List.filterMap_cons_some keyed] at once
    rw [whole, List.find?_append, List.find?_eq_none.mpr, List.find?_cons_of_pos (by simpa using keyed), Option.none_or]
    intro other earlier same
    have again : own ∈ front.filterMap key := List.mem_filterMap.mpr ⟨other, earlier, of_decide_eq_true same⟩
    exact (List.nodup_middle.mp once).notMem (List.mem_append_left _ again)
  · exact fun found => List.mem_of_find?_eq_some found

end FirstWins
