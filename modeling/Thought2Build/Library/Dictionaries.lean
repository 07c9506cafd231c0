import Mathlib.Data.List.Basic

/-! Dictionaries that keep the order of their insertions: a list of keys, each with its value. -/

namespace Dictionaries

variable {κ α : Type} [DecidableEq κ]

/-- `dictionary[key] = value`: a key that is there keeps its place. -/
def put (key : κ) (value : α) : List (κ × α) → List (κ × α)
  | [] => [(key, value)]
  | entry :: rest => if entry.1 = key then (key, value) :: rest else entry :: put key value rest

theorem mem_put {dictionary : List (κ × α)} {key : κ} {value : α} {entry : κ × α}
    (member : entry ∈ put key value dictionary) : entry = (key, value) ∨ entry ∈ dictionary := by
  induction dictionary with
  | nil => exact Or.inl (List.mem_singleton.mp member)
  | cons first rest ih =>
      rw [put] at member
      split at member
      · exact (List.mem_cons.mp member).imp_right (List.mem_cons_of_mem _)
      · rcases List.mem_cons.mp member with rfl | later
        · exact Or.inr List.mem_cons_self
        · exact (ih later).imp_right (List.mem_cons_of_mem _)

theorem put_fresh {dictionary : List (κ × α)} {key : κ} {value : α} (fresh : ∀ entry ∈ dictionary, entry.1 ≠ key) :
    put key value dictionary = dictionary ++ [(key, value)] := by
  induction dictionary with
  | nil => rfl
  | cons entry rest ih =>
      rw [put, if_neg (fresh entry List.mem_cons_self),
        ih fun other later => fresh other (List.mem_cons_of_mem _ later)]
      rfl

theorem nodup_put {dictionary : List (κ × α)} (distinct : (dictionary.map (·.1)).Nodup) (key : κ) (value : α) :
    ((put key value dictionary).map (·.1)).Nodup := by
  induction dictionary with
  | nil => simp [put]
  | cons first rest ih =>
      obtain ⟨fresh, distinct⟩ := List.nodup_cons.mp distinct
      rw [put]
      split
      · rename_i same
        exact List.nodup_cons.mpr ⟨same ▸ fresh, distinct⟩
      · rename_i other
        refine List.nodup_cons.mpr ⟨fun again => ?_, ih distinct⟩
        obtain ⟨entry, member, same⟩ := List.mem_map.mp again
        rcases mem_put member with rfl | old
        · exact other same.symm
        · exact fresh (List.mem_map.mpr ⟨entry, old, same⟩)

theorem lookup_put {dictionary : List (κ × α)} (key other : κ) (value : α) :
    (put key value dictionary).lookup other = if other = key then some value else dictionary.lookup other := by
  induction dictionary with
  | nil =>
      by_cases here : other = key
      · simp [put, here]
      · simp [put, here]
  | cons entry rest ih =>
      rw [put]
      by_cases here : other = key
      · subst here
        split
        · simp
        · rename_i different
          rw [List.lookup_cons, beq_eq_false_iff_ne.mpr (Ne.symm different), if_pos rfl]
          exact ih.trans (if_pos rfl)
      · split
        · rename_i same
          rw [List.lookup_cons, List.lookup_cons, same, beq_eq_false_iff_ne.mpr here]
        · rw [List.lookup_cons, List.lookup_cons, ih, if_neg here]

theorem length_put (key : κ) (value other : α) (dictionary : List (κ × α)) :
    (put key value dictionary).length = (put key other dictionary).length := by
  induction dictionary with
  | nil => rfl
  | cons entry rest ih =>
      rw [put, put]
      split
      · rfl
      · rw [List.length_cons, List.length_cons, ih]

theorem lookup_of_mem {dictionary : List (κ × α)} {key : κ} {value : α}
    (distinct : (dictionary.map (·.1)).Nodup) (member : (key, value) ∈ dictionary) :
    dictionary.lookup key = some value := by
  induction dictionary with
  | nil => simp at member
  | cons entry rest ih =>
      obtain ⟨fresh, distinct⟩ := List.nodup_cons.mp distinct
      rcases List.mem_cons.mp member with rfl | later
      · simp
      · have other : key ≠ entry.1 := by
          rintro rfl
          exact fresh (List.mem_map.mpr ⟨_, later, rfl⟩)
        rw [List.lookup_cons, beq_eq_false_iff_ne.mpr other]
        exact ih distinct later

theorem mem_of_lookup {dictionary : List (κ × α)} {key : κ} {value : α}
    (found : dictionary.lookup key = some value) : (key, value) ∈ dictionary := by
  induction dictionary with
  | nil => simp at found
  | cons entry rest ih =>
      rw [List.lookup_cons] at found
      split at found
      · rename_i same
        obtain rfl := Option.some.inj found
        obtain rfl := beq_iff_eq.mp same
        exact List.mem_cons_self
      · exact List.mem_cons_of_mem _ (ih found)

end Dictionaries
