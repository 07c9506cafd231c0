import Mathlib.Data.List.Sort
import Mathlib.Algebra.Order.BigOperators.Group.List
import Mathlib.Tactic.Linarith

/-!
Append-only tables. A table is a list of rows and a row's id is its position, so
ids never repeat and never dangle. `sumOf` is the aggregate of one column and
`scan` the ids in the order of a sort key whose ties the caller decides.
-/

namespace Rows

variable {α β : Type}

def sumOf (column : α → Int) (rows : List α) : Int := (rows.map column).sum

@[simp] theorem sumOf_nil (column : α → Int) : sumOf column [] = 0 := rfl

@[simp] theorem sumOf_cons (column : α → Int) (row : α) (rows : List α) :
    sumOf column (row :: rows) = column row + sumOf column rows := by
  simp [sumOf]

@[simp] theorem sumOf_append (column : α → Int) (first second : List α) :
    sumOf column (first ++ second) = sumOf column first + sumOf column second := by
  simp [sumOf]

theorem sumOf_map (column : β → Int) (change : α → β) (rows : List α) :
    sumOf column (rows.map change) = sumOf (fun row => column (change row)) rows := by
  simp [sumOf, Function.comp_def]

theorem sumOf_congr {first second : α → Int} {rows : List α}
    (same : ∀ row ∈ rows, first row = second row) : sumOf first rows = sumOf second rows := by
  rw [sumOf, List.map_congr_left same, sumOf]

theorem sumOf_zero {column : α → Int} {rows : List α}
    (zero : ∀ row ∈ rows, column row = 0) : sumOf column rows = 0 := by
  rw [sumOf_congr zero]
  simp [sumOf]

theorem sumOf_add (first second : α → Int) (rows : List α) :
    sumOf (fun row => first row + second row) rows = sumOf first rows + sumOf second rows :=
  List.sum_map_add

theorem sumOf_nonneg {column : α → Int} {rows : List α}
    (nonneg : ∀ row ∈ rows, 0 ≤ column row) : 0 ≤ sumOf column rows := by
  apply List.sum_nonneg
  simpa using nonneg

theorem sumOf_mono {first second : α → Int} {rows : List α}
    (below : ∀ row ∈ rows, first row ≤ second row) : sumOf first rows ≤ sumOf second rows :=
  List.sum_le_sum below

theorem sumOf_set {column : α → Int} {rows : List α} {id : Nat} {old : α}
    (found : rows[id]? = some old) (row : α) :
    sumOf column (rows.set id row) = sumOf column rows - column old + column row := by
  induction rows generalizing id with
  | nil => simp at found
  | cons head tail ih =>
      cases id with
      | zero =>
          simp only [List.getElem?_cons_zero, Option.some.injEq] at found
          subst found
          simp only [List.set_cons_zero, sumOf_cons]
          omega
      | succ id =>
          simp only [List.getElem?_cons_succ] at found
          simp only [List.set_cons_succ, sumOf_cons, ih found]
          omega

theorem column_le_sumOf {column : α → Int} {rows : List α} {id : Nat} {row : α}
    (found : rows[id]? = some row) (nonneg : ∀ row ∈ rows, 0 ≤ column row) :
    column row ≤ sumOf column rows := by
  induction rows generalizing id with
  | nil => simp at found
  | cons head tail ih =>
      have tailNonneg : ∀ row ∈ tail, 0 ≤ column row :=
        fun other member => nonneg other (by simp [member])
      have headNonneg := nonneg head (by simp)
      cases id with
      | zero =>
          simp only [List.getElem?_cons_zero, Option.some.injEq] at found
          subst found
          have := sumOf_nonneg tailNonneg
          simp only [sumOf_cons]
          omega
      | succ id =>
          simp only [List.getElem?_cons_succ] at found
          have := ih found tailNonneg
          simp only [sumOf_cons]
          omega

theorem getElem?_of_lt {rows : List α} {id : Nat} (bound : id < rows.length) (fallback : α) :
    rows[id]? = some (rows.getD id fallback) := by
  simp [List.getD_eq_getElem?_getD, bound]

theorem getD_set {rows : List α} {id other : Nat} {row fallback : α} :
    (rows.set id row).getD other fallback =
      if other = id ∧ id < rows.length then row else rows.getD other fallback := by
  simp only [List.getD_eq_getElem?_getD, List.getElem?_set]
  by_cases same : id = other
  · subst same
    by_cases bound : id < rows.length <;> simp [bound]
  · simp [same, Ne.symm same]

theorem getD_append {rows : List α} {row fallback : α} {id : Nat} :
    (rows ++ [row]).getD id fallback =
      if id = rows.length then row else rows.getD id fallback := by
  simp only [List.getD_eq_getElem?_getD, List.getElem?_append]
  by_cases last : id = rows.length
  · subst last
    simp
  · by_cases below : id < rows.length
    · simp [below, last]
    · have beyond : 1 ≤ id - rows.length := by omega
      simp [below, last,
        List.getElem?_eq_none (show [row].length ≤ id - rows.length by simpa using beyond)]

theorem getElem?_concat {rows : List α} {last row : α} {id : Nat}
    (found : (rows ++ [last])[id]? = some row) :
    rows[id]? = some row ∨ (id = rows.length ∧ row = last) := by
  rw [List.getElem?_append] at found
  split at found
  · exact Or.inl found
  · rename_i beyond
    rw [List.getElem?_singleton] at found
    split at found
    · exact Or.inr ⟨by omega, (Option.some.inj found).symm⟩
    · contradiction

theorem modify_last (rows : List α) (row : α) (change : α → α) :
    (rows ++ [row]).modify rows.length change = rows ++ [change row] := by
  induction rows with
  | nil => rfl
  | cons head tail ih => simpa using ih

theorem mem_modify {rows : List α} {id : Nat} {change : α → α} {row : α}
    (member : row ∈ rows.modify id change) :
    row ∈ rows ∨ ∃ former, rows[id]? = some former ∧ row = change former := by
  obtain ⟨place, found⟩ := List.mem_iff_getElem?.mp member
  rw [List.getElem?_modify] at found
  split at found
  · rename_i same
    subst same
    obtain ⟨former, held, rfl⟩ := Option.map_eq_some_iff.mp found
    exact Or.inr ⟨former, held, rfl⟩
  · exact Or.inl (List.mem_of_getElem? (by simpa using found))

theorem mem_modify_of_ne {rows : List α} {id : Nat} {change : α → α} {row former : α} (member : row ∈ rows)
    (held : rows[id]? = some former) (other : row ≠ former) : row ∈ rows.modify id change := by
  obtain ⟨place, found⟩ := List.mem_iff_getElem?.mp member
  have apart : id ≠ place := by
    rintro rfl
    exact other (Option.some.inj (found.symm.trans held))
  exact List.mem_of_getElem? (i := place) (by simpa [List.getElem?_modify, apart] using found)

theorem getD_map {rows : List α} {change : α → α} {fallback : α} {id : Nat}
    (fixed : change fallback = fallback) :
    (rows.map change).getD id fallback = change (rows.getD id fallback) := by
  simp only [List.getD_eq_getElem?_getD, List.getElem?_map]
  cases rows[id]? <;> simp [fixed]

theorem mem_iff_getD {rows : List α} {fallback row : α} :
    row ∈ rows ↔ ∃ id < rows.length, rows.getD id fallback = row := by
  rw [List.mem_iff_getElem]
  constructor
  · rintro ⟨id, bound, rfl⟩
    exact ⟨id, bound, by simp [List.getD_eq_getElem?_getD, bound]⟩
  · rintro ⟨id, bound, rfl⟩
    exact ⟨id, bound, by simp [List.getD_eq_getElem?_getD, bound]⟩

theorem getD_cases {motive : α → Prop} {rows : List α} {fallback : α} (blank : motive fallback)
    (present : ∀ row ∈ rows, motive row) (id : Nat) : motive (rows.getD id fallback) := by
  by_cases bound : id < rows.length
  · exact present _ (mem_iff_getD.mpr ⟨id, bound, rfl⟩)
  · rw [List.getD_eq_getElem?_getD, List.getElem?_eq_none (by omega), Option.getD_none]
    exact blank

theorem sumOf_single {column : α → Int} {rows : List α} {id : Nat} {row : α}
    (found : rows[id]? = some row)
    (others : ∀ other row', rows[other]? = some row' → other ≠ id → column row' = 0) :
    sumOf column rows = column row := by
  induction rows generalizing id with
  | nil => simp at found
  | cons head tail ih =>
      cases id with
      | zero =>
          simp only [List.getElem?_cons_zero, Option.some.injEq] at found
          subst found
          rw [sumOf_cons, sumOf_zero, Int.add_zero]
          intro row' member
          obtain ⟨other, found⟩ := List.mem_iff_getElem?.mp member
          exact others (other + 1) row' (by simpa using found) (by omega)
      | succ id =>
          simp only [List.getElem?_cons_succ] at found
          have headZero := others 0 head (by simp) (by omega)
          rw [sumOf_cons, headZero, Int.zero_add]
          exact ih found fun other row' present different =>
            others (other + 1) row' (by simpa using present) (by omega)

theorem sumOf_optional {column : α → Int} {row : α} {kept : Prop} [Decidable kept]
    (blank : ¬kept → column row = 0) : sumOf column (if kept then [row] else []) = column row := by
  split
  · simp
  · rename_i dropped
    rw [sumOf_nil, blank dropped]

theorem sumOf_perm {column : α → Int} {first second : List α} (same : first.Perm second) :
    sumOf column first = sumOf column second :=
  (same.map column).sum_eq

theorem sumOf_filter (column : α → Int) (kept : α → Bool) (rows : List α) :
    sumOf column (rows.filter kept) = sumOf (fun row => if kept row then column row else 0) rows := by
  induction rows with
  | nil => rfl
  | cons head tail ih => cases keep : kept head <;> simp [keep, ih]

theorem sumOf_comm (cell : α → β → Int) (rows : List α) (columns : List β) :
    sumOf (fun row => sumOf (cell row) columns) rows =
      sumOf (fun column => sumOf (fun row => cell row column) rows) columns := by
  induction rows with
  | nil => exact (sumOf_zero fun _ _ => rfl).symm
  | cons row rows ih =>
      simp only [sumOf_cons]
      rw [ih, ← sumOf_add]

theorem sumOf_group {key : α → Option Nat} {amount : α → Int} {rows : List α} {count : Nat}
    (nonneg : ∀ row ∈ rows, 0 ≤ amount row)
    (beyond : ∀ id, count ≤ id →
      sumOf (fun row => if key row = some id then amount row else 0) rows = 0) :
    sumOf (fun id => sumOf (fun row => if key row = some id then amount row else 0) rows)
        (List.range count) =
      sumOf (fun row => if key row = none then 0 else amount row) rows := by
  rw [sumOf_comm]
  apply sumOf_congr
  intro row member
  cases keyed : key row with
  | none => exact sumOf_zero fun _ _ => by simp
  | some id =>
      by_cases bound : id < count
      · refine (sumOf_single (List.getElem?_range bound) fun other id' found different => ?_).trans
          (by simp)
        obtain ⟨-, rfl⟩ := List.getElem?_eq_some_iff.mp found
        simpa using fun same : id = other => absurd same.symm different
      · obtain ⟨position, found⟩ := List.mem_iff_getElem?.mp member
        have below := @column_le_sumOf _ (fun row => if key row = some id then amount row else 0)
          rows position row found fun row member => by split <;> simp [nonneg row member]
        rw [beyond id (Nat.not_lt.mp bound)] at below
        have here := nonneg row member
        simp only [keyed, if_true] at below
        simp [le_antisymm below here, sumOf_zero]

theorem sumOf_range (column : α → Int) (rows : List α) (fallback : α) :
    sumOf (fun id => column (rows.getD id fallback)) (List.range rows.length) =
      sumOf column rows := by
  have positions : (List.range rows.length).map (rows.getD · fallback) = rows := by
    apply List.ext_getElem
    · simp
    · intro id _ bound
      simp [bound]
  calc sumOf (fun id => column (rows.getD id fallback)) (List.range rows.length)
      = sumOf column ((List.range rows.length).map (rows.getD · fallback)) :=
        (sumOf_map column (rows.getD · fallback) (List.range rows.length)).symm
    _ = sumOf column rows := by rw [positions]

/-! Ordered scans. -/

/-- Ids `0 … count - 1` by ascending `key`; rows with equal keys come in the
order of `rank`, which stands for whatever order the store returns them in. -/
def scan (key : Nat → Int) (rank : Nat → Nat) (count : Nat) : List Nat :=
  (List.range count).insertionSort fun first second =>
    key first < key second ∨ key first = key second ∧ rank first ≤ rank second

theorem scan_perm (key : Nat → Int) (rank : Nat → Nat) (count : Nat) :
    (scan key rank count).Perm (List.range count) :=
  List.perm_insertionSort _ _

@[simp] theorem mem_scan {key : Nat → Int} {rank : Nat → Nat} {count id : Nat} :
    id ∈ scan key rank count ↔ id < count := by
  rw [(scan_perm key rank count).mem_iff, List.mem_range]

theorem scan_nodup (key : Nat → Int) (rank : Nat → Nat) (count : Nat) :
    (scan key rank count).Nodup :=
  (scan_perm key rank count).nodup_iff.mpr List.nodup_range

theorem scan_sorted (key : Nat → Int) (rank : Nat → Nat) (count : Nat) :
    (scan key rank count).Pairwise fun first second => key first ≤ key second := by
  have total : Std.Total fun first second : Nat =>
      key first < key second ∨ key first = key second ∧ rank first ≤ rank second :=
    ⟨fun first second => by omega⟩
  have transitive : IsTrans Nat fun first second =>
      key first < key second ∨ key first = key second ∧ rank first ≤ rank second :=
    ⟨fun first second third => by omega⟩
  exact (List.pairwise_insertionSort _ _).imp fun sorted => by omega

theorem sumOf_scan_filter {column : α → Int} {rows : List α} {fallback : α} {key : Nat → Int}
    {rank : Nat → Nat} {kept : Nat → Bool}
    (dropped : ∀ id < rows.length, kept id = false → column (rows.getD id fallback) = 0) :
    sumOf (fun id => column (rows.getD id fallback)) ((scan key rank rows.length).filter kept) =
      sumOf column rows := by
  rw [sumOf_filter, sumOf_perm (scan_perm key rank rows.length), ← sumOf_range column rows fallback]
  apply sumOf_congr
  intro id member
  rw [List.mem_range] at member
  cases keep : kept id with
  | true => rfl
  | false => exact (dropped id member keep).symm

end Rows
