import Mathlib.Data.Finset.Card
import Mathlib.Data.Fintype.Defs
import Mathlib.Data.Fintype.EquivFin
import Mathlib.Data.Nat.Cast.Order.Basic
import Mathlib.Logic.Relation
import Mathlib.Order.WellFounded

/-!
Kahn's peel of a directed graph: vertices that no remaining one points to are removed one after the other. All of them
go if and only if there is no cycle, and a vertex on a cycle stays.
-/

namespace Peeling

variable {α : Type} [DecidableEq α]

structure Peel (α : Type) where
  queue : List α
  indegree : α → Int
  removed : Nat

namespace Peel

def visit (peel : Peel α) (target : α) : Peel α where
  queue := if peel.indegree target - 1 = 0 then target :: peel.queue else peel.queue
  indegree := Function.update peel.indegree target (peel.indegree target - 1)
  removed := peel.removed

def run (edges : α → List α) : Nat → Peel α → Peel α
  | 0, peel => peel
  | fuel + 1, peel =>
      match peel.queue with
      | [] => peel
      | vertex :: queue =>
          run edges fuel ((edges vertex).foldl visit { peel with queue, removed := peel.removed + 1 })

end Peel

def Edge (vertices : Finset α) (edges : α → List α) (source target : α) : Prop :=
  source ∈ vertices ∧ target ∈ edges source

def OnCycle (vertices : Finset α) (edges : α → List α) (vertex : α) : Prop :=
  Relation.TransGen (Edge vertices edges) vertex vertex

def sources (vertices : Finset α) (edges : α → List α) (target : α) : Finset α :=
  {source ∈ vertices | target ∈ edges source}

theorem mem_sources {vertices : Finset α} {edges : α → List α} {source target : α} :
    source ∈ sources vertices edges target ↔ source ∈ vertices ∧ target ∈ edges source :=
  Finset.mem_filter

variable {vertices gone : Finset α} {edges : α → List α} {peel : Peel α} {vertex : α}

omit [DecidableEq α] in
theorem not_onCycle_of_acc (reached : Acc (Edge vertices edges) vertex) : ¬OnCycle vertices edges vertex := by
  have descends := reached.transGen
  induction descends with
  | intro vertex _ ih =>
      intro cycle
      exact ih vertex cycle reached cycle

/-- The vertices that have gone, and what the queue and the degrees say of the others. -/
structure Peeled (vertices : Finset α) (edges : α → List α) (gone : Finset α) (peel : Peel α) : Prop where
  inside : gone ⊆ vertices
  before : ∀ target ∈ gone, ∀ source, Edge vertices edges source target → source ∈ gone
  founded : ∀ vertex ∈ gone, Acc (Edge vertices edges) vertex
  fresh : peel.queue.Nodup
  waits : ∀ vertex, vertex ∈ peel.queue ↔ vertex ∈ vertices \ gone ∧ peel.indegree vertex = 0
  degree : ∀ vertex ∈ vertices, peel.indegree vertex = (sources (vertices \ gone) edges vertex).card
  removed : peel.removed = gone.card

theorem visits_indegree {targets : List α} (unique : targets.Nodup) (target : α) :
    (targets.foldl Peel.visit peel).indegree target = peel.indegree target - if target ∈ targets then 1 else 0 := by
  induction targets generalizing peel with
  | nil => simp
  | cons first targets ih =>
      obtain ⟨absent, unique⟩ := List.nodup_cons.mp unique
      rw [List.foldl_cons, ih unique]
      by_cases same : target = first
      · subst same
        simp [Peel.visit, absent]
      · simp [Peel.visit, same]

theorem visits_removed (targets : List α) : (targets.foldl Peel.visit peel).removed = peel.removed := by
  induction targets generalizing peel with
  | nil => rfl
  | cons first targets ih => rw [List.foldl_cons, ih, Peel.visit]

theorem visits_queue {targets : List α} (unique : targets.Nodup) :
    (targets.foldl Peel.visit peel).queue = (targets.filter (peel.indegree · = 1)).reverse ++ peel.queue := by
  induction targets generalizing peel with
  | nil => rfl
  | cons first targets ih =>
      obtain ⟨absent, unique⟩ := List.nodup_cons.mp unique
      have others : targets.filter ((peel.visit first).indegree · = 1) = targets.filter (peel.indegree · = 1) := by
        refine List.filter_congr fun target member => ?_
        have apart : target ≠ first := fun same => absent (same ▸ member)
        simp [Peel.visit, apart]
      rw [List.foldl_cons, ih unique, others, List.filter_cons]
      by_cases last : peel.indegree first = 1
      · simp [Peel.visit, last]
      · have more : peel.indegree first - 1 ≠ 0 := by omega
        simp [Peel.visit, last, more]

theorem Peeled.step (peeled : Peeled vertices edges gone peel) {queue : List α} (next : peel.queue = vertex :: queue)
    (unique : (edges vertex).Nodup) (closed : ∀ target ∈ edges vertex, target ∈ vertices) :
    vertex ∉ gone ∧ Peeled vertices edges (insert vertex gone)
      ((edges vertex).foldl Peel.visit { peel with queue, removed := peel.removed + 1 }) := by
  have waiting : vertex ∈ vertices \ gone ∧ peel.indegree vertex = 0 := by
    rw [← peeled.waits, next]
    exact List.mem_cons_self
  obtain ⟨stood, free⟩ := waiting
  obtain ⟨inside, still⟩ := Finset.mem_sdiff.mp stood
  have preceding : ∀ source, Edge vertices edges source vertex → source ∈ gone := by
    intro source edge
    by_contra left
    have counted := mem_sources.mpr ⟨Finset.mem_sdiff.mpr ⟨edge.1, left⟩, edge.2⟩
    have positive := Finset.card_pos.mpr ⟨source, counted⟩
    have degree := peeled.degree vertex inside
    omega
  -- a target of the vertex has not gone, since the vertex itself has not
  have targets : ∀ target ∈ edges vertex, target ∉ gone := fun target edge went =>
    still (peeled.before target went vertex ⟨inside, edge⟩)
  have self : vertex ∉ edges vertex := fun edge => still (preceding vertex ⟨inside, edge⟩)
  have fresh := peeled.fresh
  rw [next, List.nodup_cons] at fresh
  refine ⟨still, ?_, ?_, ?_, ?_, ?_, ?_, ?_⟩
  · exact Finset.insert_subset inside peeled.inside
  · intro target went source edge
    rcases Finset.mem_insert.mp went with rfl | earlier
    · exact Finset.mem_insert_of_mem (preceding source edge)
    · exact Finset.mem_insert_of_mem (peeled.before target earlier source edge)
  · intro other went
    rcases Finset.mem_insert.mp went with rfl | earlier
    · exact ⟨_, fun source edge => peeled.founded source (preceding source edge)⟩
    · exact peeled.founded other earlier
  · rw [visits_queue unique, List.nodup_append]
    refine ⟨List.nodup_reverse.mpr (unique.filter _), fresh.2, ?_⟩
    rintro target visited _ queued rfl
    have last := (List.mem_filter.mp (List.mem_reverse.mp visited)).2
    have zero := ((peeled.waits target).mp (next ▸ List.mem_cons_of_mem vertex queued)).2
    simp only [decide_eq_true_eq] at last
    omega
  · intro target
    rw [visits_queue unique, List.mem_append, List.mem_reverse, List.mem_filter, visits_indegree unique,
      Finset.mem_sdiff, Finset.mem_insert, not_or]
    have waits := peeled.waits target
    rw [next, List.mem_cons, Finset.mem_sdiff] at waits
    by_cases edge : target ∈ edges vertex
    · have apart : target ≠ vertex := fun same => self (same ▸ edge)
      have stays := targets target edge
      have known := closed target edge
      have queued : target ∈ queue ↔ peel.indegree target = 0 := by simpa [apart, stays, known] using waits
      have positive := Finset.card_pos.mpr ⟨vertex, mem_sources.mpr ⟨stood, edge⟩⟩
      have degree := peeled.degree target known
      simp only [edge, decide_eq_true_eq, true_and, queued, known, apart, not_false_eq_true, stays, if_true]
      omega
    · by_cases same : target = vertex
      · subst same
        simp [edge, fresh.1]
      · simpa [edge, same] using waits
  · intro target known
    have fewer : sources (vertices \ insert vertex gone) edges target =
        (sources (vertices \ gone) edges target).erase vertex := by
      rw [sources, Finset.sdiff_insert, Finset.filter_erase, sources]
    rw [visits_indegree unique, peeled.degree target known, fewer]
    by_cases edge : target ∈ edges vertex
    · rw [Finset.card_erase_of_mem (mem_sources.mpr ⟨stood, edge⟩), if_pos edge]
      have positive := Finset.card_pos.mpr ⟨vertex, mem_sources.mpr ⟨stood, edge⟩⟩
      omega
    · rw [Finset.erase_eq_of_notMem fun member => edge (mem_sources.mp member).2, if_neg edge, Int.sub_zero]
  · rw [visits_removed, Finset.card_insert_of_notMem still, peeled.removed]

theorem Peeled.run (peeled : Peeled vertices edges gone peel) (unique : ∀ vertex ∈ vertices, (edges vertex).Nodup)
    (closed : ∀ vertex ∈ vertices, ∀ target ∈ edges vertex, target ∈ vertices) {fuel : Nat}
    (enough : vertices.card ≤ fuel + gone.card) :
    ∃ all, Peeled vertices edges all (peel.run edges fuel) ∧ (peel.run edges fuel).queue = [] := by
  induction fuel generalizing gone peel with
  | zero =>
      have all : gone = vertices := Finset.eq_of_subset_of_card_le peeled.inside (by omega)
      refine ⟨gone, peeled, List.eq_nil_iff_forall_not_mem.mpr fun vertex queued => ?_⟩
      have waiting := ((peeled.waits vertex).mp queued).1
      rw [all, Finset.sdiff_self] at waiting
      exact absurd waiting (Finset.notMem_empty vertex)
  | succ fuel ih =>
      rw [Peel.run]
      cases next : peel.queue with
      | nil => exact ⟨gone, peeled, next⟩
      | cons vertex queue =>
          have inside : vertex ∈ vertices := by
            have waiting := ((peeled.waits vertex).mp (next ▸ List.mem_cons_self)).1
            exact (Finset.mem_sdiff.mp waiting).1
          obtain ⟨still, stepped⟩ := peeled.step next (unique vertex inside) (closed vertex inside)
          refine ih stepped ?_
          rw [Finset.card_insert_of_notMem still]
          omega

theorem Peeled.cycle (peeled : Peeled vertices edges gone peel) (done : peel.queue = []) (left : gone ≠ vertices) :
    ∃ vertex, OnCycle vertices edges vertex := by
  by_contra acyclic
  push Not at acyclic
  have source : ∀ vertex ∈ vertices \ gone, ∃ source ∈ vertices \ gone, Edge vertices edges source vertex := by
    intro vertex stands
    have nonzero : peel.indegree vertex ≠ 0 := by
      intro zero
      have queued := (peeled.waits vertex).mpr ⟨stands, zero⟩
      rw [done] at queued
      exact absurd queued List.not_mem_nil
    rw [peeled.degree vertex (Finset.mem_sdiff.mp stands).1, Int.natCast_ne_zero, Finset.card_ne_zero] at nonzero
    obtain ⟨source, counted⟩ := nonzero
    obtain ⟨stood, edge⟩ := mem_sources.mp counted
    exact ⟨source, stood, (Finset.mem_sdiff.mp stood).1, edge⟩
  obtain ⟨first, stands⟩ : (vertices \ gone).Nonempty := by
    rw [Finset.nonempty_iff_ne_empty, Ne, Finset.sdiff_eq_empty_iff_subset]
    exact fun all => left (Finset.Subset.antisymm peeled.inside all)
  let reaches (one two : (vertices \ gone : Finset α)) : Prop :=
    Relation.TransGen (Edge vertices edges) one.val two.val
  have : IsTrans _ reaches := ⟨fun _ _ _ early late => Relation.TransGen.trans early late⟩
  have : Std.Irrefl reaches := ⟨fun vertex cycle => acyclic vertex.val cycle⟩
  have founded := Finite.wellFounded_of_trans_of_irrefl reaches
  obtain ⟨least, _, minimal⟩ := founded.has_min Set.univ ⟨⟨first, stands⟩, trivial⟩
  obtain ⟨other, stood, edge⟩ := source least.val least.property
  exact minimal ⟨other, stood⟩ trivial (Relation.TransGen.single edge)

structure Starts (vertices : Finset α) (edges : α → List α) (peel : Peel α) : Prop where
  fresh : peel.queue.Nodup
  waits : ∀ vertex, vertex ∈ peel.queue ↔ vertex ∈ vertices ∧ peel.indegree vertex = 0
  degree : ∀ vertex ∈ vertices, peel.indegree vertex = (sources vertices edges vertex).card
  removed : peel.removed = 0

theorem Starts.run (starts : Starts vertices edges peel) (unique : ∀ vertex ∈ vertices, (edges vertex).Nodup)
    (closed : ∀ vertex ∈ vertices, ∀ target ∈ edges vertex, target ∈ vertices) :
    ((peel.run edges vertices.card).removed = vertices.card ↔ ¬∃ vertex, OnCycle vertices edges vertex) ∧
      ∀ vertex, OnCycle vertices edges vertex →
        vertex ∈ vertices ∧ 0 < (peel.run edges vertices.card).indegree vertex := by
  have peeled : Peeled vertices edges ∅ peel := {
    inside := Finset.empty_subset _
    before := fun _ went => absurd went (Finset.notMem_empty _)
    founded := fun _ went => absurd went (Finset.notMem_empty _)
    fresh := starts.fresh
    waits := fun vertex => by rw [Finset.sdiff_empty]; exact starts.waits vertex
    degree := fun vertex known => by rw [Finset.sdiff_empty]; exact starts.degree vertex known
    removed := starts.removed }
  obtain ⟨gone, last, done⟩ := peeled.run unique closed (Nat.le_add_right _ _)
  have stays : ∀ vertex, OnCycle vertices edges vertex → vertex ∈ vertices \ gone := by
    intro vertex cycle
    obtain ⟨_, edge, _⟩ := Relation.TransGen.head'_iff.mp cycle
    exact Finset.mem_sdiff.mpr ⟨edge.1, fun went => not_onCycle_of_acc (last.founded vertex went) cycle⟩
  constructor
  · rw [last.removed]
    constructor
    · rintro all ⟨vertex, cycle⟩
      obtain ⟨inside, still⟩ := Finset.mem_sdiff.mp (stays vertex cycle)
      rw [Finset.eq_of_subset_of_card_le last.inside all.ge] at still
      exact still inside
    · intro acyclic
      by_contra fewer
      exact acyclic (last.cycle done fun all => fewer (by rw [all]))
  · intro vertex cycle
    have stands := stays vertex cycle
    refine ⟨(Finset.mem_sdiff.mp stands).1, ?_⟩
    have nonzero : (peel.run edges vertices.card).indegree vertex ≠ 0 := by
      intro zero
      have queued := (last.waits vertex).mpr ⟨stands, zero⟩
      rw [done] at queued
      exact absurd queued List.not_mem_nil
    have degree := last.degree vertex (Finset.mem_sdiff.mp stands).1
    omega

end Peeling
