import Mathlib.Data.List.Dedup
import Thought2Build.Integrations.TaskEventsCore
import Thought2Build.Library.Histories
import Thought2Build.Library.LatestWrites

/-!
The order of deliveries. The state of a task and the time of its last event are a register in which the latest
write wins; the attribution of a completion is not, because a merge upgrades it at any time.
-/

namespace Thought2Build.Integrations

open LatestWrites

namespace TaskEventKind

def state : TaskEventKind → TaskState
  | closed => .done
  | merged => .done
  | reopened => .open

end TaskEventKind

namespace TaskSync

def Consistent (task : TaskSync) : Prop := task.doneVia.isSome = true ↔ task.state = .done

def outcome (task : TaskSync) : TaskState × Option Int × Option DoneVia :=
  (task.state, task.syncedAt, task.doneVia)

def process (task : TaskSync) (events : List (TaskEvent × Int)) : TaskSync :=
  events.foldl (fun task event => task.apply event.2 event.1) task

def inOrder (events : List TaskEvent) : List TaskEvent :=
  events.dedup.insertionSort (·.timestamp ≤ ·.timestamp)

variable {task : TaskSync} {now : Int} {event : TaskEvent} {events others : List TaskEvent}

def register (task : TaskSync) : Register Int TaskState := ⟨task.syncedAt, task.state⟩

section

attribute [local simp] TaskSync.apply

end

theorem register_upgraded (task : TaskSync) (doneVia : DoneVia) :
    (task.upgraded doneVia).register = task.register := by
  unfold upgraded
  split <;> rfl

theorem register_applyDone (task : TaskSync) (now : Int) (doneVia : DoneVia) (eventTs : Int) :
    (task.applyDone now doneVia eventTs).1.register = task.register.put (eventTs, .done) := by
  rw [← register_upgraded task doneVia]
  by_cases old : (task.upgraded doneVia).stale eventTs = true
  · have outdated : (task.upgraded doneVia).register.outdated eventTs = true := old
    simp [applyDone, Register.put, old, outdated]
  · have counts : (task.upgraded doneVia).register.outdated eventTs ≠ true := old
    rw [Register.put, if_neg counts]
    by_cases done : (task.upgraded doneVia).state = .done <;> simp [applyDone, old, done, register]

theorem register_applyReopen (task : TaskSync) (eventTs : Int) :
    (task.applyReopen eventTs).1.register = task.register.put (eventTs, .open) := by
  by_cases old : task.stale eventTs = true
  · have outdated : task.register.outdated eventTs = true := old
    simp [applyReopen, Register.put, old, outdated]
  · have counts : task.register.outdated eventTs ≠ true := old
    rw [Register.put, if_neg counts]
    cases state : task.state <;> simp [applyReopen, old, state, register]

theorem register_apply (task : TaskSync) (now : Int) (event : TaskEvent) :
    (task.apply now event).register = task.register.put (event.timestamp, event.kind.state) := by
  unfold apply
  cases event.kind with
  | closed => exact register_applyDone task now .manual event.timestamp
  | merged => exact register_applyDone task now .prMerge event.timestamp
  | reopened => exact register_applyReopen task event.timestamp

theorem register_process (task : TaskSync) (events : List (TaskEvent × Int)) :
    (task.process events).register =
      (events.map fun event => (event.1.timestamp, event.1.kind.state)).foldl Register.put task.register := by
  induction events generalizing task with
  | nil => rfl
  | cons event rest ih =>
      have later := ih (task.apply event.2 event.1)
      rw [register_apply] at later
      exact later

theorem Consistent.apply (consistent : task.Consistent) (now : Int) (event : TaskEvent) :
    (task.apply now event).Consistent := by
  unfold Consistent at consistent ⊢
  unfold TaskSync.apply
  cases event.kind <;> simp only [applyDone, applyReopen, upgraded, stale] <;> grind

theorem Consistent.process (consistent : task.Consistent) (events : List (TaskEvent × Int)) :
    (task.process events).Consistent := by
  induction events generalizing task with
  | nil => exact consistent
  | cons event rest ih => exact ih (consistent.apply event.2 event.1)

theorem process_snoc (task : TaskSync) (front : List (TaskEvent × Int)) (last : TaskEvent × Int) :
    task.process (front ++ [last]) = (task.process front).apply last.2 last.1 := by
  simp [process, List.foldl_append]

theorem stale_iff {eventTs : Int} :
    task.stale eventTs = true ↔ ∃ kept, task.syncedAt = some kept ∧ eventTs < kept := by
  simp [stale, Option.any_eq_true]

theorem stale_of_le {first second : Int} (old : task.stale second = true) (le : first ≤ second) :
    task.stale first = true := by
  obtain ⟨kept, held, before⟩ := stale_iff.mp old
  exact stale_iff.mpr ⟨kept, held, by omega⟩

theorem stale_after (task : TaskSync) (now : Int) (event : TaskEvent) (eventTs : Int) :
    (task.apply now event).stale eventTs =
      if task.stale event.timestamp then task.stale eventTs else decide (eventTs < event.timestamp) := by
  have times := congrArg Register.time (register_apply task now event)
  unfold Register.put at times
  split at times <;> rename_i old
  · rw [if_pos (show task.stale event.timestamp = true from old), stale, stale]
    exact congrArg (Option.any _) times
  · rw [if_neg (show ¬task.stale event.timestamp = true from old), stale]
    exact congrArg (Option.any _) times

theorem stale_apply {eventTs : Int} (old : task.stale eventTs = true) :
    (task.apply now event).stale eventTs = true := by
  rw [stale_after]
  split
  · exact old
  · rename_i counts
    by_contra reach
    exact counts (stale_of_le old (by simpa using reach))

theorem doneVia_merged_done (kind : event.kind = .merged) (done : task.state = .done) :
    (task.apply now event).doneVia = some .prMerge := by
  simp only [apply, kind, applyDone, upgraded]
  grind

theorem doneVia_merged_counts (kind : event.kind = .merged) (counts : task.stale event.timestamp = false) :
    (task.apply now event).doneVia = some .prMerge := by
  simp only [apply, kind, applyDone, upgraded, stale] at counts ⊢
  grind

theorem doneVia_kept (merged : task.doneVia = some .prMerge) (done : task.state = .done)
    (unreached : event.kind = .reopened → task.stale event.timestamp = true) :
    (task.apply now event).doneVia = some .prMerge := by
  cases kind : event.kind with
  | merged => exact doneVia_merged_done kind done
  | closed =>
      simp only [apply, kind, applyDone, upgraded, stale]
      grind
  | reopened =>
      simp only [apply, kind, applyReopen, unreached kind]
      exact merged

theorem doneVia_unmerged (unmerged : task.doneVia ≠ some .prMerge) (other : event.kind ≠ .merged) :
    (task.apply now event).doneVia ≠ some .prMerge := by
  cases kind : event.kind with
  | merged => exact absurd kind other
  | closed =>
      simp only [apply, kind, applyDone, upgraded, stale]
      grind
  | reopened =>
      simp only [apply, kind, applyReopen, stale]
      grind

theorem state_apply (task : TaskSync) (now : Int) (event : TaskEvent) : (task.apply now event).state =
    if task.stale event.timestamp then task.state else event.kind.state := by
  have registers := congrArg Register.value (register_apply task now event)
  rw [Register.put] at registers
  split at registers <;> rename_i old
  · rw [if_pos (show task.stale event.timestamp = true from old)]
    exact registers
  · rw [if_neg (show ¬task.stale event.timestamp = true from old)]
    exact registers

theorem merge_stays {processed : List (TaskEvent × Int)} (merged : task.doneVia = some .prMerge)
    (done : task.state = .done)
    (unreached : ∀ event ∈ processed.map Prod.fst, event.kind = .reopened → task.stale event.timestamp = true) :
    (task.process processed).doneVia = some .prMerge := by
  induction processed generalizing task with
  | nil => exact merged
  | cons first rest ih =>
      have head := unreached first.1 (by simp)
      refine @ih (task.apply first.2 first.1) (doneVia_kept merged done head) ?_ ?_
      · rw [state_apply, done]
        split
        · rfl
        · rename_i counts
          cases kind : first.1.kind with
          | reopened => exact absurd (head kind) counts
          | closed | merged => rfl
      · intro event member kind
        exact stale_apply (unreached event (List.mem_cons_of_mem _ member) kind)

theorem merge_attributes {merge : TaskEvent} {processed : List (TaskEvent × Int)}
    (member : merge ∈ processed.map Prod.fst) (kind : merge.kind = .merged)
    (done : task.stale merge.timestamp = true → task.state = .done)
    (newer : ∀ event ∈ processed.map Prod.fst, event.kind = .reopened →
      task.stale event.timestamp = true ∨ event.timestamp < merge.timestamp) :
    (task.process processed).doneVia = some .prMerge := by
  induction processed generalizing task with
  | nil => simp at member
  | cons first rest ih =>
      by_cases own : first.1 = merge
      · -- behind the merge every reopen is stale
        have state : (task.apply first.2 first.1).state = .done := by
          rw [state_apply, own, kind]
          split
          · rename_i old
            exact done old
          · rfl
        have via : (task.apply first.2 first.1).doneVia = some .prMerge := by
          by_cases old : task.stale merge.timestamp = true
          · exact doneVia_merged_done (own ▸ kind) (done old)
          · exact doneVia_merged_counts (own ▸ kind) (by simpa [own] using old)
        refine @merge_stays (task.apply first.2 first.1) rest via state ?_
        intro event held reopened
        rcases newer event (List.mem_cons_of_mem _ held) reopened with old | before
        · exact stale_apply old
        · rw [stale_after, own]
          split
          · rename_i old
            exact stale_of_le old before.le
          · simpa using before
      · have later : merge ∈ rest.map Prod.fst := by
          rcases List.mem_cons.mp member with equal | held
          · exact absurd equal.symm own
          · exact held
        refine @ih (task.apply first.2 first.1) later ?_ ?_
        · intro old
          rw [stale_after] at old
          rw [state_apply]
          by_cases behind : task.stale first.1.timestamp = true
          · rw [if_pos behind] at old ⊢
            exact done old
          · rw [if_neg behind] at old ⊢
            cases reopened : first.1.kind with
            | closed | merged => rfl
            | reopened =>
                rw [decide_eq_true_eq] at old
                rcases newer first.1 (by simp) reopened with stale | before
                · exact absurd stale behind
                · omega
        · intro event held reopened
          exact (newer event (List.mem_cons_of_mem _ held) reopened).imp_left stale_apply

theorem no_merge {processed : List (TaskEvent × Int)} (unmerged : task.doneVia ≠ some .prMerge)
    (others : ∀ event ∈ processed.map Prod.fst, event.kind ≠ .merged) :
    (task.process processed).doneVia ≠ some .prMerge := by
  induction processed generalizing task with
  | nil => exact unmerged
  | cons first rest ih =>
      exact @ih (task.apply first.2 first.1) (doneVia_unmerged unmerged (others first.1 (by simp)))
        fun event member => others event (List.mem_cons_of_mem _ member)

def ByMerge (task : TaskSync) (events : List TaskEvent) : Prop :=
  (∃ merge ∈ events, merge.kind = .merged ∧ task.stale merge.timestamp = false ∧
    ∀ reopen ∈ events, reopen.kind = .reopened → task.stale reopen.timestamp = true ∨
      reopen.timestamp < merge.timestamp) ∨
  ((∀ reopen ∈ events, reopen.kind = .reopened → task.stale reopen.timestamp = true) ∧ task.state = .done ∧
    (task.doneVia = some .prMerge ∨ ∃ merge ∈ events, merge.kind = .merged))

def MayMerge (task : TaskSync) (events : List TaskEvent) : Prop :=
  task.doneVia = some .prMerge ∨ ∃ merge ∈ events, merge.kind = .merged

def EndsClosed (task : TaskSync) (events : List TaskEvent) : Prop :=
  ∃ newest ∈ events, newest.kind = .closed ∧ task.stale newest.timestamp = false ∧
    ∀ other ∈ events, other.timestamp ≤ newest.timestamp

theorem ByMerge.attributes {processed : List (TaskEvent × Int)} (byMerge : task.ByMerge events)
    (same : ∀ event, event ∈ processed.map Prod.fst ↔ event ∈ events) :
    (task.process processed).doneVia = some .prMerge := by
  rcases byMerge with ⟨merge, member, kind, counts, newer⟩ | ⟨unreached, done, merged | ⟨merge, member, kind⟩⟩
  · refine merge_attributes ((same merge).mpr member) kind (fun old => ?_) ?_
    · rw [counts] at old
      contradiction
    · intro event held
      exact newer event ((same event).mp held)
  · refine merge_stays merged done ?_
    intro event held
    exact unreached event ((same event).mp held)
  · refine merge_attributes ((same merge).mpr member) kind (fun _ => done) ?_
    intro event held reopened
    exact Or.inl (unreached event ((same event).mp held) reopened)

theorem settled_process (task : TaskSync) (processed : List (TaskEvent × Int)) :
    Settled task.register (processed.map fun event => (event.1.timestamp, event.1.kind.state))
      (task.process processed).register := by
  rw [register_process]
  exact settled_foldl _ _

theorem stale_process_iff {processed : List (TaskEvent × Int)} {eventTs : Int}
    (older : ∀ event ∈ processed.map Prod.fst, event.timestamp < eventTs) :
    (task.process processed).stale eventTs = task.stale eventTs := by
  induction processed generalizing task with
  | nil => rfl
  | cons first rest ih =>
      have before := older first.1 (by simp)
      have later := @ih (task.apply first.2 first.1) fun event member =>
        older event (List.mem_cons_of_mem _ member)
      refine Eq.trans later ?_
      rw [stale_after]
      split
      · rfl
      · rename_i counts
        have fresh : task.stale eventTs = false :=
          Bool.eq_false_iff.mpr fun old => counts (stale_of_le old before.le)
        rw [fresh, decide_eq_false_iff_not]
        omega

theorem state_of_stale {processed : List (TaskEvent × Int)}
    (old : ∀ event ∈ processed.map Prod.fst, task.stale event.timestamp = true) :
    (task.process processed).state = task.state := by
  induction processed generalizing task with
  | nil => rfl
  | cons first rest ih =>
      have head : (task.apply first.2 first.1).state = task.state := by
        rw [state_apply, if_pos (old first.1 (by simp))]
      refine Eq.trans (@ih (task.apply first.2 first.1) ?_) head
      intro event member
      exact stale_apply (old event (List.mem_cons_of_mem _ member))

theorem byMerge_of_sorted {processed : List (TaskEvent × Int)} (consistent : task.Consistent)
    (sorted : (processed.map Prod.fst).Pairwise (·.timestamp < ·.timestamp))
    (merged : (task.process processed).doneVia = some .prMerge) : task.ByMerge (processed.map Prod.fst) := by
  induction processed using List.reverseRecOn with
  | nil =>
      refine Or.inr ⟨by simp, ?_, Or.inl merged⟩
      exact consistent.mp (by rw [show task.doneVia = _ from merged]; rfl)
  | append_singleton front last ih =>
      rw [process_snoc] at merged
      rw [List.map_append, List.pairwise_append] at sorted
      obtain ⟨early, _, apart⟩ := sorted
      have older : ∀ event ∈ front.map Prod.fst, event.timestamp < last.1.timestamp :=
        fun event member => apart event member last.1 (by simp)
      have counts := @stale_process_iff task front last.1.timestamp older
      -- a merge of the front stays the attribution where the last event is no reopen that counts
      have extend : task.ByMerge (front.map Prod.fst) →
          (last.1.kind = .reopened → task.stale last.1.timestamp = true) →
            task.ByMerge ((front ++ [last]).map Prod.fst) := by
        intro byMerge unreached
        rw [List.map_append]
        rcases byMerge with ⟨merge, member, kind, fresh, newer⟩ | ⟨stale, done, via⟩
        · refine Or.inl ⟨merge, List.mem_append_left _ member, kind, fresh, ?_⟩
          intro event held reopened
          rcases List.mem_append.mp held with old | new
          · exact newer event old reopened
          · rw [List.map_singleton, List.mem_singleton] at new
            subst new
            exact Or.inl (unreached reopened)
        · refine Or.inr ⟨?_, done, via.imp_right fun ⟨merge, member, kind⟩ =>
            ⟨merge, List.mem_append_left _ member, kind⟩⟩
          intro event held reopened
          rcases List.mem_append.mp held with old | new
          · exact stale event old reopened
          · rw [List.map_singleton, List.mem_singleton] at new
            subst new
            exact unreached reopened
      cases kind : last.1.kind with
      | closed =>
          have before : (task.process front).doneVia = some .prMerge := by
            by_contra unmerged
            exact doneVia_unmerged unmerged (by rw [kind]; decide) merged
          exact extend (ih early before) (by rw [kind]; exact nofun)
      | merged =>
          by_cases fresh : task.stale last.1.timestamp = true
          · -- every event is stale, so the task was done before the first of them
            have old : ∀ event ∈ front.map Prod.fst, task.stale event.timestamp = true :=
              fun event member => stale_of_le fresh (older event member).le
            have kept := state_of_stale old
            have done : ((task.process front).apply last.2 last.1).state = .done :=
              ((consistent.process front).apply last.2 last.1).mp (by rw [merged]; rfl)
            rw [state_apply, counts, if_pos fresh, kept] at done
            refine Or.inr ⟨?_, done, Or.inr ⟨last.1, by simp, kind⟩⟩
            intro event held reopened
            rw [List.map_append] at held
            rcases List.mem_append.mp held with front | new
            · exact old event front
            · rw [List.map_singleton, List.mem_singleton] at new
              rw [new, kind] at reopened
              contradiction
          · refine Or.inl ⟨last.1, by simp, kind, by simpa using fresh, ?_⟩
            intro event held reopened
            rw [List.map_append] at held
            rcases List.mem_append.mp held with front | new
            · exact Or.inr (older event front)
            · rw [List.map_singleton, List.mem_singleton] at new
              rw [new, kind] at reopened
              contradiction
      | reopened =>
          by_cases fresh : task.stale last.1.timestamp = true
          · have same : (task.process front).apply last.2 last.1 = task.process front := by
              simp only [apply, kind, applyReopen, counts, fresh, if_true]
            rw [same] at merged
            exact extend (ih early merged) fun _ => fresh
          · have done : ((task.process front).apply last.2 last.1).state = .done :=
              ((consistent.process front).apply last.2 last.1).mp (by rw [merged]; rfl)
            rw [state_apply, counts, if_neg fresh, kind] at done
            contradiction

theorem mem_inOrder {events : List TaskEvent} : event ∈ inOrder events ↔ event ∈ events := by
  rw [inOrder, List.mem_insertionSort, List.mem_dedup]

theorem inOrder_sorted (distinct : ∀ first ∈ events, ∀ second ∈ events,
    first.timestamp = second.timestamp → first = second) :
    (inOrder events).Pairwise (·.timestamp < ·.timestamp) := by
  have sorted : (inOrder events).Pairwise (·.timestamp ≤ ·.timestamp) := List.pairwise_insertionSort _ _
  have once : (inOrder events).Nodup := (List.perm_insertionSort _ _).nodup_iff.mpr (List.nodup_dedup _)
  refine (sorted.and once).imp_of_mem ?_
  rintro first second held other ⟨le, apart⟩
  have differ : first.timestamp ≠ second.timestamp := fun equal =>
    apart (distinct first (mem_inOrder.mp held) second (mem_inOrder.mp other) equal)
  omega

def Attributable (task : TaskSync) (events : List TaskEvent) : Prop :=
  task.EndsClosed events → task.MayMerge events → task.ByMerge events

theorem Attributable.decided {processed : List (TaskEvent × Int)} (attributable : task.Attributable events)
    (distinct : ∀ first ∈ events, ∀ second ∈ events, first.timestamp = second.timestamp → first = second)
    (same : ∀ event, event ∈ processed.map Prod.fst ↔ event ∈ events)
    (done : (task.process processed).state = .done) : task.ByMerge events ∨ ¬task.MayMerge events := by
  by_cases may : task.MayMerge events
  · left
    have settled := settled_process task processed
    generalize register : (task.process processed).register = after at settled
    cases settled with
    | kept outdated =>
        have stale : ∀ event ∈ events, task.stale event.timestamp = true := by
          intro event member
          obtain ⟨delivery, held, rfl⟩ := List.mem_map.mp ((same event).mpr member)
          exact outdated _ (List.mem_map_of_mem held)
        have state : task.state = .done := by
          rw [← done]
          exact (congrArg Register.value register).symm
        exact Or.inr ⟨fun reopen member _ => stale reopen member, state, may⟩
    | latest member counts newest =>
        obtain ⟨delivery, held, rfl⟩ := List.mem_map.mp member
        have reach : ∀ other ∈ events, other.timestamp ≤ delivery.1.timestamp := by
          intro other member
          obtain ⟨second, found, rfl⟩ := List.mem_map.mp ((same other).mpr member)
          exact newest _ (List.mem_map_of_mem (f := fun event => (event.1.timestamp, event.1.kind.state)) found)
        have own : delivery.1 ∈ events := (same _).mp (List.mem_map_of_mem held)
        have state : delivery.1.kind.state = .done := by
          rw [← done]
          exact (congrArg Register.value register).symm
        cases kind : delivery.1.kind with
        | reopened =>
            rw [kind] at state
            contradiction
        | closed => exact attributable ⟨delivery.1, own, kind, counts, reach⟩ may
        | merged =>
            refine Or.inl ⟨delivery.1, own, kind, counts, ?_⟩
            intro reopen member reopened
            have apart : reopen.timestamp ≠ delivery.1.timestamp := by
              intro equal
              rw [distinct reopen member _ own equal, kind] at reopened
              contradiction
            have le := reach reopen member
            exact Or.inr (by omega)
  · exact Or.inr may

theorem doneVia_eq {first second : TaskSync} (one : first.Consistent) (two : second.Consistent)
    (state : first.state = second.state)
    (merged : first.state = .done → (first.doneVia = some .prMerge ↔ second.doneVia = some .prMerge)) :
    first.doneVia = second.doneVia := by
  unfold Consistent at one two
  rcases first with ⟨firstState, _, firstVia, _⟩
  rcases second with ⟨secondState, _, secondVia, _⟩
  rcases firstVia with _ | firstVia <;> rcases secondVia with _ | secondVia <;> simp_all
  cases firstVia <;> cases secondVia <;> simp_all

theorem merge_after_close {last : TaskEvent} {rest : List (TaskEvent × Int)} (consistent : task.Consistent)
    (may : task.MayMerge (rest.map Prod.fst)) (kind : last.kind = .closed)
    (counts : task.stale last.timestamp = false)
    (older : ∀ event ∈ rest.map Prod.fst, event.kind = .reopened → event.timestamp < last.timestamp) :
    (task.process ((last, now) :: rest)).doneVia = some .prMerge := by
  have closed : (task.apply now last).state = .done := by
    rw [state_apply, counts, kind]
    rfl
  have unreached : ∀ event ∈ rest.map Prod.fst, event.kind = .reopened →
      (task.apply now last).stale event.timestamp = true := by
    intro event member reopened
    rw [stale_after, counts]
    simpa using older event member reopened
  rcases may with merged | ⟨merge, member, merges⟩
  · have done : task.state = .done := consistent.mp (by rw [merged]; rfl)
    have kept : (task.apply now last).doneVia = some .prMerge :=
      doneVia_kept merged done (by rw [kind]; exact nofun)
    exact @merge_stays (task.apply now last) rest kept closed unreached
  · exact @merge_attributes (task.apply now last) merge rest member merges (fun _ => closed)
      fun event held reopened => Or.inl (unreached event held reopened)

/-- Events of one issue leave its row the same in every order, repeated or not, exactly if they are attributable. -/
theorem event_order_does_not_matter_iff (task : TaskSync) (consistent : task.Consistent)
    (events : List TaskEvent)
    (distinct : ∀ first ∈ events, ∀ second ∈ events, first.timestamp = second.timestamp → first = second) :
    (∀ processed inTurn : List (TaskEvent × Int),
      (∀ event, event ∈ processed.map Prod.fst ↔ event ∈ events) → inTurn.map Prod.fst = inOrder events →
        (task.process processed).outcome = (task.process inTurn).outcome) ↔ task.Attributable events := by
  have clocked : ∀ events : List TaskEvent, (events.map fun event => (event, (0 : Int))).map Prod.fst = events := by
    intro events
    simp [Function.comp_def]
  constructor
  · rintro alike ⟨last, member, kind, counts, newest⟩ may
    have same : ∀ event, event ∈ ((last, (0 : Int)) :: events.map fun event => (event, (0 : Int))).map Prod.fst ↔
        event ∈ events := by
      intro event
      rw [List.map_cons, clocked, List.mem_cons]
      exact ⟨fun held => held.elim (fun equal => equal ▸ member) id, Or.inr⟩
    have older : ∀ event ∈ (events.map fun event => (event, (0 : Int))).map Prod.fst,
        event.kind = .reopened → event.timestamp < last.timestamp := by
      rw [clocked]
      intro event held reopened
      have apart : event.timestamp ≠ last.timestamp := by
        intro equal
        rw [distinct event held last member equal, kind] at reopened
        contradiction
      have le := newest event held
      omega
    have first := @merge_after_close task 0 last (events.map fun event => (event, (0 : Int))) consistent
      (by rwa [clocked]) kind counts older
    have outcome := alike _ ((inOrder events).map fun event => (event, 0)) same (clocked _)
    have via := (congrArg (fun outcome => outcome.2.2) outcome).symm.trans first
    have byMerge := byMerge_of_sorted consistent (by rw [clocked]; exact inOrder_sorted distinct) via
    rw [clocked] at byMerge
    simpa only [ByMerge, mem_inOrder] using byMerge
  · intro attributable processed inTurn same turn
    have sameTurn : ∀ event, event ∈ inTurn.map Prod.fst ↔ event ∈ events := by
      intro event
      rw [turn, mem_inOrder]
    have writes : ∀ events : List (TaskEvent × Int),
        (events.map fun event => (event.1.timestamp, event.1.kind.state)) =
          (events.map Prod.fst).map fun event => (event.timestamp, event.kind.state) := by
      intro events
      rw [List.map_map]
      rfl
    have registers : (task.process processed).register = (task.process inTurn).register := by
      refine (settled_process task processed).unique (settled_process task inTurn) ?_ ?_
      · intro write
        rw [writes, writes, List.mem_map, List.mem_map]
        simp only [same, sameTurn]
      · rw [writes]
        intro write member other held equal
        obtain ⟨first, found, rfl⟩ := List.mem_map.mp member
        obtain ⟨second, taken, rfl⟩ := List.mem_map.mp held
        rw [distinct first ((same first).mp found) second ((same second).mp taken) equal]
    have state : (task.process processed).state = (task.process inTurn).state :=
      congrArg Register.value registers
    have via : (task.process processed).doneVia = (task.process inTurn).doneVia := by
      refine doneVia_eq (consistent.process processed) (consistent.process inTurn) state ?_
      intro done
      rcases attributable.decided distinct same done with byMerge | never
      · simp only [byMerge.attributes same, byMerge.attributes sameTurn]
      · simp only [MayMerge, not_or, not_exists, not_and] at never
        refine iff_of_false (no_merge never.1 ?_) (no_merge never.1 ?_)
        · exact fun event member => never.2 event ((same event).mp member)
        · exact fun event member => never.2 event ((sameTurn event).mp member)
    have times : (task.process processed).syncedAt = (task.process inTurn).syncedAt :=
      congrArg Register.time registers
    rw [outcome, outcome, state, via, times]

theorem event_order_does_not_matter_iff_sample :
    (∀ processed inTurn : List (TaskEvent × Int),
      (∀ event, event ∈ processed.map Prod.fst ↔ event ∈ [⟨.merged, 3⟩, ⟨.closed, 5⟩]) →
        inTurn.map Prod.fst = inOrder [⟨.merged, 3⟩, ⟨.closed, 5⟩] →
          (process {} processed).outcome = (process {} inTurn).outcome) ↔
      Attributable {} [⟨.merged, 3⟩, ⟨.closed, 5⟩] :=
  event_order_does_not_matter_iff {} (by simp [Consistent]) [⟨.merged, 3⟩, ⟨.closed, 5⟩] (by decide)

theorem late_merge_overrides_later_close :
    ¬∀ processed inTurn : List (TaskEvent × Int),
      (∀ event, event ∈ processed.map Prod.fst ↔
        event ∈ [⟨.merged, 1⟩, ⟨.reopened, 2⟩, ⟨.closed, 3⟩]) →
        inTurn.map Prod.fst = inOrder [⟨.merged, 1⟩, ⟨.reopened, 2⟩, ⟨.closed, 3⟩] →
          (process {} processed).outcome = (process {} inTurn).outcome := by
  intro alike
  have outcomes := alike [(⟨.reopened, 2⟩, 0), (⟨.closed, 3⟩, 0), (⟨.merged, 1⟩, 0)]
    [(⟨.merged, 1⟩, 0), (⟨.reopened, 2⟩, 0), (⟨.closed, 3⟩, 0)]
    (by intro event; simp only [List.map_cons, List.map_nil, List.mem_cons, List.not_mem_nil]; tauto)
    (by decide)
  revert outcomes
  decide

end TaskSync

namespace Delivery

variable {texts : Texts} {now : Int} {tasks : List TrackedTask}

def eventsFor (texts : Texts) (number : Nat) : Delivery → List TaskEvent
  | issues action (some issue) (some eventTs) =>
      if issue ≠ number then []
      else if action = "closed" then [⟨.closed, eventTs⟩]
      else if action = "reopened" then [⟨.reopened, eventTs⟩]
      else []
  | pullRequest action merged body (some eventTs) =>
      if action = "closed" ∧ merged then
        ((texts.closedIssues (body.getD "")).filter (· = number)).map fun _ => ⟨.merged, eventTs⟩
      else []
  | _ => []

def processed (tasks : List TrackedTask) (events : Nat → List (TaskEvent × Int)) : List TrackedTask :=
  tasks.map fun task => { task with sync := task.sync.process (events task.externalIssueNumber) }

theorem processed_nothing {events : Nat → List (TaskEvent × Int)} (nothing : ∀ number, events number = []) :
    processed tasks events = tasks := by
  simp [processed, nothing, TaskSync.process]

theorem processed_processed (first second : Nat → List (TaskEvent × Int)) :
    processed (processed tasks first) second = processed tasks fun number => first number ++ second number := by
  simp [processed, TaskSync.process, List.foldl_append]

theorem onMatched_eq (number : Nat) {change : TaskSync → TaskSync} {events : List (TaskEvent × Int)}
    (same : ∀ task, change task = task.process events) :
    onMatched tasks number change = processed tasks fun other => if other = number then events else [] := by
  refine List.map_congr_left ?_
  intro task _
  by_cases own : task.externalIssueNumber = number
  · simp [own, same]
  · simp [own, TaskSync.process]

theorem reconcileMergedPr_eq (eventTs : Int) (numbers : List Nat) :
    numbers.foldl (fun tasks number => onMatched tasks number fun task =>
      (task.applyDone now .prMerge eventTs).1) tasks =
        processed tasks fun other => (numbers.filter (· = other)).map fun _ => (⟨.merged, eventTs⟩, now) := by
  induction numbers generalizing tasks with
  | nil => exact (processed_nothing fun _ => rfl).symm
  | cons first rest ih =>
      have head := @onMatched_eq tasks first (fun task => (task.applyDone now .prMerge eventTs).1)
        [(⟨.merged, eventTs⟩, now)] fun _ => rfl
      rw [List.foldl_cons, ih, head, processed_processed]
      congr 1
      funext other
      by_cases own : other = first
      · subst own
        simp
      · simp [own, Ne.symm own]

theorem dispatch_eq (delivery : Delivery) : dispatch texts now tasks delivery =
    processed tasks fun number => (eventsFor texts number delivery).map fun event => (event, now) := by
  have nothing : (∀ number, eventsFor texts number delivery = []) →
      tasks = processed tasks fun number => (eventsFor texts number delivery).map fun event => (event, now) := by
    intro none
    exact (processed_nothing fun number => by rw [none number]; rfl).symm
  cases delivery with
  | issues action number timestamp =>
      rcases number with _ | number
      · simpa [dispatch, reconcileIssue] using nothing fun _ => rfl
      · rcases timestamp with _ | eventTs
        · simpa [dispatch, reconcileIssue] using nothing fun _ => rfl
        · by_cases closed : action = "closed"
          · subst closed
            have rows := @onMatched_eq tasks number (fun task => (task.applyDone now .manual eventTs).1)
              [(⟨.closed, eventTs⟩, now)] fun _ => rfl
            simp only [dispatch, reconcileIssue, eventsFor]
            refine Eq.trans rows ?_
            congr 1
            funext other
            by_cases own : other = number
            · subst own
              simp
            · simp [own, Ne.symm own]
          · by_cases reopened : action = "reopened"
            · subst reopened
              have rows := @onMatched_eq tasks number (fun task => (task.applyReopen eventTs).1)
                [(⟨.reopened, eventTs⟩, now)] fun _ => rfl
              simp only [dispatch, reconcileIssue, eventsFor]
              refine Eq.trans rows ?_
              congr 1
              funext other
              by_cases own : other = number
              · subst own
                simp
              · simp [own, Ne.symm own]
            · have none : ∀ other, eventsFor texts other (.issues action (some number) (some eventTs)) = [] := by
                intro other
                simp [eventsFor, closed, reopened]
              refine Eq.trans ?_ (nothing none)
              by_cases edited : action = "edited" <;> simp [dispatch, reconcileIssue, closed, reopened, edited]
  | pullRequest action merged body timestamp =>
      rcases timestamp with _ | eventTs
      · refine Eq.trans ?_ (nothing fun _ => rfl)
        simp [dispatch, reconcileMergedPr]
      · by_cases closes : action = "closed" ∧ merged = true
        · simp only [dispatch, if_pos closes, reconcileMergedPr, eventsFor, reconcileMergedPr_eq]
          congr 1
          funext other
          simp
        · refine Eq.trans ?_ (nothing fun other => by simp only [eventsFor, if_neg closes])
          simp only [dispatch, if_neg closes]

/-- A run of deliveries acts on each task as the events of its own issue. -/
theorem deliveries_process (deliveries : List (Delivery × Int)) :
    deliveries.foldl (fun tasks delivery => dispatch texts delivery.2 tasks delivery.1) tasks =
      processed tasks fun number => deliveries.flatMap fun delivery =>
        (eventsFor texts number delivery.1).map fun event => (event, delivery.2) := by
  induction deliveries generalizing tasks with
  | nil => exact (processed_nothing fun _ => rfl).symm
  | cons first rest ih => rw [List.foldl_cons, ih, dispatch_eq, processed_processed]; rfl

end Delivery

end Thought2Build.Integrations
