import Thought2Build.Pipeline.RecoverableStages

/-!
What a recovery sweep leaves of the stuck items, where some of their settlements raise.
-/

namespace Thought2Build.Pipeline

open Histories Sweeps StageRecord

namespace RecoveryRows

section

variable (recovery : Recovery) (now : Int)

def Pending (rows : RecoveryRows) : StuckItem → Prop
  | .run stage id => ∃ record, rows.records[stage]? = some record ∧
      ∃ run, record.runs[id]? = some run ∧ recovery.Dead now run = true
  | .legacy stage => ∃ record, rows.records[stage]? = some record ∧ Recovery.Abandoned record = true
  | .checking stage => ∃ record, rows.records[stage]? = some record ∧ recovery.Overdue now record = true
  | .storyboard row => ∃ storyboard, rows.storyboards[row]? = some storyboard ∧ storyboard.Stuck now = true
  | .increment row => ∃ increment, rows.increments[row]? = some increment ∧ increment.Stuck now = true

def Sound (rows : RecoveryRows) : Prop := ∀ record ∈ rows.records, record.Recoverable

def Replaces (rows : RecoveryRows) (item other : StuckItem) : Prop :=
  ∃ stage id record run, item = .run stage id ∧ other = .checking stage ∧
    rows.records[stage]? = some record ∧ record.runs[id]? = some run ∧
      (interruption recovery now run).Saves run

end

variable {recovery : Recovery} {now : Int} {rows next : RecoveryRows} {item other : StuckItem}

theorem Dead.running {run : GenerationRun} (dead : recovery.Dead now run = true) : run.status = .running := by
  simp only [Recovery.Dead, Bool.and_eq_true, decide_eq_true_eq] at dead
  exact dead.1

theorem onStage_eq_some {stage : Nat} {transaction : StageRecord → Except StageError Committed} :
    rows.onStage stage transaction = some next ↔ ∃ record committed, rows.records[stage]? = some record ∧
      transaction record = .ok committed ∧
        next = { rows with records := rows.records.set stage committed.record } := by
  simp only [onStage, Option.bind_eq_bind, Option.bind_eq_some_iff, Option.pure_def, Option.some.injEq]
  constructor
  · rintro ⟨record, found, committed, done, rfl⟩
    cases outcome : transaction record with
    | error _ => simp [outcome, Except.toOption] at done
    | ok result =>
        obtain rfl : result = committed := by simpa [outcome, Except.toOption] using done
        exact ⟨record, result, found, outcome, rfl⟩
  · rintro ⟨record, committed, found, done, rfl⟩
    exact ⟨record, found, committed, by simp [done, Except.toOption], rfl⟩

theorem settled_recoverRun {id : Nat} {record : StageRecord} {committed : Committed}
    (recoverable : record.Recoverable) (done : recoverRun recovery now id record = .ok committed) :
    Settled record committed.record := by
  unfold recoverRun at done
  split at done
  · contradiction
  · exact settled_terminalize recoverable done

theorem settle_cases (sound : rows.Sound) (done : settle recovery now item rows = some next) :
    (∃ stage record committed, rows.records[stage]? = some record ∧ Settled record committed ∧
      next = { rows with records := rows.records.set stage committed }) ∨
    (∃ row storyboard, item = .storyboard row ∧ rows.storyboards[row]? = some storyboard ∧
      next = { rows.refund storyboard.deduction with
        storyboards := rows.storyboards.set row { storyboard with status := .failed, updatedAt := now } }) ∨
    (∃ row increment, item = .increment row ∧ rows.increments[row]? = some increment ∧
      next = { rows.refund increment.deduction with
        increments := rows.increments.set row { increment with status := .draft, updatedAt := now } }) := by
  have works : ¬recovery.raises item = true := by
    intro raises
    simp [settle, raises] at done
  have stored : ∀ {stage : Nat} {record : StageRecord}, rows.records[stage]? = some record →
      record.Recoverable := fun found => sound _ (List.mem_of_getElem? found)
  unfold settle at done
  rw [if_neg works] at done
  cases item with
  | run stage id =>
      obtain ⟨record, committed, found, ends, rfl⟩ := onStage_eq_some.mp done
      exact Or.inl ⟨stage, record, committed.record, found, settled_recoverRun (stored found) ends, rfl⟩
  | legacy stage =>
      obtain ⟨record, committed, found, ends, rfl⟩ := onStage_eq_some.mp done
      have settled := (settled_recoverLegacyStage (stored found) ends).1
      exact Or.inl ⟨stage, record, committed.record, found, settled, rfl⟩
  | checking stage =>
      obtain ⟨record, committed, found, ends, rfl⟩ := onStage_eq_some.mp done
      have settled := (settled_recoverChecking (stored found) ends).1
      exact Or.inl ⟨stage, record, committed.record, found, settled, rfl⟩
  | storyboard row =>
      obtain ⟨storyboard, found, rfl⟩ := Option.map_eq_some_iff.mp done
      exact Or.inr (Or.inl ⟨row, storyboard, rfl, found, rfl⟩)
  | increment row =>
      obtain ⟨increment, found, rfl⟩ := Option.map_eq_some_iff.mp done
      exact Or.inr (Or.inr ⟨row, increment, rfl, found, rfl⟩)

theorem overdue_of_gate {record after : StageRecord} (recoverable : record.Recoverable)
    (gate : after.stage.gate = record.stage.gate) :
    recovery.Overdue now after = true ↔ recovery.Overdue now record = true := by
  simp only [Recovery.Overdue, gate, Bool.and_eq_true, decide_eq_true_eq]
  refine and_congr_right fun checking => ?_
  obtain ⟨start, started⟩ := Option.isSome_iff_exists.mp (recoverable.since checking)
  simp [started]

theorem pending_of_settled {stage : Nat} {record after : StageRecord} {time : Int}
    (found : rows.records[stage]? = some record) (settled : Settled record after) (recoverable : record.Recoverable)
    (pending : Pending recovery time { rows with records := rows.records.set stage after } other) :
    Pending recovery time rows other := by
  have reads : ∀ {place : Nat} {held : StageRecord}, (rows.records.set stage after)[place]? = some held →
      place = stage ∧ held = after ∨ rows.records[place]? = some held := by
    intro place held read
    rw [List.getElem?_set] at read
    split at read
    · rename_i same
      split at read
      · exact Or.inl ⟨same.symm, (Option.some.inj read).symm⟩
      · contradiction
    · exact Or.inr read
  cases other with
  | run place id =>
      obtain ⟨held, read, run, running, dead⟩ := pending
      rcases reads read with ⟨rfl, rfl⟩ | kept
      · exact ⟨record, found, run, settled.runs running (Dead.running dead), dead⟩
      · exact ⟨held, kept, run, running, dead⟩
  | legacy place =>
      obtain ⟨held, read, abandoned⟩ := pending
      rcases reads read with ⟨rfl, rfl⟩ | kept
      · exact ⟨record, found, settled.abandoned abandoned⟩
      · exact ⟨held, kept, abandoned⟩
  | checking place =>
      obtain ⟨held, read, overdue⟩ := pending
      rcases reads read with ⟨rfl, rfl⟩ | kept
      · have checking : held.stage.gate.status = .checking := by
          simp only [Recovery.Overdue, Bool.and_eq_true, decide_eq_true_eq] at overdue
          exact overdue.1
        exact ⟨record, found, (overdue_of_gate recoverable (settled.gate checking)).mp overdue⟩
      · exact ⟨held, kept, overdue⟩
  | storyboard row => exact pending
  | increment row => exact pending

theorem exists_set {α : Type} {list : List α} {row position : Nat} {old new : α} {meets : α → Prop}
    (found : list[row]? = some old) :
    (∃ held, (list.set row new)[position]? = some held ∧ meets held) ↔
      if position = row then meets new else ∃ held, list[position]? = some held ∧ meets held := by
  have inside : row < list.length := (List.getElem?_eq_some_iff.mp found).1
  by_cases same : position = row
  · subst same
    simp [List.getElem?_set_self inside]
  · rw [if_neg same, List.getElem?_set_ne (Ne.symm same)]

theorem settle_keeps (sound : rows.Sound) (done : settle recovery now item rows = some next) :
    next.Sound ∧ ∀ time other, Pending recovery time next other → Pending recovery time rows other := by
  rcases settle_cases sound done with ⟨stage, record, after, found, settled, rfl⟩ |
    ⟨row, storyboard, rfl, found, rfl⟩ | ⟨row, increment, rfl, found, rfl⟩
  · refine ⟨?_, fun time other => pending_of_settled found settled (sound record (List.mem_of_getElem? found))⟩
    intro held member
    rcases List.mem_or_eq_of_mem_set member with old | rfl
    · exact sound held old
    · exact settled.recoverable
  · refine ⟨sound, fun time other pending => ?_⟩
    cases other with
    | storyboard position =>
        have left := (exists_set found).mp pending
        split at left
        · simp [Storyboard.Stuck] at left
        · exact left
    | _ => exact pending
  · refine ⟨sound, fun time other pending => ?_⟩
    cases other with
    | increment position =>
        have left := (exists_set found).mp pending
        split at left
        · simp [Increment.Stuck] at left
        · exact left
    | _ => exact pending

theorem settleAll_keeps {items : List StuckItem} (sound : rows.Sound)
    (done : settleAll (settle recovery now) items rows = some next) :
    next.Sound ∧ ∀ time other, Pending recovery time next other → Pending recovery time rows other := by
  induction items generalizing rows with
  | nil =>
      obtain rfl : rows = next := by simpa [settleAll] using done
      exact ⟨sound, fun _ _ pending => pending⟩
  | cons item rest ih =>
      obtain ⟨between, first, later⟩ := Option.bind_eq_some_iff.mp done
      obtain ⟨soundBetween, kept⟩ := settle_keeps sound first
      obtain ⟨soundNext, keptNext⟩ := ih soundBetween later
      exact ⟨soundNext, fun time other pending => kept time other (keptNext time other pending)⟩

theorem recoverStuckStages_keeps (sound : rows.Sound) :
    (recoverStuckStages recovery now rows).Sound ∧ ∀ time other,
      Pending recovery time (recoverStuckStages recovery now rows) other → Pending recovery time rows other := by
  obtain ⟨items, settled⟩ := sweep_whole (settle recovery now) (deadRuns recovery now)
    (plan recovery now) rows
  exact settleAll_keeps sound settled

theorem pending_set {stage : Nat} {record after : StageRecord} (found : rows.records[stage]? = some record)
    (elsewhere : ∀ other, other.stage? ≠ some stage → other ≠ item ∧ ¬Replaces recovery now rows item other)
    (runs : ∀ id, (∃ run, after.runs[id]? = some run ∧ recovery.Dead now run = true) ↔
      (∃ run, record.runs[id]? = some run ∧ recovery.Dead now run = true) ∧ .run stage id ≠ item)
    (legacy : Recovery.Abandoned after = true ↔ Recovery.Abandoned record = true ∧ .legacy stage ≠ item)
    (checking : recovery.Overdue now after = true ↔ recovery.Overdue now record = true ∧
      .checking stage ≠ item ∧ ¬Replaces recovery now rows item (.checking stage)) (other : StuckItem) :
    Pending recovery now { rows with records := rows.records.set stage after } other ↔
      Pending recovery now rows other ∧ other ≠ item ∧ ¬Replaces recovery now rows item other := by
  have plain : ∀ {other : StuckItem}, (∀ place, other ≠ .checking place) →
      ¬Replaces recovery now rows item other := by
    rintro other unlike ⟨place, _, _, _, _, same, _⟩
    exact unlike place same
  cases other with
  | run place id =>
      rw [Pending, exists_set found, Pending]
      split
      · rename_i same
        subst same
        simp [runs, found, plain]
      · rename_i different
        obtain ⟨apart, free⟩ := elsewhere (.run place id) (by simpa [StuckItem.stage?] using different)
        simp [apart, free]
  | legacy place =>
      rw [Pending, exists_set found, Pending]
      split
      · rename_i same
        subst same
        simp [legacy, found, plain]
      · rename_i different
        obtain ⟨apart, free⟩ := elsewhere (.legacy place) (by simpa [StuckItem.stage?] using different)
        simp [apart, free]
  | checking place =>
      rw [Pending, exists_set found, Pending]
      split
      · rename_i same
        subst same
        simp [checking, found]
      · rename_i different
        obtain ⟨apart, free⟩ := elsewhere (.checking place) (by simpa [StuckItem.stage?] using different)
        simp [apart, free]
  | storyboard row =>
      obtain ⟨apart, free⟩ := elsewhere (.storyboard row) (by simp [StuckItem.stage?])
      simp [Pending, apart, free]
  | increment row =>
      obtain ⟨apart, free⟩ := elsewhere (.increment row) (by simp [StuckItem.stage?])
      simp [Pending, apart, free]

theorem replaces_iff {stage id : Nat} {record : StageRecord} {run : GenerationRun}
    (found : rows.records[stage]? = some record) (held : record.runs[id]? = some run) :
    Replaces recovery now rows (.run stage id) other ↔
      other = .checking stage ∧ (interruption recovery now run).Saves run := by
  constructor
  · rintro ⟨_, _, former, late, ⟨rfl, rfl⟩, rfl, place, was, saves⟩
    obtain rfl := Option.some.inj (place.symm.trans found)
    obtain rfl := Option.some.inj (was.symm.trans held)
    exact ⟨rfl, saves⟩
  · rintro ⟨rfl, saves⟩
    exact ⟨stage, id, record, run, rfl, rfl, found, held, saves⟩

theorem elsewhere {stage : Nat} (own : item.stage? = some stage) (other : StuckItem)
    (apart : other.stage? ≠ some stage) : other ≠ item ∧ ¬Replaces recovery now rows item other := by
  constructor
  · rintro rfl
    exact apart own
  · rintro ⟨place, id, _, _, rfl, rfl, _⟩
    exact apart own

theorem run_takes {stage id : Nat} (sound : rows.Sound) (pending : Pending recovery now rows (.run stage id))
    (done : rows.onStage stage (recoverRun recovery now id) = some next) (other : StuckItem) :
    Pending recovery now next other ↔ Pending recovery now rows other ∧ other ≠ .run stage id ∧
      ¬Replaces recovery now rows (.run stage id) other := by
  obtain ⟨record, found, run, running, dead⟩ := pending
  obtain ⟨held, committed, read, ends, rfl⟩ := onStage_eq_some.mp done
  obtain rfl := Option.some.inj (read.symm.trans found)
  have recoverable := sound _ (List.mem_of_getElem? found)
  have alive := Dead.running dead
  have active : held.Active := ⟨run, List.mem_of_getElem? running, alive⟩
  simp only [recoverRun, running] at ends
  obtain ⟨settled, idle, out, keeps, replaces⟩ := settled_interrupted recoverable running alive ends
  refine pending_set found (elsewhere rfl) ?_ ?_ ?_ other
  · intro position
    constructor
    · rintro ⟨other, still, late⟩
      exact absurd ⟨other, List.mem_of_getElem? still, Dead.running late⟩ idle
    · rintro ⟨⟨other, was, late⟩, different⟩
      obtain rfl := recoverable.alone was running (Dead.running late) alive
      exact absurd rfl different
  · simp [Recovery.Abandoned, out, active]
  · have same : Replaces recovery now rows (.run stage id) (.checking stage) ↔ _ := replaces_iff found running
    by_cases saves : (interruption recovery now run).Saves run
    · simp [Recovery.Overdue, replaces saves, same, saves]
    · simp [overdue_of_gate recoverable (keeps saves), same, saves]

theorem settle_takes (sound : rows.Sound) (pending : Pending recovery now rows item)
    (done : settle recovery now item rows = some next) (other : StuckItem) :
    Pending recovery now next other ↔
      Pending recovery now rows other ∧ other ≠ item ∧ ¬Replaces recovery now rows item other := by
  have works : recovery.raises item ≠ true := by
    intro raises
    simp [settle, raises] at done
  unfold settle at done
  rw [if_neg works] at done
  cases item with
  | run stage id => exact run_takes sound pending done other
  | legacy stage =>
      obtain ⟨record, committed, found, ends, rfl⟩ := onStage_eq_some.mp done
      obtain ⟨settled, runs, gate, out⟩ := settled_recoverLegacyStage (sound _ (List.mem_of_getElem? found)) ends
      have plain : ¬Replaces recovery now rows (.legacy stage) (.checking stage) := by
        rintro ⟨_, _, _, _, unlike, _⟩
        contradiction
      refine pending_set found (elsewhere rfl) ?_ ?_ ?_ other
      · simp [runs]
      · simp [Recovery.Abandoned, out]
      · simp [overdue_of_gate (sound _ (List.mem_of_getElem? found)) gate, plain]
  | checking stage =>
      obtain ⟨record, committed, found, ends, rfl⟩ := onStage_eq_some.mp done
      obtain ⟨settled, runs, status, gate⟩ := settled_recoverChecking (sound _ (List.mem_of_getElem? found)) ends
      refine pending_set found (elsewhere rfl) ?_ ?_ ?_ other
      · simp [runs]
      · simp [Recovery.Abandoned, StageRecord.Active, status, runs]
      · simp [Recovery.Overdue, gate]
  | storyboard row =>
      obtain ⟨storyboard, found, rfl⟩ := Option.map_eq_some_iff.mp done
      have plain : ¬Replaces recovery now rows (.storyboard row) other := by
        rintro ⟨_, _, _, _, unlike, _⟩
        contradiction
      cases other with
      | storyboard position =>
          rw [Pending, exists_set found, Pending]
          split
          · rename_i same
            simp [Storyboard.Stuck, same]
          · rename_i different
            simp [different, plain]
      | _ => simp [Pending, refund, plain]
  | increment row =>
      obtain ⟨increment, found, rfl⟩ := Option.map_eq_some_iff.mp done
      have plain : ¬Replaces recovery now rows (.increment row) other := by
        rintro ⟨_, _, _, _, unlike, _⟩
        contradiction
      cases other with
      | increment position =>
          rw [Pending, exists_set found, Pending]
          split
          · rename_i same
            simp [Increment.Stuck, same]
          · rename_i different
            simp [different, plain]
      | _ => simp [Pending, refund, plain]

theorem run_before {stage id : Nat} {record : StageRecord} {run : GenerationRun} (sound : rows.Sound)
    (done : settle recovery now item rows = some next) (found : next.records[stage]? = some record)
    (held : record.runs[id]? = some run) (running : run.status = .running) :
    ∃ former, rows.records[stage]? = some former ∧ former.runs[id]? = some run := by
  rcases settle_cases sound done with ⟨place, former, after, was, settled, rfl⟩ |
    ⟨row, storyboard, rfl, _, rfl⟩ | ⟨row, increment, rfl, _, rfl⟩
  · have still : ∃ held, (rows.records.set place after)[stage]? = some held ∧ held.runs[id]? = some run :=
      ⟨record, found, held⟩
    have moved := (exists_set was).mp still
    split at moved
    · rename_i same
      subst same
      exact ⟨former, was, settled.runs moved running⟩
    · exact moved
  · exact ⟨record, found, held⟩
  · exact ⟨record, found, held⟩

theorem replaces_settle {later : StuckItem} (sound : rows.Sound)
    (done : settle recovery now item rows = some next) (pending : Pending recovery now next later) :
    Replaces recovery now next later other ↔ Replaces recovery now rows later other := by
  cases later with
  | run stage id =>
      obtain ⟨record, found, run, held, dead⟩ := pending
      obtain ⟨former, was, before⟩ := run_before sound done found held (Dead.running dead)
      rw [replaces_iff found held, replaces_iff was before]
  | _ =>
      constructor <;> rintro ⟨_, _, _, _, unlike, _⟩ <;> contradiction

theorem onStage_none_congr {stage : Nat} {transaction : StageRecord → Except StageError Committed}
    (same : next.records[stage]? = rows.records[stage]?) :
    next.onStage stage transaction = none ↔ rows.onStage stage transaction = none := by
  simp only [onStage, same]
  cases rows.records[stage]? with
  | none => simp
  | some record => cases transaction record <;> simp [Except.toOption]

theorem settle_none_iff (unlike : ∀ stage id, item ≠ .run stage id) (pending : Pending recovery now rows item) :
    settle recovery now item rows = none ↔ recovery.raises item = true := by
  constructor
  · intro none
    by_contra works
    unfold settle at none
    rw [if_neg works] at none
    cases item with
    | run stage id => exact unlike stage id rfl
    | legacy stage =>
        obtain ⟨record, found, abandoned⟩ := pending
        simp only [Recovery.Abandoned, Bool.and_eq_true, decide_eq_true_eq] at abandoned
        simp [onStage, found, recoverLegacyStage, require, abandoned, bind, Except.bind, pure, Except.pure,
          Except.toOption] at none
    | checking stage =>
        obtain ⟨record, found, overdue⟩ := pending
        simp only [Recovery.Overdue, Bool.and_eq_true, decide_eq_true_eq] at overdue
        simp [onStage, found, recoverChecking, require, overdue, bind, Except.bind, pure, Except.pure,
          Except.toOption] at none
    | storyboard row =>
        obtain ⟨storyboard, found, _⟩ := pending
        simp [found] at none
    | increment row =>
        obtain ⟨increment, found, _⟩ := pending
        simp [found] at none
  · intro raises
    simp [settle, raises]

theorem settle_agrees (sound : rows.Sound) (pending : Pending recovery now rows item)
    (done : settle recovery now item rows = some next) (later : Pending recovery now next other)
    (turn : (∃ stage id, item = .run stage id) ∨ ∀ stage id, other ≠ .run stage id) :
    settle recovery now other next = none ↔ settle recovery now other rows = none := by
  obtain ⟨before, apart, _⟩ := (settle_takes sound pending done other).mp later
  by_cases unlike : ∀ stage id, other ≠ .run stage id
  · rw [settle_none_iff unlike later, settle_none_iff unlike before]
  · obtain ⟨stage, id, rfl⟩ := turn.resolve_right unlike
    simp only [not_forall, not_not] at unlike
    obtain ⟨place, position, rfl⟩ := unlike
    have elsewhere : place ≠ stage := by
      rintro rfl
      obtain ⟨record, found, run, held, dead⟩ := pending
      obtain ⟨former, was, other, still, late⟩ := before
      obtain rfl := Option.some.inj (was.symm.trans found)
      have recoverable := sound _ (List.mem_of_getElem? found)
      have := recoverable.alone still held (Dead.running late) (Dead.running dead)
      exact apart (by rw [this])
    have works : ¬recovery.raises (.run stage id) = true := by
      intro raises
      simp [settle, raises] at done
    unfold settle at done ⊢
    rw [if_neg works] at done
    obtain ⟨record, committed, _, _, rfl⟩ := onStage_eq_some.mp done
    split
    · rfl
    · exact onStage_none_congr (List.getElem?_set_ne (Ne.symm elsewhere))

section

variable (recovery now) (start : RecoveryRows)

def Fails (item : StuckItem) : Prop := settle recovery now item start = none

def Stuck (rows : RecoveryRows) (item : StuckItem) : Prop :=
  Pending recovery now rows item ∧
    ¬∃ run, Pending recovery now rows run ∧ ¬Fails recovery now start run ∧ Replaces recovery now rows run item

def Agrees (rows : RecoveryRows) : Prop :=
  rows.Sound ∧ ∀ item, Pending recovery now rows item →
    (settle recovery now item rows = none ↔ Fails recovery now start item)

def Queued (item : StuckItem) : Prop := ∃ stage id, item = .run stage id

end

variable {start : RecoveryRows}

theorem Agrees.after (agrees : Agrees recovery now start rows) (pending : Pending recovery now rows item)
    (done : settle recovery now item rows = some next)
    (turn : Queued item ∨ ∀ run, Queued run → ¬Pending recovery now rows run) :
    Agrees recovery now start next := by
  obtain ⟨sound, same⟩ := agrees
  refine ⟨(settle_keeps sound done).1, fun other later => ?_⟩
  have before := (settle_keeps sound done).2 now other later
  rw [settle_agrees sound pending done later, same other before]
  rcases turn with queued | calm
  · exact Or.inl queued
  · refine Or.inr fun stage id run => ?_
    exact calm other ⟨stage, id, run⟩ before

theorem Agrees.takes (agrees : Agrees recovery now start rows) (pending : Pending recovery now rows item)
    (done : settle recovery now item rows = some next) (other : StuckItem) :
    Stuck recovery now start next other ↔ Stuck recovery now start rows other ∧ other ≠ item := by
  obtain ⟨sound, same⟩ := agrees
  have works : ¬Fails recovery now start item := by
    rw [← same item pending, done]
    simp
  have left := settle_takes sound pending done
  constructor
  · rintro ⟨later, free⟩
    obtain ⟨before, apart, unreplaced⟩ := (left other).mp later
    refine ⟨⟨before, ?_⟩, apart⟩
    rintro ⟨run, dead, fine, replaces⟩
    have different : run ≠ item := by
      rintro rfl
      exact unreplaced replaces
    have still : Pending recovery now next run := by
      refine (left run).mpr ⟨dead, different, ?_⟩
      obtain ⟨_, _, _, _, rfl, _⟩ := replaces
      rintro ⟨_, _, _, _, _, unlike, _⟩
      contradiction
    exact free ⟨run, still, fine, (replaces_settle sound done still).mpr replaces⟩
  · rintro ⟨⟨before, free⟩, apart⟩
    refine ⟨(left other).mpr ⟨before, apart, fun replaces => free ⟨item, pending, works, replaces⟩⟩, ?_⟩
    rintro ⟨run, dead, fine, replaces⟩
    have was := ((left run).mp dead).1
    exact free ⟨run, was, fine, (replaces_settle sound done dead).mp replaces⟩

theorem mem_deadRuns : item ∈ deadRuns recovery now rows ↔ Pending recovery now rows item ∧ Queued item := by
  simp only [deadRuns, List.mem_insertionSort, List.mem_flatMap, List.mem_map, mem_positions, List.mem_range]
  constructor
  · rintro ⟨stage, inside, id, ⟨run, held, dead⟩, rfl⟩
    have found := List.getElem?_eq_getElem inside
    simp only [found, Option.map_some, Option.getD_some] at held
    exact ⟨⟨_, found, run, held, dead⟩, stage, id, rfl⟩
  · rintro ⟨pending, stage, id, rfl⟩
    obtain ⟨record, found, run, held, dead⟩ := pending
    refine ⟨stage, (List.getElem?_eq_some_iff.mp found).1, id, ⟨run, ?_, dead⟩, rfl⟩
    simpa [found] using held

theorem deadRuns_nodup (rows : RecoveryRows) : (deadRuns recovery now rows).Nodup := by
  unfold deadRuns
  rw [(List.perm_insertionSort _ _).nodup_iff, List.nodup_flatMap]
  refine ⟨?_, ?_⟩
  · intro stage _
    refine (positions_nodup _ _).map ?_
    intro first second same
    exact (StuckItem.run.inj same).2
  · refine List.nodup_range.imp ?_
    intro first second different item one other
    obtain ⟨_, _, rfl⟩ := List.mem_map.mp one
    obtain ⟨_, _, same⟩ := List.mem_map.mp other
    exact different (StuckItem.run.inj same).1.symm

theorem selection_exact {α : Type} {list : List α} {meets : α → Bool} {make : Nat → StuckItem}
    (once : Function.Injective make) (pending : ∀ position, Pending recovery now rows (make position) ↔
      ∃ row, list[position]? = some row ∧ meets row = true) :
    ((positions list meets).map make).Nodup ∧ ∀ item, item ∈ (positions list meets).map make ↔
      Pending recovery now rows item ∧ ∃ position, item = make position := by
  refine ⟨(positions_nodup list meets).map once, fun item => ?_⟩
  simp only [List.mem_map, mem_positions]
  constructor
  · rintro ⟨position, found, rfl⟩
    exact ⟨(pending position).mpr found, position, rfl⟩
  · rintro ⟨found, position, rfl⟩
    exact ⟨position, (pending position).mp found, rfl⟩

theorem stuck_of_queued (queued : Queued item) :
    Stuck recovery now start rows item ↔ Pending recovery now rows item := by
  refine ⟨And.left, fun pending => ⟨pending, ?_⟩⟩
  obtain ⟨stage, id, rfl⟩ := queued
  rintro ⟨_, _, _, _, _, _, _, _, unlike, _⟩
  contradiction

theorem stuck_of_calm (calm : ∀ run, Queued run → ¬Stuck recovery now start rows run) :
    Stuck recovery now start rows item ↔ Pending recovery now rows item := by
  refine ⟨And.left, fun pending => ⟨pending, ?_⟩⟩
  rintro ⟨run, dead, _, stage, id, _, _, rfl, _⟩
  have queued : Queued (.run stage id) := ⟨stage, id, rfl⟩
  exact calm _ queued ((stuck_of_queued queued).mpr dead)

theorem lawful : Lawful (settle recovery now) (deadRuns recovery now) (plan recovery now) Queued
    (Agrees recovery now start) (Stuck recovery now start) (Fails recovery now start) where
  once rows _ := deadRuns_nodup rows
  found rows _ item := by
    rw [mem_deadRuns]
    exact and_congr_left fun queued => (stuck_of_queued queued).symm
  first := {
    raises := fun agrees _ stuck => agrees.2 _ stuck.1
    sound := fun agrees queued stuck done => agrees.after stuck.1 done (Or.inl queued)
    takes := fun agrees _ stuck done => agrees.takes stuck.1 done }
  second := {
    raises := fun calm _ stuck => calm.1.2 _ stuck.1
    sound := by
      intro rows item next calm _ stuck done
      refine ⟨calm.1.after stuck.1 done (Or.inr fun run queued dead => ?_), fun run queued still => ?_⟩
      · exact calm.2 run queued ((stuck_of_queued queued).mpr dead)
      · exact calm.2 run queued ((calm.1.takes stuck.1 done run).mp still).1
    takes := fun calm _ stuck done => calm.1.takes stuck.1 done }
  apart := by
    rintro selections member item ⟨selection, mine, kind⟩ ⟨stage, id, rfl⟩
    simp only [plan, List.mem_cons, List.not_mem_nil, or_false] at member
    rcases member with rfl | rfl | rfl <;>
      simp only [List.mem_cons, List.not_mem_nil, or_false] at mine
    · rcases mine with rfl | rfl <;> obtain ⟨_, unlike⟩ := kind <;> contradiction
    · subst mine
      obtain ⟨_, unlike⟩ := kind
      contradiction
    · subst mine
      obtain ⟨_, unlike⟩ := kind
      contradiction
  exact := by
    intro selections member selection mine rows calm
    simp only [stuck_of_calm calm.2]
    simp only [plan, List.mem_cons, List.not_mem_nil, or_false] at member
    rcases member with rfl | rfl | rfl <;>
      simp only [List.mem_cons, List.not_mem_nil, or_false] at mine
    · rcases mine with rfl | rfl
      · exact selection_exact (fun _ _ same => StuckItem.legacy.inj same) fun _ => Iff.rfl
      · exact selection_exact (fun _ _ same => StuckItem.checking.inj same) fun _ => Iff.rfl
    · subst mine
      exact selection_exact (fun _ _ same => StuckItem.storyboard.inj same) fun _ => Iff.rfl
    · subst mine
      exact selection_exact (fun _ _ same => StuckItem.increment.inj same) fun _ => Iff.rfl

theorem held_plan : Held (Stuck recovery now start) (Fails recovery now start) (plan recovery now) rows item ↔
    item.lane = 0 ∨ ∃ failed, Stuck recovery now start rows failed ∧ Fails recovery now start failed ∧
      failed.lane ≠ 0 ∧ failed.lane ≤ item.lane := by
  have first : ∀ item, Handles [⟨fun item => ∃ stage, item = .legacy stage, legacyStages⟩,
      ⟨fun item => ∃ stage, item = .checking stage, checkingStages recovery now⟩] item ↔ item.lane = 1 := by
    intro item
    cases item <;> simp [Handles, StuckItem.lane]
  have second : ∀ item, Handles [⟨fun item => ∃ row, item = .storyboard row, stuckStoryboards now⟩] item ↔
      item.lane = 2 := by
    intro item
    cases item <;> simp [Handles, StuckItem.lane]
  have third : ∀ item, Handles [⟨fun item => ∃ row, item = .increment row, stuckIncrements now⟩] item ↔
      item.lane = 3 := by
    intro item
    cases item <;> simp [Handles, StuckItem.lane]
  have lanes : ∀ item : StuckItem, item.lane ≤ 3 := by
    intro item
    cases item <;> simp [StuckItem.lane]
  simp only [plan, Held, first, second, third]
  constructor
  · rintro (⟨failed, stuck, fails, lane⟩ | ⟨past, ⟨failed, stuck, fails, lane⟩ | ⟨later,
      ⟨failed, stuck, fails, lane⟩ | ⟨last, _⟩⟩⟩)
    · by_cases zero : item.lane = 0
      · exact Or.inl zero
      · exact Or.inr ⟨failed, stuck, fails, by omega, by omega⟩
    · by_cases zero : item.lane = 0
      · exact Or.inl zero
      · exact Or.inr ⟨failed, stuck, fails, by omega, by omega⟩
    · by_cases zero : item.lane = 0
      · exact Or.inl zero
      · exact Or.inr ⟨failed, stuck, fails, by omega, by omega⟩
    · have := lanes item
      exact Or.inl (by omega)
  · rintro (zero | ⟨failed, stuck, fails, nonzero, before⟩)
    · exact Or.inr ⟨by omega, Or.inr ⟨by omega, Or.inr ⟨by omega, trivial⟩⟩⟩
    · have := lanes item
      by_cases one : failed.lane = 1
      · exact Or.inl ⟨failed, stuck, fails, one⟩
      by_cases two : failed.lane = 2
      · exact Or.inr ⟨by omega, Or.inl ⟨failed, stuck, fails, two⟩⟩
      · exact Or.inr ⟨by omega, Or.inr ⟨by omega, Or.inl ⟨failed, stuck, fails, by omega⟩⟩⟩

section

variable (recovery now) (rows)

def Precedes (first second : StuckItem) : Prop :=
  first.lane < second.lane ∨ first.lane = second.lane ∧
    (first.lane = 0 → ∃ front back, deadRuns recovery now rows = front ++ first :: back ∧ second ∈ back)

def Unblocked : Prop := ∀ first second, Stuck recovery now rows rows first → Fails recovery now rows first →
  Stuck recovery now rows rows second → ¬Fails recovery now rows second → ¬Precedes recovery now rows first second

def recoverAt (times : List Int) : RecoveryRows := play (fun rows now => recoverStuckStages recovery now rows) rows times

/-- The sweep settles every item whose settlement does not raise, for good; and what any sweeps leave
is what whole settlements leave. -/
def Isolates : Prop := ∀ later : List Int,
  (∀ item, Pending recovery now rows item → ¬Fails recovery now rows item →
    ¬Pending recovery now (recoverAt recovery rows (now :: later)) item) ∧
  ∃ settled, settleAll (fun (time, item) => settle recovery time item) settled rows =
    some (recoverAt recovery rows (now :: later))

end

theorem lane_eq_zero : item.lane = 0 ↔ Queued item := by
  cases item <;> simp [StuckItem.lane, Queued]

theorem recoverStuckStages_left (sound : rows.Sound) (works : ¬Fails recovery now rows item) :
    Stuck recovery now rows (recoverStuckStages recovery now rows) item ↔ Stuck recovery now rows rows item ∧
      ∃ failed, Stuck recovery now rows rows failed ∧ Fails recovery now rows failed ∧
        Precedes recovery now rows failed item := by
  have agrees : Agrees recovery now rows rows := ⟨sound, fun _ _ => Iff.rfl⟩
  rw [recoverStuckStages, lawful.sweep_left agrees, held_plan, ← lane_eq_zero]
  refine and_congr_right fun stuck => ?_
  by_cases zero : item.lane = 0
  · simp only [zero, works, false_or, forall_const, not_true, false_implies, and_true, behind_iff, Precedes,
      Nat.not_lt_zero]
    constructor
    · rintro ⟨failed, front, back, fails, split, member⟩
      have queue : failed ∈ deadRuns recovery now rows := by simp [split]
      obtain ⟨pending, queued⟩ := mem_deadRuns.mp queue
      exact ⟨failed, (stuck_of_queued queued).mpr pending, fails, lane_eq_zero.mpr queued,
        fun _ => ⟨front, back, split, member⟩⟩
    · rintro ⟨failed, _, fails, lane, before⟩
      obtain ⟨front, back, split, member⟩ := before lane
      exact ⟨failed, front, back, fails, split, member⟩
  · simp only [zero, false_implies, true_and, not_false_eq_true, forall_const, false_or, ← lane_eq_zero]
    constructor
    · rintro (⟨failed, stuck, lane, fails⟩ | ⟨failed, stuck, fails, lane, before⟩)
      · exact ⟨failed, stuck, fails, Or.inl (by omega)⟩
      · refine ⟨failed, stuck, fails, ?_⟩
        rcases Nat.lt_or_eq_of_le before with less | same
        · exact Or.inl less
        · exact Or.inr ⟨same, fun none => absurd none lane⟩
    · rintro ⟨failed, stuck, fails, before⟩
      by_cases lane : failed.lane = 0
      · exact Or.inl ⟨failed, stuck, lane, fails⟩
      · refine Or.inr ⟨failed, stuck, fails, lane, ?_⟩
        rcases before with less | ⟨same, _⟩ <;> omega

theorem recoverAt_keeps {times : List Int} (sound : rows.Sound) : (recoverAt recovery rows times).Sound ∧
    ∀ time other, Pending recovery time (recoverAt recovery rows times) other →
      Pending recovery time rows other := by
  induction times generalizing rows with
  | nil => exact ⟨sound, fun _ _ pending => pending⟩
  | cons now rest ih =>
      obtain ⟨after, kept⟩ : (recoverStuckStages recovery now rows).Sound ∧ ∀ time other,
          Pending recovery time (recoverStuckStages recovery now rows) other →
            Pending recovery time rows other := recoverStuckStages_keeps sound
      obtain ⟨final, keeps⟩ := ih after
      exact ⟨final, fun time other pending => kept time other (keeps time other pending)⟩

theorem settleAll_at {items : List StuckItem} : settleAll (fun (time, item) => settle recovery time item)
    (items.map fun item => (now, item)) rows = settleAll (settle recovery now) items rows := by
  induction items generalizing rows with
  | nil => rfl
  | cons item rest ih =>
      simp only [List.map_cons, settleAll]
      exact congrArg _ (funext fun next => ih)

theorem recoverAt_whole (times : List Int) (rows : RecoveryRows) :
    ∃ settled, settleAll (fun (time, item) => settle recovery time item) settled rows =
      some (recoverAt recovery rows times) := by
  induction times generalizing rows with
  | nil => exact ⟨[], rfl⟩
  | cons now rest ih =>
      obtain ⟨items, first⟩ := sweep_whole (settle recovery now) (deadRuns recovery now) (plan recovery now) rows
      obtain ⟨later, final⟩ := ih (recoverStuckStages recovery now rows)
      refine ⟨items.map (fun item => (now, item)) ++ later, ?_⟩
      rw [settleAll_append, settleAll_at, first]
      exact final

/-- The sweep isolates failures exactly where no failing item comes before one that does not fail. -/
theorem recover_isolates_iff (recovery : Recovery) (now : Int) (rows : RecoveryRows) (sound : rows.Sound) :
    Isolates recovery now rows ↔ Unblocked recovery now rows := by
  constructor
  · intro isolates first second stuck fails held works before
    have blocked := (recoverStuckStages_left sound works).mpr ⟨held, first, stuck, fails, before⟩
    exact (isolates []).1 second held.1 works blocked.1
  · intro unblocked later
    refine ⟨fun item pending works left => ?_, recoverAt_whole _ _⟩
    have free : ∀ item, ¬Fails recovery now rows item →
        ¬Stuck recovery now rows (recoverStuckStages recovery now rows) item := by
      intro item works stuck
      obtain ⟨held, failed, blocking, fails, before⟩ := (recoverStuckStages_left sound works).mp stuck
      exact unblocked failed item blocking fails held works before
    have after := (recoverAt_keeps (recoverStuckStages_keeps sound).1).2 now item left
    -- A check that is still pending though its gate is to be replaced has its run still pending.
    refine free item works ⟨after, ?_⟩
    rintro ⟨run, dead, fine, stage, id, _, _, rfl, _⟩
    exact free _ fine ((stuck_of_queued ⟨stage, id, rfl⟩).mpr dead)

def sampleStuck : RecoveryRows where
  records := [{
    stage := { type := .spec, status := .inProgress, deduction := some 0 }
    charges := [10] }]
  storyboards := [{ status := .generating, deduction := some 0, updatedAt := 0 }]

def sampleRecovery (raises : StuckItem → Bool) : Recovery where
  checks := sampleChecks
  staleSeconds := 30
  raises := raises

theorem sampleStuck_sound : sampleStuck.Sound := by
  intro record member
  obtain rfl := List.mem_singleton.mp member
  exact ⟨fun found => by simp at found, by simp, fun checking => by cases checking⟩

theorem sampleStuck_pending {raises : StuckItem → Bool} {item : StuckItem}
    (pending : Pending (sampleRecovery raises) 10000 sampleStuck item) :
    item = .legacy 0 ∨ item = .storyboard 0 := by
  cases item with
  | run stage id =>
      obtain ⟨record, found, run, held, _⟩ := pending
      obtain rfl := List.mem_singleton.mp (List.mem_of_getElem? found)
      simp at held
  | checking stage =>
      obtain ⟨record, found, overdue⟩ := pending
      obtain rfl := List.mem_singleton.mp (List.mem_of_getElem? found)
      simp [Recovery.Overdue] at overdue
  | legacy stage =>
      obtain ⟨record, found, _⟩ := pending
      have inside := (List.getElem?_eq_some_iff.mp found).1
      simpa [sampleStuck] using inside
  | storyboard row =>
      obtain ⟨storyboard, found, _⟩ := pending
      have inside := (List.getElem?_eq_some_iff.mp found).1
      simpa [sampleStuck] using inside
  | increment row =>
      obtain ⟨increment, found, _⟩ := pending
      simp [sampleStuck] at found

theorem recover_isolates_iff_sample :
    Isolates (sampleRecovery (· = .storyboard 0)) 10000 sampleStuck := by
  refine (recover_isolates_iff _ 10000 sampleStuck sampleStuck_sound).mpr ?_
  intro first second stuck fails held works before
  rcases sampleStuck_pending stuck.1 with rfl | rfl
  · contradiction
  · rcases sampleStuck_pending held.1 with rfl | rfl
    · simp [Precedes, StuckItem.lane] at before
    · exact works fails

theorem failing_stage_starves_storyboard :
    ¬Isolates (sampleRecovery (· = .legacy 0)) 10000 sampleStuck ∧
      ∀ times, recoverAt (sampleRecovery (· = .legacy 0)) sampleStuck times = sampleStuck := by
  have still : ∀ now, recoverStuckStages (sampleRecovery (· = .legacy 0)) now sampleStuck = sampleStuck := by
    intro now
    rfl
  have always : ∀ times, recoverAt (sampleRecovery (· = .legacy 0)) sampleStuck times = sampleStuck := by
    intro times
    induction times with
    | nil => rfl
    | cons now rest ih => rwa [recoverAt, play_cons, still]
  refine ⟨fun isolates => ?_, always⟩
  have settled := (isolates []).1 (.storyboard 0) ⟨_, rfl, rfl⟩ (by simp [Fails, settle, sampleRecovery, sampleStuck])
  rw [always] at settled
  exact settled ⟨_, rfl, rfl⟩

end RecoveryRows

end Thought2Build.Pipeline
