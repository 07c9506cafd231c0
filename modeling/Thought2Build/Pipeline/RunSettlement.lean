import Thought2Build.Library.Rows
import Thought2Build.Pipeline.UpstreamDrift

/-!
The life of a generation run. It leaves `running` once, and nothing is written for it afterwards as
long as no worker comes back to a run that has ended.
-/

namespace Thought2Build.Pipeline

def Operation.runId : Operation → Option Nat
  | .preparePrompt id _ | .checkpointChunk id _ | .heartbeat id | .requestCancel id | .succeed id _ _
  | .replay id _ _ | .persistQualityGateBlocked id _ _ | .terminalizeInterruptedRun id _ => some id
  | _ => none

namespace StageRecord

def Punctual (record : StageRecord) : Operation → Prop
  | .checkpointChunk id chunk =>
      ∀ run ∈ record.runs[id]?, run.status ≠ .running → chunk.key ∈ run.bankedKeys
  | .heartbeat id => record.stage.status = .inProgress → ∃ run ∈ record.runs[id]?, run.status = .running
  | _ => True

instance (record : StageRecord) : DecidablePred record.Punctual
  | .checkpointChunk id chunk => inferInstanceAs (Decidable
      (∀ run ∈ record.runs[id]?, run.status ≠ .running → chunk.key ∈ run.bankedKeys))
  | .heartbeat id => inferInstanceAs (Decidable
      (record.stage.status = .inProgress → ∃ run ∈ record.runs[id]?, run.status = .running))
  | .generate _ | .preparePrompt _ _ | .requestCancel _ | .succeed _ _ _ | .replay _ _ _
  | .persistQualityGateBlocked _ _ _ | .terminalizeInterruptedRun _ _ | .recoverLegacyStage | .finalise
  | .acknowledgeStale | .rollback _ | .handleContentEdit _ _ | .overrideQualityGate
  | .generateHarnessPatch _ _ _ | .technologyCheck _ _ | .criticReview _ _ | .recoverChecking _
  | .loadIncrement | .appendTasksVersion _ _ | .selectVersions _ _ _ | .purgeVersions _ => isTrue trivial

inductive Turn (record after : StageRecord) : Option Nat → Prop where
  | aside (runs : after.runs = record.runs) (charges : record.charges.length ≤ after.charges.length)
      (refunds : after.refunds = record.refunds)
      (idle : after.stage.status = .inProgress → record.stage.status = .inProgress) :
      Turn record after none
  | starts {run : GenerationRun} (idle : ¬record.Active) (running : run.status = .running)
      (runs : after.runs = record.runs ++ [run]) (charges : record.charges.length ≤ after.charges.length)
      (charged : ∀ deduction ∈ run.deduction,
        deduction = record.charges.length ∧ deduction < after.charges.length)
      (refunds : after.refunds = record.refunds) : Turn record after none
  | inert {id : Nat} (same : after = record) : Turn record after (some id)
  | goesOn {id : Nat} {run next : GenerationRun} (found : record.runs[id]? = some run)
      (running : run.status = .running) (still : next.status = .running)
      (deduction : next.deduction = run.deduction) (versions : after.versions = record.versions)
      (runs : ∀ other, after.runs[other]? = if other = id then some next else record.runs[other]?)
      (charges : after.charges = record.charges) (refunds : after.refunds = record.refunds) :
      Turn record after (some id)
  | ends {id : Nat} {run next : GenerationRun} {outcome : Outcome} (found : record.runs[id]? = some run)
      (running : run.status = .running) (ended : next.status = .ended outcome)
      (deduction : next.deduction = run.deduction)
      (versions : after.versions.length ≤ record.versions.length + 1)
      (runs : ∀ other, after.runs[other]? = if other = id then some next else record.runs[other]?)
      (charges : after.charges = record.charges)
      (refunds : after.refunds = record.refunds ∨
        outcome ≠ .succeeded ∧ after.refunds = (record.refund run.deduction).refunds)
      (idle : after.stage.status ≠ .inProgress) : Turn record after (some id)

variable {record : StageRecord} {id : Nat} {run : GenerationRun} {update : GenerationRun → GenerationRun}

theorem getElem?_withRun (update : GenerationRun → GenerationRun) (found : record.runs[id]? = some run)
    (other : Nat) :
    (record.withRun id update).runs[other]? =
      if other = id then some (update run) else record.runs[other]? := by
  rw [withRun_runs, List.getElem?_modify]
  by_cases same : other = id
  · subst same
    simp [found]
  · simp [same, Ne.symm same]

theorem Turn.goesOn_withRun (update : GenerationRun → GenerationRun) {written : StageRecord}
    (found : record.runs[id]? = some run) (running : run.status = .running)
    (still : (update run).status = .running) (deduction : (update run).deduction = run.deduction)
    (runs : written.runs = record.runs) (versions : written.versions = record.versions)
    (charges : written.charges = record.charges) (refunds : written.refunds = record.refunds) :
    Turn record (written.withRun id update) (some id) := by
  refine .goesOn found running still deduction versions ?_ charges refunds
  intro other
  rw [getElem?_withRun update (runs ▸ found), runs]

theorem Turn.ends_withRun (update : GenerationRun → GenerationRun) {written : StageRecord}
    {outcome : Outcome} (found : record.runs[id]? = some run) (running : run.status = .running)
    (ended : (update run).status = .ended outcome) (deduction : (update run).deduction = run.deduction)
    (runs : written.runs = record.runs) (versions : written.versions.length ≤ record.versions.length + 1)
    (charges : written.charges = record.charges)
    (refunds : written.refunds = record.refunds ∨
      outcome ≠ .succeeded ∧ written.refunds = (record.refund run.deduction).refunds)
    (idle : written.stage.status ≠ .inProgress) :
    Turn record (written.withRun id update) (some id) := by
  refine .ends found running ended deduction versions ?_ charges refunds idle
  intro other
  rw [getElem?_withRun update (runs ▸ found), runs]

theorem withRun_of_fixed (fixed : ∀ run ∈ record.runs[id]?, update run = run) :
    record.withRun id update = record := by
  have runs : record.runs.modify id update = record.runs := by
    apply List.ext_getElem?
    intro other
    rw [List.getElem?_modify]
    split
    · rename_i same
      subst same
      cases found : record.runs[id]? with
      | none => rfl
      | some run => simp [fixed run found]
    · simp
  simp [withRun, runs]

end StageRecord

open StageRecord

section

variable {checks : Checks} {around : Surroundings} {now : Int} {record : StageRecord}
  {operation : Operation} {committed : Committed} {type : StageType}

theorem StageRecord.Lineage.not_inProgress (lineage : record.Lineage type) {id : Nat} {run : GenerationRun}
    (found : record.runs[id]? = some run) : run.previousStatus ≠ .inProgress := by
  rcases lineage.resumable run (List.mem_of_getElem? found) with draft | ⟨stale, _⟩
  · simp [draft]
  · simp [stale]

theorem refunds_of_due (run : GenerationRun) (resumable : Bool) :
    (record.refund (if resumable then none else run.deduction)).refunds = record.refunds ∨
      (record.refund (if resumable then none else run.deduction)).refunds =
        (record.refund run.deduction).refunds := by
  cases resumable with
  | true => exact Or.inl rfl
  | false => exact Or.inr rfl

theorem started_charge {request : StartRequest} {source : Option (Nat × GenerationRun)} {deduction : Nat}
    (charged : deduction ∈ (record.createGenerationRun checks around now request source).deduction) :
    deduction = record.charges.length ∧
      deduction < (record.started checks around now request source).charges.length := by
  have some := Option.mem_def.mp charged
  have number : deduction = record.charges.length := by
    simp only [createGenerationRun] at some
    split at some
    · contradiction
    · exact (Option.some.inj some).symm
  simp [started, some, number]

theorem Commits.turn (commits : Commits checks around now record operation committed)
    (lineage : record.Lineage type) (busy : record.stage.status = .inProgress → record.Active)
    (punctual : record.Punctual operation) : Turn record committed.record operation.runId := by
  cases commits with
  | @generate request source found editable dependencies idle =>
      refine .starts idle rfl rfl ?_ (fun _ charged => started_charge charged) rfl
      simp only [started]
      split <;> simp
  | preparePrompt locked =>
      obtain ⟨found, running, _⟩ := lockRunningRun_eq_ok.mp locked
      exact .goesOn_withRun _ found running running rfl rfl rfl rfl rfl
  | @checkpointChunk id chunk text =>
      by_cases running : ∃ run ∈ record.runs[id]?, run.status = .running
      · obtain ⟨run, found, running⟩ := running
        refine .goesOn_withRun _ found running ?_ ?_ rfl rfl rfl rfl
        · simp [running]
        · split <;> simp
      · refine .inert (withRun_of_fixed ?_)
        intro run found
        have ended : run.status ≠ .running := fun still => running ⟨run, found, still⟩
        simp [GenerationRun.bank, punctual run found ended, ended]
  | @heartbeat id =>
      by_cases running : ∃ run ∈ record.runs[id]?, run.status = .running
      · obtain ⟨run, found, running⟩ := running
        refine .goesOn_withRun _ found running ?_ ?_ rfl rfl rfl rfl <;> simp [running]
      · have still : record.stage.status ≠ .inProgress := fun busy => running (punctual busy)
        refine .inert ?_
        simp only [heartbeaten, if_neg still]
        refine withRun_of_fixed ?_
        intro run found
        exact if_neg fun still => running ⟨run, found, still⟩
  | @requestCancel id =>
      by_cases running : ∃ run ∈ record.runs[id]?, run.status = .running
      · obtain ⟨run, found, running⟩ := running
        refine .goesOn_withRun _ found running ?_ ?_ rfl rfl rfl rfl <;> split <;> simp [running]
      · refine .inert (withRun_of_fixed ?_)
        intro run found
        exact if_neg fun still => running ⟨run, found, still.1⟩
  | succeed locked | replay locked | persistQualityGateBlocked locked =>
      obtain ⟨found, running, _⟩ := lockRunningRun_eq_ok.mp locked
      exact .ends_withRun _ found running rfl rfl rfl (by simp [appended]) rfl (Or.inl rfl) (by simp)
  | settledBefore => exact .inert rfl
  | @interruptEmpty id run interruption found running empty =>
      refine .ends_withRun _ found running rfl rfl rfl (Nat.le_succ _) rfl ?_ (lineage.not_inProgress found)
      exact (refunds_of_due run _).imp_right fun given => ⟨interruption.stop.outcome_ne_succeeded, given⟩
  | @interruptSaved id run interruption found running saved =>
      refine .ends_withRun _ found running rfl rfl rfl ?_ rfl ?_ (by simp [salvagedHead])
      · simp [salvagedHead, appended]
      · exact (refunds_of_due run _).imp_right fun given => ⟨interruption.stop.outcome_ne_succeeded, given⟩
  | recoverLegacyStage stuck idle => exact absurd (busy stuck) idle
  | finaliseDrifted | editFinalised => exact .aside rfl le_rfl rfl (moved_on .stale rfl (by decide))
  | finalise | acknowledge => exact .aside rfl le_rfl rfl (moved_on .finalised rfl (by decide))
  | unlockInPlace | restore | editUnfinalised =>
      exact .aside rfl le_rfl rfl (moved_on .draft rfl (by decide))
  | generateHarnessPatch =>
      refine .aside rfl ?_ rfl (moved_on .draft rfl (by decide))
      simp [patched, rewritten, appended]
  | _ => exact .aside rfl le_rfl rfl id

/-! What holds of the rows of a stage whatever is done to them. -/

namespace StageRecord

/-- Runs take turns, each with a charge of its own, and a deduction comes back once, for a run that has
ended without success. -/
structure Orderly (record : StageRecord) : Prop where
  busy : record.stage.status = .inProgress → record.Active
  alone : ∀ {first second : Nat} {run other : GenerationRun}, record.runs[first]? = some run →
    record.runs[second]? = some other → run.status = .running → other.status = .running → first = second
  charged : ∀ {id : Nat} {run : GenerationRun}, record.runs[id]? = some run →
    ∀ deduction, run.deduction = some deduction → deduction < record.charges.length
  distinct : ∀ {first second : Nat} {run other : GenerationRun} {deduction : Nat},
    record.runs[first]? = some run → record.runs[second]? = some other →
      run.deduction = some deduction → other.deduction = some deduction → first = second
  refunded : ∀ deduction ∈ record.refunds, ∃ (id : Nat) (run : GenerationRun) (outcome : Outcome),
    record.runs[id]? = some run ∧ run.deduction = some deduction ∧ run.status = .ended outcome ∧
      outcome ≠ .succeeded
  once : record.refunds.Nodup

variable {after : StageRecord} {acting : Option Nat} {position : Nat} {run next : GenerationRun}

theorem Turn.forward (turn : Turn record after acting) (found : record.runs[position]? = some run) :
    ∃ next, after.runs[position]? = some next ∧ next.deduction = run.deduction ∧
      (run.status ≠ .running → next = run) := by
  cases turn with
  | aside runs => exact ⟨run, runs ▸ found, rfl, fun _ => rfl⟩
  | starts _ _ runs =>
      refine ⟨run, ?_, rfl, fun _ => rfl⟩
      rw [runs, List.getElem?_append_left (List.getElem?_eq_some_iff.mp found).1]
      exact found
  | inert same => exact ⟨run, same ▸ found, rfl, fun _ => rfl⟩
  | @goesOn id former next was running _ deduction _ runs | @ends id former next _ was running _ deduction _ runs =>
      by_cases own : position = id
      · subst own
        obtain rfl : former = run := Option.some.inj (was.symm.trans found)
        exact ⟨next, by simp [runs], deduction, fun ended => absurd running ended⟩
      · exact ⟨run, by simp [runs, own, found], rfl, fun _ => rfl⟩

theorem Turn.backward (turn : Turn record after acting) (found : after.runs[position]? = some next) :
    (∃ run, record.runs[position]? = some run ∧ next.deduction = run.deduction ∧
      (next.status = .running → run.status = .running)) ∨
    (position = record.runs.length ∧ ¬record.Active ∧ next.status = .running ∧
      ∀ deduction, next.deduction = some deduction →
        deduction = record.charges.length ∧ deduction < after.charges.length) := by
  cases turn with
  | aside runs => exact Or.inl ⟨next, runs ▸ found, rfl, id⟩
  | starts idle running runs _ charged =>
      rcases Rows.getElem?_concat (runs ▸ found) with old | ⟨last, rfl⟩
      · exact Or.inl ⟨next, old, rfl, id⟩
      · exact Or.inr ⟨last, idle, running, charged⟩
  | inert same => exact Or.inl ⟨next, same ▸ found, rfl, id⟩
  | @goesOn own run later was running _ deduction _ runs | @ends own run later _ was running _ deduction _ runs =>
      rw [runs] at found
      split at found
      · rename_i same
        subst same
        obtain rfl := Option.some.inj found
        exact Or.inl ⟨run, was, deduction, fun _ => running⟩
      · exact Or.inl ⟨next, found, rfl, id⟩

theorem Turn.eq_of_ended {id : Nat} (turn : Turn record after (some id))
    (found : record.runs[id]? = some run) (ended : run.status ≠ .running) : after = record := by
  cases turn with
  | inert same => exact same
  | goesOn was running | ends was running =>
      obtain rfl := Option.some.inj (was.symm.trans found)
      exact absurd running ended

theorem Turn.charges_le (turn : Turn record after acting) : record.charges.length ≤ after.charges.length := by
  cases turn with
  | aside _ charges | starts _ _ _ charges => exact charges
  | inert same => rw [same]
  | goesOn _ _ _ _ _ _ charges | ends _ _ _ _ _ _ charges => rw [charges]

theorem Turn.busy (turn : Turn record after acting) (orderly : record.Orderly)
    (progress : after.stage.status = .inProgress) : after.Active := by
  cases turn with
  | aside runs _ _ idle =>
      obtain ⟨run, member, running⟩ := orderly.busy (idle progress)
      exact ⟨run, runs ▸ member, running⟩
  | @starts run _ running runs => exact ⟨run, by simp [runs], running⟩
  | inert same => exact same ▸ orderly.busy (same ▸ progress)
  | @goesOn id _ next _ _ still _ _ runs =>
      exact ⟨next, List.mem_of_getElem? (i := id) (by simp [runs]), still⟩
  | ends _ _ _ _ _ _ _ _ idle => exact absurd progress idle

theorem mem_refund {deduction : Nat} {due : Option Nat} (member : deduction ∈ (record.refund due).refunds) :
    deduction ∈ record.refunds ∨ due = some deduction := by
  cases due with
  | none => exact Or.inl member
  | some given =>
      simp only [refund_refunds, Option.elim_some] at member
      split at member
      · exact Or.inl member
      · exact (List.mem_append.mp member).imp_right fun last => congrArg some (List.mem_singleton.mp last).symm

theorem refund_nodup {due : Option Nat} (once : record.refunds.Nodup) :
    (record.refund due).refunds.Nodup := by
  cases due with
  | none => exact once
  | some given =>
      simp only [refund_refunds, Option.elim_some]
      split
      · exact once
      · rename_i fresh
        refine List.nodup_append.mpr ⟨once, List.nodup_singleton _, ?_⟩
        intro kept member last final same
        exact fresh (List.mem_singleton.mp final ▸ same ▸ member)

theorem Turn.refunds (turn : Turn record after acting) :
    after.refunds = record.refunds ∨ ∃ (id : Nat) (run next : GenerationRun) (outcome : Outcome),
      record.runs[id]? = some run ∧ after.runs[id]? = some next ∧ next.deduction = run.deduction ∧
        next.status = .ended outcome ∧ outcome ≠ .succeeded ∧
        after.refunds = (record.refund run.deduction).refunds := by
  cases turn with
  | aside _ _ refunds | starts _ _ _ _ _ refunds | goesOn _ _ _ _ _ _ _ refunds => exact Or.inl refunds
  | inert same => exact Or.inl (by rw [same])
  | @ends id run next outcome found _ ended deduction _ runs _ refunds =>
      rcases refunds with same | ⟨unsuccessful, given⟩
      · exact Or.inl same
      · exact Or.inr ⟨id, run, next, outcome, found, by simp [runs], deduction, ended, unsuccessful, given⟩

theorem Turn.refunded (turn : Turn record after acting) (orderly : record.Orderly) :
    ∀ deduction ∈ after.refunds, ∃ (id : Nat) (run : GenerationRun) (outcome : Outcome),
      after.runs[id]? = some run ∧ run.deduction = some deduction ∧ run.status = .ended outcome ∧
        outcome ≠ .succeeded := by
  intro deduction member
  have earlier (old : deduction ∈ record.refunds) : ∃ (id : Nat) (run : GenerationRun) (outcome : Outcome),
      after.runs[id]? = some run ∧ run.deduction = some deduction ∧ run.status = .ended outcome ∧
        outcome ≠ .succeeded := by
    obtain ⟨id, run, outcome, found, charge, ended, unsuccessful⟩ := orderly.refunded deduction old
    obtain ⟨next, later, _, frozen⟩ := turn.forward found
    obtain rfl := frozen (by simp [ended])
    exact ⟨id, next, outcome, later, charge, ended, unsuccessful⟩
  rcases turn.refunds with same | ⟨id, run, next, outcome, found, later, charge, ended, unsuccessful, given⟩
  · exact earlier (same ▸ member)
  · rw [given] at member
    rcases mem_refund member with old | due
    · exact earlier old
    · exact ⟨id, next, outcome, later, charge.trans due, ended, unsuccessful⟩

theorem Orderly.turn (orderly : record.Orderly) (turn : Turn record after acting) : after.Orderly where
  busy := turn.busy orderly
  alone := by
    intro first second run other found later running still
    rcases turn.backward found with ⟨former, was, _, ran⟩ | ⟨last, idle, _, _⟩
    · rcases turn.backward later with ⟨former', was', _, ran'⟩ | ⟨_, idle, _, _⟩
      · exact orderly.alone was was' (ran running) (ran' still)
      · exact absurd ⟨former, List.mem_of_getElem? was, ran running⟩ idle
    · rcases turn.backward later with ⟨former', was', _, ran'⟩ | ⟨last', _, _, _⟩
      · exact absurd ⟨former', List.mem_of_getElem? was', ran' still⟩ idle
      · exact last.trans last'.symm
  charged := by
    intro id run found deduction charge
    rcases turn.backward found with ⟨former, was, same, _⟩ | ⟨_, _, _, charged⟩
    · exact (orderly.charged was deduction (same ▸ charge)).trans_le turn.charges_le
    · exact (charged deduction charge).2
  distinct := by
    intro first second run other deduction found later charge charge'
    rcases turn.backward found with ⟨former, was, same, _⟩ | ⟨last, _, _, charged⟩
    · rcases turn.backward later with ⟨former', was', same', _⟩ | ⟨_, _, _, charged⟩
      · exact orderly.distinct was was' (same ▸ charge) (same' ▸ charge')
      · have below := orderly.charged was deduction (same ▸ charge)
        have number := (charged deduction charge').1
        omega
    · rcases turn.backward later with ⟨former', was', same', _⟩ | ⟨last', _, _, _⟩
      · have below := orderly.charged was' deduction (same' ▸ charge')
        have number := (charged deduction charge).1
        omega
      · exact last.trans last'.symm
  refunded := turn.refunded orderly
  once := by
    rcases turn.refunds with same | ⟨_, run, _, _, _, _, _, _, _, given⟩
    · exact same ▸ orderly.once
    · exact given ▸ refund_nodup orderly.once

end StageRecord

theorem Beside.turn {after : StageRecord} (beside : Beside record after) : Turn record after none := by
  refine .aside beside.runs (congrArg (·.charges.length) beside.kept).ge
    (congrArg (·.refunds) beside.kept) ?_
  intro progress
  rcases beside.status with same | ⟨stale, _⟩ | ⟨draft, _⟩
  · exact same ▸ progress
  · exact moved_on .stale stale (by decide) progress
  · exact moved_on .draft draft (by decide) progress

theorem Commits.spread_of_runId (commits : Commits checks around now record operation committed) {id : Nat}
    (acts : operation.runId = some id) : committed.spread = .nothing := by
  cases commits <;> first | rfl | contradiction

end

namespace Workspace

open Histories

variable {checks : Checks} {workspace : Workspace} {event : Event} {type : StageType} {id : Nat}

def Punctual (checks : Checks) (workspace : Workspace) (event : Event) : Prop :=
  (workspace.transact checks event).isOk = true → (workspace.record event.type).Punctual event.operation

instance (workspace : Workspace) (event : Event) : Decidable (Punctual checks workspace event) :=
  inferInstanceAs (Decidable (_ → _))

structure Settling (workspace : Workspace) : Prop where
  lineage : ∀ type, (workspace.record type).Lineage type
  orderly : ∀ type, (workspace.record type).Orderly

def ActsFor (type : StageType) (id : Nat) (event : Event) : Prop :=
  event.type = type ∧ event.operation.runId = some id

instance (type : StageType) (id : Nat) (event : Event) : Decidable (ActsFor type id event) :=
  inferInstanceAs (Decidable (_ ∧ _))

def acting (type : StageType) (event : Event) : Option Nat :=
  if event.type = type then event.operation.runId else none

theorem Settling.turn (settling : workspace.Settling) (punctual : Punctual checks workspace event) :
    workspace.step checks event = workspace ∨ ∀ type,
      Turn (workspace.record type) ((workspace.step checks event).record type) (acting type event) := by
  rcases step_cases checks workspace event with refused | ⟨committed, done, commits, stepped⟩
  · exact Or.inl refused
  · refine Or.inr ?_
    intro type
    rw [stepped]
    by_cases own : event.type = type
    · subst own
      rw [commit_self, acting, if_pos rfl]
      exact commits.turn (settling.lineage event.type) (settling.orderly event.type).busy (punctual done)
    · rw [acting, if_neg own]
      exact (commit_beside (Ne.symm own)).turn

theorem Settling.step (settling : workspace.Settling) (punctual : Punctual checks workspace event) :
    (workspace.step checks event).Settling := by
  refine ⟨?_, ?_⟩
  · rcases step_cases checks workspace event with refused | ⟨committed, done, commits, stepped⟩
    · rw [refused]
      exact settling.lineage
    · intro type
      rw [stepped]
      by_cases own : type = event.type
      · subst own
        rw [commit_self]
        exact commits.lineage (settling.lineage event.type)
      · exact (settling.lineage type).beside (commit_beside own)
  · rcases settling.turn punctual with refused | turn
    · rw [refused]
      exact settling.orderly
    · intro type
      exact (settling.orderly type).turn (turn type)

theorem fresh_settling (inputs : WorkspaceInputs) (now : Int) : (fresh inputs now).Settling where
  lineage := (fresh_tracked inputs now).lineage
  orderly type := by
    constructor <;> simp [fresh]
    split <;> simp

def run? (workspace : Workspace) (type : StageType) (id : Nat) : Option GenerationRun :=
  (workspace.record type).runs[id]?

def running (workspace : Workspace) (type : StageType) (id : Nat) : Bool :=
  (workspace.run? type id).any (·.status = .running)

def ended (workspace : Workspace) (type : StageType) (id : Nat) : Bool :=
  (workspace.run? type id).any (·.status ≠ .running)

def leaves (checks : Checks) (type : StageType) (id : Nat) (workspace : Workspace) (event : Event) : Nat :=
  (workspace.running type id && !(workspace.step checks event).running type id).toNat

def written (checks : Checks) (type : StageType) (id : Nat) (workspace : Workspace) (event : Event) : Nat :=
  if ActsFor type id event then
    ((workspace.step checks event).record type).versions.length - (workspace.record type).versions.length
  else 0

structure SettlesOnce (checks : Checks) (start : Workspace) (events : List Event) (type : StageType)
    (id : Nat) : Prop where
  /-- The run leaves `running` once, or it has not ended. -/
  once : total (step checks) (leaves checks type id) start events =
    ((play (step checks) start events).ended type id).toNat
  frozen : ∀ front back run, events = front ++ back →
    (play (step checks) start front).run? type id = some run → run.status ≠ .running →
      (play (step checks) start events).run? type id = some run
  version : total (step checks) (written checks type id) start events ≤ 1
  refund : ∀ run deduction, (play (step checks) start events).run? type id = some run →
    run.deduction = some deduction →
      ((play (step checks) start events).record type).refunds.count deduction ≤ 1 ∧
        (run.status = .ended .succeeded →
          deduction ∉ ((play (step checks) start events).record type).refunds)
  inert : ∀ front event back, events = front ++ event :: back → ActsFor type id event →
    (play (step checks) start front).ended type id = true →
      play (step checks) start (front ++ [event]) = play (step checks) start front
  alone : ∀ front back other, events = front ++ back → other ≠ id →
    (play (step checks) start front).running type id = true →
      (play (step checks) start front).running type other = false

theorem ended_iff : workspace.ended type id = true ↔
    ∃ run, workspace.run? type id = some run ∧ run.status ≠ .running := by
  simp [ended, Option.any_eq_true]

theorem running_iff : workspace.running type id = true ↔
    ∃ run, workspace.run? type id = some run ∧ run.status = .running := by
  simp [running, Option.any_eq_true]

theorem commit_unchanged {committed : Committed} {now : Int} (same : committed.record = workspace.record type)
    (spread : committed.spread = .nothing) : workspace.commit type committed now = workspace := by
  unfold commit
  congr 1
  funext other
  simp only [spread]
  split
  · rename_i own
    rw [own, same]
  · rfl

theorem Settling.step_of_ended (settling : workspace.Settling) (punctual : Punctual checks workspace event)
    (acts : ActsFor type id event) (ended : workspace.ended type id = true) :
    workspace.step checks event = workspace := by
  obtain ⟨rfl, acts⟩ := acts
  obtain ⟨run, found, ended⟩ := ended_iff.mp ended
  rcases step_cases checks workspace event with refused | ⟨committed, done, commits, stepped⟩
  · exact refused
  · have turn := commits.turn (settling.lineage event.type) (settling.orderly event.type).busy (punctual done)
    rw [acts] at turn
    rw [stepped]
    exact commit_unchanged (turn.eq_of_ended found ended) (commits.spread_of_runId acts)

theorem Settling.run_frozen (settling : workspace.Settling) (punctual : Punctual checks workspace event)
    {run : GenerationRun} (found : workspace.run? type id = some run) (ended : run.status ≠ .running) :
    (workspace.step checks event).run? type id = some run := by
  rcases settling.turn punctual with refused | turn
  · rw [refused]
    exact found
  · obtain ⟨next, later, _, frozen⟩ := (turn type).forward found
    exact frozen ended ▸ later

theorem Settling.play_frozen {events : List Event} (settling : workspace.Settling)
    (punctual : Along (Workspace.step checks) (Punctual checks) workspace events) {run : GenerationRun}
    (found : workspace.run? type id = some run) (ended : run.status ≠ .running) :
    (play (Workspace.step checks) workspace events).run? type id = some run := by
  induction events generalizing workspace with
  | nil => exact found
  | cons event rest ih =>
      have later := settling.run_frozen punctual.1 found ended
      exact ih (settling.step punctual.1) punctual.2 later

theorem Settling.ended_cases (settling : workspace.Settling) (punctual : Punctual checks workspace event)
    (ended : (workspace.step checks event).ended type id = true) :
    workspace.running type id = true ∨ workspace.ended type id = true := by
  obtain ⟨next, later, ended⟩ := ended_iff.mp ended
  rcases settling.turn punctual with refused | turn
  · rw [refused] at later
    exact Or.inr (ended_iff.mpr ⟨next, later, ended⟩)
  · rcases (turn type).backward later with ⟨run, found, _⟩ | ⟨_, _, running, _⟩
    · by_cases running : run.status = .running
      · exact Or.inl (running_iff.mpr ⟨run, found, running⟩)
      · exact Or.inr (ended_iff.mpr ⟨run, found, running⟩)
    · exact absurd running ended

theorem Settling.ended_step (settling : workspace.Settling) (punctual : Punctual checks workspace event)
    (ended : workspace.ended type id = true) : (workspace.step checks event).ended type id = true := by
  obtain ⟨run, found, ended⟩ := ended_iff.mp ended
  exact ended_iff.mpr ⟨run, settling.run_frozen punctual found ended, ended⟩

theorem running_eq_false_of_ended (ended : workspace.ended type id = true) :
    workspace.running type id = false := by
  obtain ⟨run, found, ended⟩ := ended_iff.mp ended
  simp [running, found, ended]

theorem Settling.running_step (settling : workspace.Settling) (punctual : Punctual checks workspace event)
    (running : workspace.running type id = true) :
    (workspace.step checks event).ended type id = !(workspace.step checks event).running type id := by
  obtain ⟨run, found, running⟩ := running_iff.mp running
  have later : ∃ next, (workspace.step checks event).run? type id = some next := by
    rcases settling.turn punctual with refused | turn
    · rw [refused]
      exact ⟨run, found⟩
    · obtain ⟨next, later, _⟩ := (turn type).forward found
      exact ⟨next, later⟩
  obtain ⟨next, later⟩ := later
  simp [Workspace.ended, Workspace.running, later]

theorem Settling.leaves_eq (settling : workspace.Settling) (punctual : Punctual checks workspace event) :
    (workspace.ended type id).toNat + leaves checks type id workspace event =
      ((workspace.step checks event).ended type id).toNat := by
  by_cases ended : workspace.ended type id = true
  · simp [leaves, ended, settling.ended_step punctual ended, running_eq_false_of_ended ended]
  · by_cases running : workspace.running type id = true
    · simp [leaves, ended, running, settling.running_step punctual running]
    · have never : ¬(workspace.step checks event).ended type id = true := by
        intro later
        rcases settling.ended_cases punctual later with was | was
        · exact running was
        · exact ended was
      simp [leaves, ended, running, never]

theorem Settling.written_le (settling : workspace.Settling) (punctual : Punctual checks workspace event) :
    written checks type id workspace event + (!(workspace.step checks event).ended type id).toNat ≤
      (!workspace.ended type id).toNat := by
  by_cases ended : workspace.ended type id = true
  · have later := settling.ended_step punctual ended
    have idle : written checks type id workspace event = 0 := by
      unfold written
      split
      · rename_i acts
        rw [settling.step_of_ended punctual acts ended, Nat.sub_self]
      · rfl
    simp [idle, ended, later]
  · have left : (!(workspace.step checks event).ended type id).toNat ≤ 1 := Bool.toNat_le _
    have budget : (!workspace.ended type id).toNat = 1 := by simp [ended]
    rw [budget]
    by_cases acts : ActsFor type id event
    · rcases settling.turn punctual with refused | turn
      · simp only [written, refused, Nat.sub_self, ite_self]
        exact Nat.zero_add _ ▸ Bool.toNat_le _
      · have turn := turn type
        rw [acting, if_pos acts.1, acts.2] at turn
        simp only [written, if_pos acts]
        cases turn with
        | inert same =>
            rw [same]
            omega
        | goesOn _ _ _ _ versions =>
            rw [versions]
            omega
        | @ends _ run next outcome _ _ stopped _ versions runs =>
            have later : (workspace.step checks event).ended type id = true :=
              ended_iff.mpr ⟨next, by simp [run?, runs], by simp [stopped]⟩
            rw [later]
            simp only [Bool.not_true, Bool.toNat_false]
            omega
    · simp only [written, if_neg acts]
      omega

theorem Settling.alone (settling : workspace.Settling) {other : Nat} (different : other ≠ id)
    (running : workspace.running type id = true) : workspace.running type other = false := by
  obtain ⟨run, found, running⟩ := running_iff.mp running
  rw [Bool.eq_false_iff]
  intro still
  obtain ⟨rival, later, still⟩ := running_iff.mp still
  exact different ((settling.orderly type).alone later found still running)

theorem Settling.refund (settling : workspace.Settling) {run : GenerationRun} {deduction : Nat}
    (found : workspace.run? type id = some run) (charge : run.deduction = some deduction) :
    (workspace.record type).refunds.count deduction ≤ 1 ∧
      (run.status = .ended .succeeded → deduction ∉ (workspace.record type).refunds) := by
  have orderly := settling.orderly type
  refine ⟨List.nodup_iff_count_le_one.mp orderly.once deduction, ?_⟩
  intro succeeded member
  obtain ⟨position, other, outcome, later, charge', ended, unsuccessful⟩ := orderly.refunded deduction member
  obtain rfl := orderly.distinct found later charge charge'
  obtain rfl : run = other := Option.some.inj (found.symm.trans later)
  rw [succeeded] at ended
  exact unsuccessful (RunStatus.ended.inj ended).symm

/-- In a run whose steps are all punctual, every generation settles once. -/
theorem punctual_runs_settle_once (checks : Checks) (inputs : WorkspaceInputs) (now : Int)
    (events : List Event) (punctual : Along (step checks) (Punctual checks) (fresh inputs now) events)
    (type : StageType) (id : Nat) : SettlesOnce checks (fresh inputs now) events type id := by
  have fresh_settles := fresh_settling inputs now
  have steps (workspace : Workspace) (event : Event) (settling : workspace.Settling)
      (punctual : Punctual checks workspace event) : (workspace.step checks event).Settling :=
    settling.step punctual
  have reached {front back : List Event} (split : events = front ++ back) :
      (play (step checks) (fresh inputs now) front).Settling ∧
        Along (step checks) (Punctual checks) (play (step checks) (fresh inputs now) front) back := by
    rw [split, along_append] at punctual
    exact ⟨punctual.1.invariant steps fresh_settles, punctual.2⟩
  have last : (play (step checks) (fresh inputs now) events).Settling :=
    punctual.invariant steps fresh_settles
  constructor
  · have counted := punctual.total_eq (fun workspace => (workspace.ended type id).toNat) steps
      (fun _ _ settling punctual => settling.leaves_eq punctual) fresh_settles
    have start : (fresh inputs now).ended type id = false := rfl
    simpa [start] using counted
  · intro front back run split found ended
    obtain ⟨settling, punctual⟩ := reached split
    rw [split, play_append]
    exact settling.play_frozen punctual found ended
  · have counted := punctual.total_le (fun workspace => (!workspace.ended type id).toNat) steps
      (fun _ _ settling punctual => settling.written_le punctual) fresh_settles
    have start : (fresh inputs now).ended type id = false := rfl
    simp only [start, Bool.not_false, Bool.toNat_true] at counted
    exact (Nat.le_add_right _ _).trans counted
  · intro run deduction found charge
    exact last.refund found charge
  · intro front event back split acts ended
    obtain ⟨settling, punctual⟩ := reached split
    rw [play_append]
    exact settling.step_of_ended punctual.1 acts ended
  · intro front back other split different running
    exact (reached split).1.alone different running

def sampleReturn : List Event :=
  (sampleGeneration .spec 0 1 "text").take 3 ++
    [ { type := .spec, now := 2, operation := .terminalizeInterruptedRun 0 sampleLoss }
    , { type := .spec, now := 3, operation := .succeed 0 "texttext" [] }
    , { type := .spec, now := 4, operation := .heartbeat 0 } ]

theorem punctual_runs_settle_once_sample : SettlesOnce sampleChecks (fresh {} 0) sampleReturn .spec 0 :=
  punctual_runs_settle_once sampleChecks {} 0 sampleReturn (by decide) .spec 0

theorem late_chunk_joins_ended_run :
    ¬SettlesOnce sampleChecks (fresh {} 0) (sampleReturn ++ [{
      type := .spec, now := 5
      operation := .checkpointChunk 0 { key := "second", ordinal := 1, content := "text" } }]) .spec 0 := by
  intro settles
  have frozen := settles.frozen sampleReturn _ _ rfl (Option.get_mem (by decide)) (by decide)
  revert frozen
  decide

end Workspace

end Thought2Build.Pipeline
