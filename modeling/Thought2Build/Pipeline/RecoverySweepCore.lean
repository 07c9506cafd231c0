import Thought2Build.Library.Sweeps
import Thought2Build.Pipeline.StageOperations

/-!
The recovery sweep over the runs, stages, gates, storyboards and increments of all workspaces. Each
dead run is settled in a transaction of its own; the other lanes each commit once.
-/

namespace Thought2Build.Pipeline

open Sweeps StageRecord

inductive StoryboardStatus where
  | generating | ready | failed | stale
  deriving DecidableEq

structure Storyboard where
  status : StoryboardStatus
  deduction : Option Nat := none
  updatedAt : Int

inductive IncrementStatus where
  | draft | generating | ready | pushed | stale
  deriving DecidableEq

structure Increment where
  status : IncrementStatus
  deduction : Option Nat := none
  updatedAt : Int
  deriving DecidableEq

def storyboardThreshold : Int := 30 * 60

def incrementThreshold : Int := 15 * 60

/-- Rows of the tables that the sweep reads; `refunds` holds the deductions of storyboards and
increments that came back. -/
structure RecoveryRows where
  records : List StageRecord
  storyboards : List Storyboard := []
  increments : List Increment := []
  refunds : List Nat := []

inductive StuckItem where
  | run (stage id : Nat)
  | legacy (stage : Nat)
  | checking (stage : Nat)
  | storyboard (row : Nat)
  | increment (row : Nat)
  deriving DecidableEq

def StuckItem.stage? : StuckItem → Option Nat
  | run stage _ => some stage
  | legacy stage => some stage
  | checking stage => some stage
  | storyboard _ => none
  | increment _ => none

def StuckItem.lane : StuckItem → Nat
  | run _ _ => 0
  | legacy _ => 1
  | checking _ => 1
  | storyboard _ => 2
  | increment _ => 3

/-- What a sweep depends on: the checks, `stage_technology_check_stale_seconds` and the items whose
settlement raises. -/
structure Recovery where
  checks : Checks
  staleSeconds : Int
  raises : StuckItem → Bool

def positions {α : Type} (rows : List α) (meets : α → Bool) : List Nat :=
  (List.range rows.length).filter fun position => rows[position]?.any meets

theorem mem_positions {α : Type} {rows : List α} {meets : α → Bool} {position : Nat} :
    position ∈ positions rows meets ↔ ∃ row, rows[position]? = some row ∧ meets row = true := by
  simp only [positions, List.mem_filter, List.mem_range, Option.any_eq_true]
  constructor
  · rintro ⟨_, row, found, met⟩
    exact ⟨row, found, met⟩
  · rintro ⟨row, found, met⟩
    exact ⟨(List.getElem?_eq_some_iff.mp found).1, row, found, met⟩

theorem positions_nodup {α : Type} (rows : List α) (meets : α → Bool) : (positions rows meets).Nodup :=
  List.nodup_range.filter _

namespace Recovery

variable (recovery : Recovery) (now : Int)

/-! Queries -/

/-- A running run past its deadline, or without a heartbeat for `_RUN_HEARTBEAT_GRACE_SECONDS`. -/
def Dead (run : GenerationRun) : Bool :=
  run.status = .running && (run.deadline ≤ now ||
    run.heartbeatAt < now - max 120 recovery.checks.deadlineSeconds)

def Abandoned (record : StageRecord) : Bool := record.stage.status = .inProgress && ¬record.Active

def checkingCutoff : Int := now - max 1 recovery.staleSeconds

def Overdue (record : StageRecord) : Bool :=
  record.stage.gate.status = .checking &&
    (record.stage.gate.payload.getD {}).checkingStartedAt.getD record.stage.updatedAt <
      recovery.checkingCutoff now

end Recovery

def Storyboard.Stuck (now : Int) (storyboard : Storyboard) : Bool :=
  storyboard.status = .generating && storyboard.updatedAt < now - storyboardThreshold

def Increment.Stuck (now : Int) (increment : Increment) : Bool :=
  increment.status = .generating && increment.updatedAt < now - incrementThreshold

namespace RecoveryRows

variable (recovery : Recovery) (now : Int)

def run? (rows : RecoveryRows) (stage id : Nat) : Option GenerationRun :=
  rows.records[stage]?.bind (·.runs[id]?)

def deadline (rows : RecoveryRows) : StuckItem → Int
  | .run stage id => ((rows.run? stage id).map (·.deadline)).getD 0
  | _ => 0

def deadRuns (rows : RecoveryRows) : List StuckItem :=
  ((List.range rows.records.length).flatMap fun stage =>
    (positions ((rows.records[stage]?.map (·.runs)).getD []) (recovery.Dead now)).map (.run stage))
      |>.insertionSort (rows.deadline · ≤ rows.deadline ·)

def legacyStages (rows : RecoveryRows) : List StuckItem :=
  (positions rows.records Recovery.Abandoned).map .legacy

def checkingStages (rows : RecoveryRows) : List StuckItem :=
  (positions rows.records (recovery.Overdue now)).map .checking

def stuckStoryboards (rows : RecoveryRows) : List StuckItem :=
  (positions rows.storyboards (·.Stuck now)).map .storyboard

def stuckIncrements (rows : RecoveryRows) : List StuckItem :=
  (positions rows.increments (·.Stuck now)).map .increment

/-! Settlements -/

def refund (rows : RecoveryRows) (deduction : Option Nat) : RecoveryRows :=
  { rows with refunds := deduction.elim rows.refunds fun deduction =>
      if deduction ∈ rows.refunds then rows.refunds else rows.refunds ++ [deduction] }

def onStage (rows : RecoveryRows) (stage : Nat) (transaction : StageRecord → Except StageError Committed) :
    Option RecoveryRows := do
  let record ← rows.records[stage]?
  let committed ← (transaction record).toOption
  return { rows with records := rows.records.set stage committed.record }

/-- The call of `terminalize_interrupted_run` for a dead run; `safe` is the validator's answer on its
chunks. -/
def interruption (run : GenerationRun) : Interruption where
  stop := if run.deadline ≤ now then .timedOut else .failed
  errorCode := if run.deadline ≤ now then "generation_deadline_exceeded" else "generation_worker_lost"
  safe := recovery.checks.safe (strip ("\n\n".intercalate ((run.piecesWith "" none).map (·.2))))

def recoverRun (id : Nat) (record : StageRecord) : Except StageError Committed :=
  match record.runs[id]? with
  | none => .error .runMissing
  | some run => record.terminalizeInterruptedRun recovery.checks now id (interruption recovery now run)

def settle (item : StuckItem) (rows : RecoveryRows) : Option RecoveryRows :=
  if recovery.raises item then none
  else match item with
    | .run stage id => rows.onStage stage (recoverRun recovery now id)
    | .legacy stage => rows.onStage stage (·.recoverLegacyStage now)
    | .checking stage => rows.onStage stage
        (·.recoverChecking recovery.checks now (recovery.checkingCutoff now))
    | .storyboard row => rows.storyboards[row]?.map fun storyboard => {
        rows.refund storyboard.deduction with
        storyboards := rows.storyboards.set row { storyboard with status := .failed, updatedAt := now } }
    | .increment row => rows.increments[row]?.map fun increment => {
        rows.refund increment.deduction with
        increments := rows.increments.set row { increment with status := .draft, updatedAt := now } }

def plan : List (List (Selection RecoveryRows StuckItem)) :=
  [[{ kind := fun item => ∃ stage, item = .legacy stage, items := legacyStages },
    { kind := fun item => ∃ stage, item = .checking stage, items := checkingStages recovery now }],
   [{ kind := fun item => ∃ row, item = .storyboard row, items := stuckStoryboards now }],
   [{ kind := fun item => ∃ row, item = .increment row, items := stuckIncrements now }]]

def recoverStuckStages (rows : RecoveryRows) : RecoveryRows :=
  sweep (settle recovery now) (deadRuns recovery now) (plan recovery now) rows

end RecoveryRows

end Thought2Build.Pipeline
