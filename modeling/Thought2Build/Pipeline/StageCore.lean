import Mathlib.Logic.Function.Basic
import Mathlib.Tactic.Simps.Basic

/-!
The rows of a workspace's stages and the quality gate on each of them. A stage's operations are
transactions; the text checks they call are parameters.
-/

namespace Thought2Build.Pipeline

inductive StageType where
  | spec | plan | harness | tasks
  deriving DecidableEq

inductive StageStatus where
  | locked | draft | inProgress | finalised | stale
  deriving DecidableEq

inductive GateStatus where
  | clear | checking | blocked | overridden | advisory
  deriving DecidableEq

def stageOrder : List StageType := [.spec, .plan, .harness, .tasks]

namespace StageType

def dependencies : StageType → List StageType
  | spec => []
  | plan => [spec]
  | harness => [spec, plan]
  | tasks => [spec, plan, harness]

def downstream : StageType → List StageType
  | spec => [plan, harness, tasks]
  | plan => [harness, tasks]
  | harness => [tasks]
  | tasks => []

def next (type : StageType) : Option StageType := type.downstream.head?

theorem mem_downstream {upper lower : StageType} :
    lower ∈ upper.downstream ↔ upper ∈ lower.dependencies := by
  cases upper <;> cases lower <;> decide

theorem not_mem_dependencies_self (type : StageType) : type ∉ type.dependencies := by
  cases type <;> decide

end StageType

/-! Source identity -/

structure WorkspaceInputs where
  problemStatement : String := ""
  clarificationQa : String := ""
  mode : String := "standard"
  timeBudgetMinutes : Option Nat := none
  restrictedEnvironment : Bool := false
  templateSlug : Option String := none
  disableCritic : Bool := false
  braveResearchEnabled : Bool := false
  targetAgent : Option String := none
  deriving DecidableEq

/-- `snapshot_workspace`: the inputs, and the upstream stages with content and version. -/
structure InputSnapshot where
  inputs : WorkspaceInputs
  stages : List (StageType × String × Nat)
  deriving DecidableEq

structure SourceIdentity where
  sourceHash : String
  upstreamVersions : List (StageType × Nat)
  deriving DecidableEq

/-! Rows -/

structure Finding where
  payload : String
  blocking : Bool := false
  deriving DecidableEq

structure GatePayload where
  kind : Option String := none
  checkingStartedAt : Option Int := none
  findings : List Finding := []
  missing : List String := []
  reasons : List String := []
  refundedPriorAttempt : Bool := false
  resumable : Bool := false
  resumeSourceRunId : Option Nat := none

structure QualityGate where
  status : GateStatus := .clear
  kind : Option String := none
  payload : Option GatePayload := none
  version : Option Nat := none

inductive Author where
  | user | ai
  deriving DecidableEq

structure StageVersion where
  id : Nat
  version : Nat
  content : String
  sourceIdentity : Option SourceIdentity
  createdBy : Author
  createdAt : Int
  deriving DecidableEq

structure Stage where
  type : StageType
  content : Option String := none
  status : StageStatus
  currentVersion : Nat := 0
  sourceIdentity : Option SourceIdentity := none
  gate : QualityGate := {}
  gapPatchUsed : Bool := false
  deduction : Option Nat := none
  updatedAt : Int := 0

namespace Stage

def text (stage : Stage) : String := stage.content.getD ""

@[simps] def withGate (stage : Stage) (gate : QualityGate) : Stage := { stage with gate }

@[simps] def moveTo (stage : Stage) (status : StageStatus) (now : Int) : Stage :=
  { stage with status, updatedAt := now }

@[simps] def touch (stage : Stage) (now : Int) : Stage := { stage with updatedAt := now }

@[simps] def withHead (stage : Stage) (content : String) (currentVersion : Nat)
    (sourceIdentity : Option SourceIdentity) : Stage :=
  { stage with content := some content, currentVersion, sourceIdentity }

def pinned (stage : Stage) (status : GateStatus) : Bool :=
  stage.gate.status = status && stage.gate.version = some stage.currentVersion

theorem pinned_eq_true {stage : Stage} {status : GateStatus} : stage.pinned status = true ↔
    stage.gate.status = status ∧ stage.gate.version = some stage.currentVersion := by
  simp [pinned]

end Stage

/-! The quality gate -/

/-- The checks of a stage's texts, SHA-256 over a snapshot, the chunk plans and the settings.
Nothing is assumed of them. -/
structure Checks where
  /-- `validate_readiness`: the missing sections, if any. -/
  readiness : StageType → String → List (StageType × String) → String → Option (List String)
  localSafety : StageType → String → List (StageType × String) → List Finding
  mergeHarnessPatch : String → String → String
  /-- `validate_async(...).is_safe` -/
  safe : String → Bool
  digest : InputSnapshot → String
  /-- `_chunk_waves_for_stage`: the keys of the chunks, by stage and mode. -/
  chunkWaves : StageType → String → List (List String)
  deadlineSeconds : Int
  retentionStageVersionsKeep : Nat

def techSafetyGateKind : String := "technology_safety"

def anyBlocking (findings : List Finding) : Bool := findings.any (·.blocking)

namespace QualityGate

def cleared : QualityGate := {}

def mergedFindings (gate : QualityGate) (findings : List Finding) : List Finding :=
  findings.foldl (fun existing finding =>
      if finding ∈ existing then existing else existing ++ [finding])
    ((gate.payload.map (·.findings)).getD [])

def advisory (findings : List Finding) (currentVersion : Nat) : QualityGate where
  status := .advisory
  kind := some "critic_findings"
  payload := some { kind := some "critic_findings", findings }
  version := some currentVersion

def merge (gate : QualityGate) (findings : List Finding) (currentVersion : Nat)
    (technologyFinished technologyBlocked : Bool) : QualityGate :=
  let existing := gate.mergedFindings findings
  if gate.status = .blocked ∨ gate.status = .overridden then
    { gate with payload := some { gate.payload.getD {} with findings := existing } }
  else if technologyBlocked then
    { status := .blocked, kind := some techSafetyGateKind
      payload := some { kind := some techSafetyGateKind, findings := existing }
      version := some currentVersion }
  else if gate.status = .checking ∧ ¬technologyFinished then
    { gate with
      payload := some {
        kind := some techSafetyGateKind
        checkingStartedAt := gate.payload.bind (·.checkingStartedAt)
        findings := existing }
      version := some currentVersion }
  else if existing ≠ [] then advisory existing currentVersion
  else cleared

end QualityGate

namespace Stage

def checkingGate (checks : Checks) (stage : Stage) (existing : List Finding) (now : Int) : QualityGate :=
  let gate : QualityGate := {
    status := .checking, kind := some techSafetyGateKind
    payload := some {
      kind := some techSafetyGateKind, checkingStartedAt := some now, findings := existing }
    version := some stage.currentVersion }
  let found := checks.localSafety stage.type stage.text []
  if anyBlocking found then gate.merge found stage.currentVersion true true else gate

@[simps!] def markChecking (checks : Checks) (stage : Stage) (existing : List Finding) (now : Int) : Stage :=
  stage.withGate (stage.checkingGate checks existing now)

end Stage

end Thought2Build.Pipeline
