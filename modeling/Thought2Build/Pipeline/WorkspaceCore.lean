import Mathlib.Logic.Function.Basic
import Thought2Build.Library.Histories
import Thought2Build.Pipeline.StageOperations

/-!
The four stages of a workspace as one system. A transaction of one stage may mark later stages stale
or unlock the next one.
-/

namespace Thought2Build.Pipeline

open StageRecord

inductive Operation where
  | generate (request : StartRequest)
  | preparePrompt (id : Nat) (prompt : String)
  | checkpointChunk (id : Nat) (chunk : Chunk)
  | heartbeat (id : Nat)
  | requestCancel (id : Nat)
  | succeed (id : Nat) (content : String) (advisories : List Finding)
  | replay (id : Nat) (cached : String) (advisories : List Finding)
  | persistQualityGateBlocked (id : Nat) (content : String) (missing : List String)
  | terminalizeInterruptedRun (id : Nat) (interruption : Interruption)
  | recoverLegacyStage
  | finalise
  | acknowledgeStale
  | rollback (versionNumber : Nat)
  | handleContentEdit (newContent : String) (expectedVersion : Option Nat)
  | overrideQualityGate
  | generateHarnessPatch (baselineVersion : Nat) (baselineContent accumulated : String)
  | technologyCheck (version : Nat) (findings : List Finding)
  | criticReview (version : Nat) (findings : List Finding)
  | recoverChecking (cutoff : Int)
  | loadIncrement
  | appendTasksVersion (loaded : Nat) (newContent : String)
  | selectVersions (cutoff : Int) (referenced : List Nat) (limit : Nat)
  | purgeVersions (ids : List Nat)
  deriving DecidableEq

def Operation.commit (checks : Checks) (around : Surroundings) (now : Int) (record : StageRecord) :
    Operation → Except StageError Committed
  | generate request => record.generate checks around now request
  | preparePrompt id prompt => record.preparePrompt now id prompt
  | checkpointChunk id chunk => record.checkpointChunk now id chunk
  | heartbeat id => record.heartbeat now id
  | requestCancel id => record.requestCancel now id
  | succeed id content advisories => record.succeed checks now id content advisories
  | replay id cached advisories => record.replay checks now id cached advisories
  | persistQualityGateBlocked id content missing =>
      record.persistQualityGateBlocked checks now id content missing
  | terminalizeInterruptedRun id interruption =>
      record.terminalizeInterruptedRun checks now id interruption
  | recoverLegacyStage => record.recoverLegacyStage now
  | finalise => record.finalise checks around now
  | acknowledgeStale => record.acknowledgeStale checks around now
  | rollback versionNumber => record.rollback checks now versionNumber
  | handleContentEdit newContent expectedVersion =>
      record.handleContentEdit checks now newContent expectedVersion
  | overrideQualityGate => record.overrideQualityGate now
  | generateHarnessPatch baselineVersion baselineContent accumulated =>
      record.generateHarnessPatch checks now baselineVersion baselineContent accumulated
  | technologyCheck version findings => record.technologyCheck now version findings
  | criticReview version findings => record.criticReview now version findings
  | recoverChecking cutoff => record.recoverChecking checks now cutoff
  | loadIncrement => record.loadIncrement around
  | appendTasksVersion loaded newContent => record.appendTasksVersion now loaded newContent
  | selectVersions cutoff referenced limit => record.selectVersions checks cutoff referenced limit
  | purgeVersions ids => record.purgeVersions ids

structure Event where
  type : StageType
  operation : Operation
  now : Int

structure Workspace where
  inputs : WorkspaceInputs
  record : StageType → StageRecord

/-- The update of `_mark_downstream_stale` on one of the later stages. -/
def Stage.markStale (now : Int) (stage : Stage) : Stage :=
  if (stage.status = .finalised ∨ stage.status = .draft) ∧ stage.content.isSome then
    stage.moveTo .stale now
  else stage

def Stage.unlock (now : Int) (stage : Stage) : Stage :=
  if stage.status = .locked then stage.moveTo .draft now else stage

namespace Workspace

def fresh (inputs : WorkspaceInputs) (now : Int) : Workspace where
  inputs := inputs
  record type := { stage := {
    type, status := if type = .spec then .draft else .locked, updatedAt := now } }

def snapshot (workspace : Workspace) (type : StageType) : InputSnapshot where
  inputs := workspace.inputs
  stages := type.dependencies.map fun upper =>
    let stage := (workspace.record upper).stage
    (upper, stage.text, stage.currentVersion)

def finalisedAll (workspace : Workspace) (types : List StageType) : Bool :=
  types.all fun type => (workspace.record type).stage.status = .finalised

def surroundings (workspace : Workspace) (type : StageType) : Surroundings where
  snapshot := workspace.snapshot type
  dependenciesFinalised := workspace.finalisedAll type.dependencies
  allFinalised := workspace.finalisedAll stageOrder

def commit (workspace : Workspace) (type : StageType) (committed : Committed) (now : Int) : Workspace :=
  { workspace with record := fun other =>
    let record := workspace.record other
    if other = type then committed.record
    else match committed.spread with
      | .nothing => record
      | .staleDownstream =>
          if other ∈ type.downstream then record.withStage (record.stage.markStale now) else record
      | .unlockNext =>
          if type.next = some other then record.withStage (record.stage.unlock now) else record }

def transact (checks : Checks) (workspace : Workspace) (event : Event) : Except StageError Committed :=
  event.operation.commit checks (workspace.surroundings event.type) event.now
    (workspace.record event.type)

def step (checks : Checks) (workspace : Workspace) (event : Event) : Workspace :=
  match workspace.transact checks event with
  | .error _ => workspace
  | .ok committed => workspace.commit event.type committed event.now

end Workspace

/-! A workspace whose checks all pass and whose artifacts have two chunks. -/

def sampleChecks : Checks where
  readiness _ _ _ _ := none
  localSafety _ _ _ := []
  mergeHarnessPatch text patch := text ++ patch
  safe _ := true
  digest snapshot := snapshot.inputs.problemStatement ++ String.join (snapshot.stages.map (·.2.1))
  chunkWaves _ _ := [["first"], ["second"]]
  deadlineSeconds := 600
  retentionStageVersionsKeep := 5

def sampleRequest (action : GenerationAction) : StartRequest where
  action := action
  cached := false
  release := "release"

def sampleGeneration (type : StageType) (id : Nat) (now : Int) (text : String) : List Event :=
  [ { type, now, operation := .generate (sampleRequest .generate) }
  , { type, now, operation := .preparePrompt id "prompt" }
  , { type, now, operation := .checkpointChunk id { key := "first", ordinal := 0, content := text } }
  , { type, now, operation := .checkpointChunk id { key := "second", ordinal := 1, content := text } }
  , { type, now, operation := .succeed id (text ++ text) [] } ]

def sampleLoss : Interruption where
  stop := .failed
  errorCode := "generation_worker_lost"
  safe := true

def sampleFinalised (type : StageType) (id : Nat) (now : Int) (text : String) (version : Nat) : List Event :=
  sampleGeneration type id now text ++
    [ { type, now, operation := .technologyCheck version [] }, { type, now, operation := .finalise } ]

end Thought2Build.Pipeline
