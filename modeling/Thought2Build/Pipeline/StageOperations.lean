import Thought2Build.Pipeline.GenerationRunsCore

/-!
The transactions on a stage's rows: generation runs, user commands, background checks, increments
and the retention purge. Each takes the row locks it needs and commits as one step.
-/

namespace Thought2Build.Pipeline

structure Surroundings where
  snapshot : InputSnapshot
  dependenciesFinalised : Bool
  allFinalised : Bool

inductive Spread where
  | nothing | staleDownstream | unlockNext
  deriving DecidableEq

structure Committed where
  record : StageRecord
  spread : Spread := .nothing
  raised : Option StageError := none

/-- A request to generate; `cached` where the generation cache holds a text for it. -/
structure StartRequest where
  action : GenerationAction
  cached : Bool
  release : String
  deriving DecidableEq

/-- `CREDIT_COSTS` -/
def creditCost : GenerationAction → Nat
  | .generate => 10
  | .regenerate => 10
  | .resume => 0

/-- How `terminalize_interrupted_run` is called. -/
structure Interruption where
  stop : Stop
  errorCode : String
  partialContent : String := ""
  partialOrdinal : Option Nat := none
  discardContent : Bool := false
  safe : Bool
  deriving DecidableEq

namespace Interruption

def salvage (interruption : Interruption) (run : GenerationRun) : Salvage :=
  run.salvage interruption.partialContent interruption.partialOrdinal
    interruption.discardContent interruption.safe

end Interruption

def splitLines (letters : List Char) : List (List Char) := letters.splitOn '\n'

def stripCodeFence (text : String) : String :=
  let stripped := strip text
  let lines := splitLines stripped.toList
  if 2 ≤ lines.length ∧ ['`', '`', '`'] <+: lines.headD [] ∧
      strip (String.ofList (lines.getLastD [])) = "```" then
    strip (String.ofList (List.intercalate ['\n'] (lines.tail.dropLast)))
  else stripped

namespace Stage

/-- `_assert_finalisation_readiness`: the gate it blocks the stage with, or none where it is ready. -/
def readinessGate (checks : Checks) (snapshot : InputSnapshot) (stage : Stage) : Option QualityGate :=
  if stage.pinned .overridden then none
  else match checks.readiness stage.type stage.text snapshot.texts snapshot.inputs.mode with
    | some missing => some {
        status := .blocked, kind := some "missing_sections", payload := some { missing }
        version := some stage.currentVersion }
    | none =>
        let found := checks.localSafety stage.type stage.text snapshot.texts
        if anyBlocking found then
          some { stage.gate.merge found stage.currentVersion true true with
            version := some stage.currentVersion }
        else none

end Stage

namespace StageRecord

variable (checks : Checks) (around : Surroundings) (now : Int) (record : StageRecord)

def resumeSource (request : StartRequest) : Except StageError (Option (Nat × GenerationRun)) :=
  match request.action with
  | .resume => do
      match record.loadResumeSeed with
      | none => .error .resumeUnavailable
      | some (sourceId, _) =>
        match record.runs[sourceId]? with
        | none => .error .resumeInputsChanged
        | some source => do
            require (source.inputIdentity =
              { source := around.snapshot.identity checks, release := request.release })
              .resumeInputsChanged
            return some (sourceId, source)
  | _ => .ok none

def usesCache (request : StartRequest) : Bool :=
  request.cached && request.action = .generate && !around.snapshot.inputs.braveResearchEnabled

def createGenerationRun (request : StartRequest) (source : Option (Nat × GenerationRun)) :
    GenerationRun :=
  let plan := (checks.chunkWaves record.stage.type around.snapshot.inputs.mode).flatten
  let cached := usesCache around request
  { action := request.action
    deduction := if cached ∨ request.action = .resume then none else some record.charges.length
    inputSnapshot := around.snapshot
    inputIdentity := { source := around.snapshot.identity checks, release := request.release }
    preparedPrompt := source.bind (·.2.preparedPrompt)
    chunkPlan := if cached then none else some plan
    resumeSource := source.map (·.1)
    previousStatus := record.stage.status
    totalParts := plan.length
    deadline := now + checks.deadlineSeconds
    heartbeatAt := now }

/-- The rows that `generate` commits: the charge, the run and the stage in progress. -/
def started (request : StartRequest) (source : Option (Nat × GenerationRun)) : StageRecord :=
  let run := record.createGenerationRun checks around now request source
  { record with
    stage := { record.stage.moveTo .inProgress now with deduction := run.deduction }
    runs := record.runs ++ [run]
    charges := if run.deduction = none then record.charges
      else record.charges ++ [creditCost request.action] }

/-- `generate` up to its commit. -/
def generate (request : StartRequest) : Except StageError Committed := do
  let source ← record.resumeSource checks around request
  require (record.stage.status = .draft ∨ record.stage.status = .stale)
    (.stageStatus record.stage.status)
  require around.dependenciesFinalised .dependenciesNotFinalised
  require (¬record.Active) .alreadyActive
  return { record := record.started checks around now request source }

/-- The end of `_prepare_prompt`. -/
def preparePrompt (id : Nat) (prompt : String) : Except StageError Committed := do
  let _ ← record.lockRunningRun id now
  return { record := record.withRun id fun run => { run with preparedPrompt := some prompt } }

/-- The rows of `checkpoint_chunk`: the insert reads no status, the update does. -/
def checkpointed (id : Nat) (chunk : Chunk) : StageRecord :=
  record.withRun id fun run =>
    let banked := run.bank chunk
    if run.status = .running then
      { banked with completedParts := banked.chunks.length, heartbeatAt := now }
    else banked

def checkpointChunk (id : Nat) (chunk : Chunk) : Except StageError Committed := do
  require (strip chunk.content ≠ "" ∧ chunk.content.length ≤ maxStageContentChars) .invalidChunk
  return { record := record.checkpointed now id chunk }

/-- The rows of `_stage_db_heartbeat`. -/
def heartbeaten (id : Nat) : StageRecord :=
  let touched := if record.stage.status = .inProgress then now else record.stage.updatedAt
  (record.withStage (record.stage.touch touched)).withRun id fun run =>
    if run.status = .running then { run with heartbeatAt := now } else run

def heartbeat (id : Nat) : Except StageError Committed :=
  return { record := record.heartbeaten now id }

/-- The rows of `cancel_generation`. -/
def cancelling (id : Nat) : StageRecord :=
  record.withRun id fun run =>
    if run.status = .running ∧ run.cancelRequested = false then
      { run with cancelRequested := true, heartbeatAt := now }
    else run

/-- `cancel_generation` -/
def requestCancel (id : Nat) : Except StageError Committed :=
  return { record := record.cancelling now id }

/-- The common end of a successful run: a draft whose technology check is pending. The count of
parts is written by the replay; the success path finds it equal to the total. -/
def deliver (id : Nat) (run : GenerationRun) (content : String) (advisories : List Finding) :
    Except StageError Committed := do
  let written ← record.append content (some (run.inputSnapshot.identity checks)) .ai now
  let stage := written.stage.moveTo .draft now
  let saved := written.withStage (stage.markChecking checks advisories now)
  return { record := saved.withRun id fun run =>
    { run.markTerminal .succeeded now (some stage.currentVersion) none false 0 with
      completedParts := run.totalParts } }

/-- The success path of `_run_generation_pipeline_body`. -/
def succeed (id : Nat) (content : String) (advisories : List Finding) : Except StageError Committed := do
  let run ← record.lockRunningRun id now
  require (run.completedParts = run.totalParts) .checkpointMismatch
  record.deliver checks now id run content advisories

def replay (id : Nat) (cached : String) (advisories : List Finding) : Except StageError Committed := do
  let run ← record.lockRunningRun id now
  require (run.chunkPlan = none) .generationCancelled
  record.deliver checks now id run (strip (stripCodeFence cached)) advisories

def persistQualityGateBlocked (id : Nat) (content : String) (missing : List String) :
    Except StageError Committed := do
  let run ← record.lockRunningRun id now
  let written ← record.append (strip (stripCodeFence content))
    (some (run.inputSnapshot.identity checks)) .ai now
  let version := written.stage.currentVersion
  let gate : QualityGate := {
    status := .blocked, kind := some "missing_sections"
    payload := some { kind := some "missing_sections", missing }, version := some version }
  let saved := written.withStage ((written.stage.moveTo .draft now).withGate gate)
  return { record := saved.withRun id fun run =>
    run.markTerminal .blocked now (some version) (some "missing_sections") false 0 }

def incompleteGate (id : Nat) (salvaged : Salvage) (errorCode : String) (refunded : Bool)
    (version : Nat) : QualityGate where
  status := .blocked
  kind := some "incomplete_output"
  payload := some {
    kind := some "incomplete_output"
    reasons := [errorCode]
    refundedPriorAttempt := refunded
    resumable := salvaged.resumable
    resumeSourceRunId := if salvaged.resumable then some id else none }
  version := some version

/-- The stage rows written by `terminalize_interrupted_run`. -/
def saveSalvage (id : Nat) (run : GenerationRun) (salvaged : Salvage) (errorCode : String) :
    Except StageError StageRecord :=
  if salvaged.combined = "" then
    return record.withStage (record.stage.moveTo run.previousStatus now)
  else do
    let written ← record.append salvaged.combined
      (some (run.inputSnapshot.identity checks)) .ai now
    let gate := incompleteGate id salvaged errorCode (run.deduction.isSome && !salvaged.resumable)
      written.stage.currentVersion
    return written.withStage ((written.stage.moveTo .draft now).withGate gate)

/-- The run rows written by `terminalize_interrupted_run`. -/
def interrupted (id : Nat) (interruption : Interruption) (salvaged : Salvage) (refunded : Nat)
    (version : Option Nat) : StageRecord :=
  record.withRun id fun run =>
    { run.markTerminal interruption.stop.outcome now version (some interruption.errorCode)
        (salvaged.combined ≠ "") refunded with
      chunks := if salvaged.discarded then [] else run.chunks }

def terminalizeInterruptedRun (id : Nat) (interruption : Interruption) : Except StageError Committed :=
  match record.runs[id]? with
  | none => .error .runMissing
  | some run =>
      if run.status ≠ .running then return { record }
      else do
        let salvaged := interruption.salvage run
        let due := if salvaged.resumable then none else run.deduction
        let refunded := record.refundAmount due
        let saved ← (record.refund due).saveSalvage checks now id run salvaged interruption.errorCode
        let version := if salvaged.combined = "" then none else some saved.stage.currentVersion
        return { record := saved.interrupted now id interruption salvaged refunded version }

def recoverLegacyStage : Except StageError Committed := do
  require (record.stage.status = .inProgress) (.stageStatus record.stage.status)
  require (¬record.Active) .alreadyActive
  return { record := (record.refund record.stage.deduction).withStage (record.stage.moveTo .draft now) }

def finalise : Except StageError Committed := do
  let stage := record.stage
  require (stage.status = .draft) (.stageStatus stage.status)
  require (stage.pinned .blocked = false) .gateBlocked
  require (stage.pinned .checking = false) .gateChecking
  require around.dependenciesFinalised .dependenciesNotFinalised
  if stage.sourceIdentity.any (· ≠ around.snapshot.identity checks) then
    return { record := record.withStage { stage with status := .stale }, raised := some .sourcesChanged }
  else match stage.readinessGate checks around.snapshot with
    | some gate => return {
        record := record.withStage (stage.withGate gate), raised := some .gateBlocked }
    | none => return {
        record := record.withStage (stage.moveTo .finalised now)
        spread := .unlockNext }

def acknowledgeStale : Except StageError Committed := do
  let stage := record.stage
  require (stage.status = .stale) (.stageStatus stage.status)
  require around.dependenciesFinalised .dependenciesNotFinalised
  require (stage.pinned .blocked = false) .gateBlocked
  require (stage.pinned .checking = false) .gateChecking
  match stage.readinessGate checks around.snapshot with
  | some gate => return { record := record.withStage (stage.withGate gate), raised := some .gateBlocked }
  | none => return { record := record.withStage { stage.moveTo .finalised now with
      sourceIdentity := some (around.snapshot.identity checks) } }

def rewrite (content : String) (sourceIdentity : Option SourceIdentity) (createdBy : Author)
    (status : StageStatus) : Except StageError StageRecord := do
  let written ← record.append content sourceIdentity createdBy now
  return written.withStage ((written.stage.moveTo status now).markChecking checks [] now)

def UnlocksInPlace (version : StageVersion) : Prop :=
  version.version = record.stage.currentVersion ∧ version.content = record.stage.text

instance (version : StageVersion) : Decidable (record.UnlocksInPlace version) :=
  inferInstanceAs (Decidable (_ ∧ _))

def unlockInPlace (version : StageVersion) : StageRecord :=
  let gate := if record.stage.pinned .advisory then record.stage.gate else .cleared
  let stage := record.stage.withHead version.content record.stage.currentVersion version.sourceIdentity
  record.withStage ((stage.moveTo .draft now).withGate gate)

def rollback (versionNumber : Nat) : Except StageError Committed := do
  require (record.stage.status ≠ .inProgress) (.stageStatus .inProgress)
  match record.versions.find? (·.version = versionNumber) with
  | none => .error .versionNotFound
  | some version =>
      if record.UnlocksInPlace version then return { record := record.unlockInPlace now version }
      else do
        let restored ← record.rewrite checks now version.content version.sourceIdentity .user .draft
        return { record := restored, spread := .staleDownstream }

def handleContentEdit (newContent : String) (expectedVersion : Option Nat) :
    Except StageError Committed := do
  require (record.stage.status ≠ .inProgress) (.stageStatus .inProgress)
  require (expectedVersion.all (· = record.stage.currentVersion)) .versionChanged
  let wasFinalised : Bool := record.stage.status = .finalised
  let edited ← record.rewrite checks now newContent record.stage.sourceIdentity .user
    (if wasFinalised then .stale else .draft)
  return { record := edited, spread := if wasFinalised then .staleDownstream else .nothing }

def overrideQualityGate : Except StageError Committed := do
  require (record.stage.status = .draft) (.stageStatus record.stage.status)
  require (record.stage.pinned .blocked) .gateNotBlocked
  let gate := { record.stage.gate with status := .overridden }
  return { record := record.withStage ((record.stage.touch now).withGate gate) }

/-- The commit of `generate_harness_patch`, from the version and content its prompt was built on. -/
def generateHarnessPatch (baselineVersion : Nat) (baselineContent accumulated : String) :
    Except StageError Committed := do
  require (record.stage.type = .harness) .notAHarness
  require (record.stage.status = .draft ∨ record.stage.status = .stale)
    (.stageStatus record.stage.status)
  require (record.stage.currentVersion = baselineVersion ∧ record.stage.text = baselineContent)
    .versionChanged
  let merged := checks.mergeHarnessPatch record.stage.text accumulated
  require (merged ≠ record.stage.text) .noNewCoverage
  require (checks.safe merged) .unsafeOutput
  let charged := { record with charges := record.charges ++ [creditCost .regenerate] }
  let patched ← charged.rewrite checks now merged record.stage.sourceIdentity .ai .draft
  return { record := patched.withStage { patched.stage with gapPatchUsed := true } }

/-- `_dispatch_technology_check` for the version it was scheduled for. -/
def technologyCheck (version : Nat) (findings : List Finding) : Except StageError Committed := do
  require (record.stage.currentVersion = version ∧ record.stage.status = .draft) .superseded
  let gate := record.stage.gate.merge findings version true (anyBlocking findings)
  return { record := record.withStage ((record.stage.touch now).withGate gate) }

/-- `_dispatch_critic_review` for the version it was scheduled for. -/
def criticReview (version : Nat) (findings : List Finding) : Except StageError Committed := do
  require (record.stage.currentVersion = version) .superseded
  let gate := record.stage.gate.merge findings version false false
  return { record := record.withStage ((record.stage.touch now).withGate gate) }

/-- `technology_safety_unverified` -/
def unverifiedFinding : Finding := { payload := "technology_safety_unverified" }

/-- The gate that `recover_stuck_stages` leaves after a technology check that never finished. -/
def recoveredGate (stage : Stage) : QualityGate :=
  let found := checks.localSafety stage.type stage.text []
  let blocked := anyBlocking found
  let kind := if blocked then techSafetyGateKind else "critic_findings"
  let findings := (stage.gate.payload.getD {}).findings ++ [unverifiedFinding] ++ found
  { stage.gate with
    status := if blocked then .blocked else .advisory
    kind := some kind
    payload := some { kind := some kind, findings } }

/-- The part of `recover_stuck_stages` that ends a technology check older than the cutoff. -/
def recoverChecking (cutoff : Int) : Except StageError Committed := do
  let stage := record.stage
  let payload := stage.gate.payload.getD {}
  require (stage.gate.status = .checking) .superseded
  require (payload.checkingStartedAt.getD stage.updatedAt < cutoff) .superseded
  return { record := record.withStage ((stage.touch now).withGate (recoveredGate checks stage)) }

/-- `_load_finalised_stages`: an increment reads the tasks stage without a lock. -/
def loadIncrement : Except StageError Committed := do
  require (record.stage.type = .tasks ∧ around.allFinalised) .notFinalised
  return { record := { record with increments := record.increments ++ [record.stage.currentVersion] } }

/-- `_append_tasks_version` on the stage as the increment has read it. -/
def appendTasksVersion (loaded : Nat) (newContent : String) : Except StageError Committed := do
  require (loaded ∈ record.increments) .superseded
  let written ← record.addVersion (loaded + 1) newContent none .ai now
  let stage := record.stage.withHead newContent (loaded + 1) record.stage.sourceIdentity
  return { record := { written.withStage (stage.touch now) with
    increments := record.increments.erase loaded } }

/-- The candidates of `purge_stage_versions`: more than `keep` rows down from the newest, old, not
current and not referenced by a push. -/
def versionCandidates (cutoff : Int) (referenced : List Nat) : List StageVersion :=
  record.versions.filter fun row =>
    checks.retentionStageVersionsKeep ≤ (record.versions.filter (row.version < ·.version)).length &&
      row.createdAt < cutoff && row.version ≠ record.stage.currentVersion && row.id ∉ referenced

def selectVersions (cutoff : Int) (referenced : List Nat) (limit : Nat) : Except StageError Committed :=
  return { record := { record with
    selected := record.selected ++
      ((record.versionCandidates checks cutoff referenced).take limit).map (·.id) } }

def purgeVersions (ids : List Nat) : Except StageError Committed := do
  require (∀ id ∈ ids, id ∈ record.selected) .nothingSelected
  return { record := { record with
    versions := record.versions.filter (·.id ∉ ids)
    selected := record.selected.filter (· ∉ ids) } }

end StageRecord

end Thought2Build.Pipeline
