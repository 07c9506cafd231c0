import Thought2Build.Pipeline.WorkspaceCore

/-! What the transactions of a stage commit, read off their successes once and for all. -/

namespace Thought2Build.Pipeline

namespace StageRecord

variable {checks : Checks} {around : Surroundings} {now : Int} {record written : StageRecord}
  {committed : Committed} {content : String} {identity : Option SourceIdentity} {author : Author}

@[simps!] def appended (record : StageRecord) (content : String) (identity : Option SourceIdentity)
    (author : Author) (now : Int) : StageRecord :=
  let number := record.stage.currentVersion + 1
  (record.withVersion number content identity author now).withStage
    (record.stage.withHead content number identity)

theorem mem_withRun {id : Nat} {update : GenerationRun → GenerationRun} {run : GenerationRun}
    (member : run ∈ (record.withRun id update).runs) :
    run ∈ record.runs ∨ ∃ former, record.runs[id]? = some former ∧ run = update former := by
  obtain ⟨position, found⟩ := List.mem_iff_getElem?.mp member
  rw [withRun_runs, List.getElem?_modify] at found
  split at found
  · rename_i same
    subst same
    obtain ⟨former, held, rfl⟩ := Option.map_eq_some_iff.mp found
    exact Or.inr ⟨former, held, rfl⟩
  · exact Or.inl (List.mem_of_getElem? (by simpa using found))

def NextFree (record : StageRecord) : Prop :=
  record.stage.currentVersion + 1 ∉ record.versions.map (·.version)

theorem append_eq_ok : record.append content identity author now = .ok written ↔
    record.NextFree ∧ record.appended content identity author now = written := by
  simp only [append, addVersion, bind_eq_ok, require_eq_ok, pure_eq_ok]
  constructor
  · rintro ⟨_, ⟨_, free, rfl⟩, rfl⟩
    exact ⟨free, rfl⟩
  · rintro ⟨free, rfl⟩
    exact ⟨_, ⟨(), free, rfl⟩, rfl⟩

theorem lockRunningRun_eq_ok {id : Nat} {run : GenerationRun} :
    record.lockRunningRun id now = .ok run ↔
      record.runs[id]? = some run ∧ run.status = .running ∧ run.cancelRequested = false ∧
        now < run.deadline := by
  unfold lockRunningRun
  cases found : record.runs[id]? with
  | none => simp
  | some held =>
      simp only [bind_eq_ok, require_eq_ok, pure_eq_ok, Option.some.injEq]
      constructor
      · rintro ⟨_, running, _, kept, _, early, rfl⟩
        exact ⟨rfl, running, kept, early⟩
      · rintro ⟨rfl, running, kept, early⟩
        exact ⟨(), running, (), kept, (), early, rfl⟩

section

variable (checks : Checks) (around : Surroundings) (now : Int) (record : StageRecord)

def rewritten (content : String) (identity : Option SourceIdentity) (author : Author)
    (status : StageStatus) : StageRecord :=
  let written := record.appended content identity author now
  written.withStage ((written.stage.moveTo status now).markChecking checks [] now)

def delivered (id : Nat) (run : GenerationRun) (content : String) (advisories : List Finding) :
    StageRecord :=
  let written := record.appended content (some (run.inputSnapshot.identity checks)) .ai now
  let stage := written.stage.moveTo .draft now
  (written.withStage (stage.markChecking checks advisories now)).withRun id fun run =>
    { run.markTerminal .succeeded now (some stage.currentVersion) none false 0 with
      completedParts := run.totalParts }

def gated (id : Nat) (run : GenerationRun) (content : String) (missing : List String) : StageRecord :=
  let written := record.appended content (some (run.inputSnapshot.identity checks)) .ai now
  let version := written.stage.currentVersion
  let gate : QualityGate := {
    status := .blocked, kind := some "missing_sections"
    payload := some { kind := some "missing_sections", missing }, version := some version }
  (written.withStage ((written.stage.moveTo .draft now).withGate gate)).withRun id fun run =>
    run.markTerminal .blocked now (some version) (some "missing_sections") false 0

def salvagedHead (id : Nat) (run : GenerationRun) (salvaged : Salvage) (errorCode : String) : StageRecord :=
  let written := record.appended salvaged.combined (some (run.inputSnapshot.identity checks)) .ai now
  let gate := incompleteGate id salvaged errorCode (run.deduction.isSome && !salvaged.resumable)
    written.stage.currentVersion
  written.withStage ((written.stage.moveTo .draft now).withGate gate)

def settledEmpty (id : Nat) (run : GenerationRun) (interruption : Interruption) : StageRecord :=
  let salvaged := interruption.salvage run
  let due := if salvaged.resumable then none else run.deduction
  ((record.refund due).withStage (record.stage.moveTo run.previousStatus now)).interrupted now id
    interruption salvaged (record.refundAmount due) none

def settledSaved (id : Nat) (run : GenerationRun) (interruption : Interruption) : StageRecord :=
  let salvaged := interruption.salvage run
  let due := if salvaged.resumable then none else run.deduction
  ((record.refund due).salvagedHead checks now id run salvaged interruption.errorCode).interrupted now id
    interruption salvaged (record.refundAmount due) (some (record.stage.currentVersion + 1))

def patched (merged : String) : StageRecord :=
  let charged := { record with charges := record.charges ++ [creditCost .regenerate] }
  let patched := charged.rewritten checks now merged record.stage.sourceIdentity .ai .draft
  patched.withStage { patched.stage with gapPatchUsed := true }

end

theorem rewrite_eq_ok {status : StageStatus} :
    record.rewrite checks now content identity author status = .ok written ↔
      record.NextFree ∧ record.rewritten checks now content identity author status = written := by
  simp only [rewrite, bind_eq_ok, append_eq_ok, pure_eq_ok]
  constructor
  · rintro ⟨_, ⟨free, rfl⟩, rfl⟩
    exact ⟨free, rfl⟩
  · rintro ⟨free, rfl⟩
    exact ⟨_, ⟨free, rfl⟩, rfl⟩

theorem deliver_eq_ok {id : Nat} {run : GenerationRun} {advisories : List Finding} :
    record.deliver checks now id run content advisories = .ok committed ↔
      record.NextFree ∧ { record := record.delivered checks now id run content advisories } = committed := by
  simp only [deliver, bind_eq_ok, append_eq_ok, pure_eq_ok]
  constructor
  · rintro ⟨_, ⟨free, rfl⟩, rfl⟩
    exact ⟨free, rfl⟩
  · rintro ⟨free, rfl⟩
    exact ⟨_, ⟨free, rfl⟩, rfl⟩

end StageRecord

open StageRecord

inductive Commits (checks : Checks) (around : Surroundings) (now : Int) (record : StageRecord) :
    Operation → Committed → Prop where
  | generate {request : StartRequest} {source : Option (Nat × GenerationRun)}
      (found : record.resumeSource checks around request = .ok source)
      (editable : record.stage.status = .draft ∨ record.stage.status = .stale)
      (dependencies : around.dependenciesFinalised = true) (idle : ¬record.Active) :
      Commits checks around now record (.generate request)
        { record := record.started checks around now request source }
  | preparePrompt {id : Nat} {run : GenerationRun} {prompt : String}
      (locked : record.lockRunningRun id now = .ok run) :
      Commits checks around now record (.preparePrompt id prompt)
        { record := record.withRun id fun run => { run with preparedPrompt := some prompt } }
  | checkpointChunk {id : Nat} {chunk : Chunk} (text : strip chunk.content ≠ "") :
      Commits checks around now record (.checkpointChunk id chunk)
        { record := record.checkpointed now id chunk }
  | heartbeat {id : Nat} :
      Commits checks around now record (.heartbeat id) { record := record.heartbeaten now id }
  | requestCancel {id : Nat} :
      Commits checks around now record (.requestCancel id) { record := record.cancelling now id }
  | succeed {id : Nat} {run : GenerationRun} {content : String} {advisories : List Finding}
      (locked : record.lockRunningRun id now = .ok run) (counted : run.completedParts = run.totalParts)
      (free : record.NextFree) :
      Commits checks around now record (.succeed id content advisories)
        { record := record.delivered checks now id run content advisories }
  | replay {id : Nat} {run : GenerationRun} {cached : String} {advisories : List Finding}
      (locked : record.lockRunningRun id now = .ok run) (unplanned : run.chunkPlan = none)
      (free : record.NextFree) :
      Commits checks around now record (.replay id cached advisories)
        { record := record.delivered checks now id run (strip (stripCodeFence cached)) advisories }
  | persistQualityGateBlocked {id : Nat} {run : GenerationRun} {content : String} {missing : List String}
      (locked : record.lockRunningRun id now = .ok run) (free : record.NextFree) :
      Commits checks around now record (.persistQualityGateBlocked id content missing)
        { record := record.gated checks now id run (strip (stripCodeFence content)) missing }
  | settledBefore {id : Nat} {run : GenerationRun} {interruption : Interruption}
      (found : record.runs[id]? = some run) (ended : run.status ≠ .running) :
      Commits checks around now record (.terminalizeInterruptedRun id interruption) { record }
  | interruptEmpty {id : Nat} {run : GenerationRun} {interruption : Interruption}
      (found : record.runs[id]? = some run) (running : run.status = .running)
      (empty : (interruption.salvage run).combined = "") :
      Commits checks around now record (.terminalizeInterruptedRun id interruption)
        { record := record.settledEmpty now id run interruption }
  | interruptSaved {id : Nat} {run : GenerationRun} {interruption : Interruption}
      (found : record.runs[id]? = some run) (running : run.status = .running)
      (saved : (interruption.salvage run).combined ≠ "") (free : record.NextFree) :
      Commits checks around now record (.terminalizeInterruptedRun id interruption)
        { record := record.settledSaved checks now id run interruption }
  | recoverLegacyStage (stuck : record.stage.status = .inProgress) (idle : ¬record.Active) :
      Commits checks around now record .recoverLegacyStage
        { record := (record.refund record.stage.deduction).withStage (record.stage.moveTo .draft now) }
  | finaliseDrifted {identity : SourceIdentity} (draft : record.stage.status = .draft)
      (recorded : record.stage.sourceIdentity = some identity)
      (drifted : identity ≠ around.snapshot.identity checks) :
      Commits checks around now record .finalise {
        record := record.withStage { record.stage with status := .stale }, raised := some .sourcesChanged }
  | finaliseBlocked {gate : QualityGate} (draft : record.stage.status = .draft)
      (unblocked : record.stage.pinned .blocked = false) (settled : record.stage.pinned .checking = false)
      (unready : record.stage.readinessGate checks around.snapshot = some gate) :
      Commits checks around now record .finalise {
        record := record.withStage (record.stage.withGate gate), raised := some .gateBlocked }
  | finalise (draft : record.stage.status = .draft)
      (unblocked : record.stage.pinned .blocked = false) (settled : record.stage.pinned .checking = false)
      (dependencies : around.dependenciesFinalised = true)
      (current : ∀ identity, record.stage.sourceIdentity = some identity →
        identity = around.snapshot.identity checks)
      (ready : record.stage.readinessGate checks around.snapshot = none) :
      Commits checks around now record .finalise {
        record := record.withStage (record.stage.moveTo .finalised now), spread := .unlockNext }
  | acknowledgeBlocked {gate : QualityGate} (stale : record.stage.status = .stale)
      (unblocked : record.stage.pinned .blocked = false) (settled : record.stage.pinned .checking = false)
      (unready : record.stage.readinessGate checks around.snapshot = some gate) :
      Commits checks around now record .acknowledgeStale {
        record := record.withStage (record.stage.withGate gate), raised := some .gateBlocked }
  | acknowledge (stale : record.stage.status = .stale)
      (unblocked : record.stage.pinned .blocked = false) (settled : record.stage.pinned .checking = false)
      (dependencies : around.dependenciesFinalised = true)
      (ready : record.stage.readinessGate checks around.snapshot = none) :
      Commits checks around now record .acknowledgeStale {
        record := record.withStage { record.stage.moveTo .finalised now with
          sourceIdentity := some (around.snapshot.identity checks) } }
  | unlockInPlace {versionNumber : Nat} {version : StageVersion}
      (idle : record.stage.status ≠ .inProgress)
      (found : record.versions.find? (·.version = versionNumber) = some version)
      (inPlace : record.UnlocksInPlace version) :
      Commits checks around now record (.rollback versionNumber)
        { record := record.unlockInPlace now version }
  | restore {versionNumber : Nat} {version : StageVersion}
      (idle : record.stage.status ≠ .inProgress)
      (found : record.versions.find? (·.version = versionNumber) = some version)
      (elsewhere : ¬record.UnlocksInPlace version) (free : record.NextFree) :
      Commits checks around now record (.rollback versionNumber) {
        record := record.rewritten checks now version.content version.sourceIdentity .user .draft
        spread := .staleDownstream }
  | editFinalised {newContent : String} {expectedVersion : Option Nat}
      (finalised : record.stage.status = .finalised) (free : record.NextFree) :
      Commits checks around now record (.handleContentEdit newContent expectedVersion) {
        record := record.rewritten checks now newContent record.stage.sourceIdentity .user .stale
        spread := .staleDownstream }
  | editUnfinalised {newContent : String} {expectedVersion : Option Nat}
      (idle : record.stage.status ≠ .inProgress) (unfinalised : record.stage.status ≠ .finalised)
      (free : record.NextFree) :
      Commits checks around now record (.handleContentEdit newContent expectedVersion)
        { record := record.rewritten checks now newContent record.stage.sourceIdentity .user .draft }
  | overrideQualityGate (draft : record.stage.status = .draft)
      (blocked : record.stage.pinned .blocked = true) :
      Commits checks around now record .overrideQualityGate
        { record := record.withStage ((record.stage.touch now).withGate
            { record.stage.gate with status := .overridden }) }
  | generateHarnessPatch {baselineVersion : Nat} {baselineContent accumulated : String}
      (editable : record.stage.status = .draft ∨ record.stage.status = .stale) (free : record.NextFree) :
      Commits checks around now record
        (.generateHarnessPatch baselineVersion baselineContent accumulated)
        { record := record.patched checks now
            (checks.mergeHarnessPatch record.stage.text accumulated) }
  | technologyCheck {findings : List Finding} (draft : record.stage.status = .draft) :
      Commits checks around now record (.technologyCheck record.stage.currentVersion findings)
        { record := record.withStage ((record.stage.touch now).withGate
            (record.stage.gate.merge findings record.stage.currentVersion true (anyBlocking findings))) }
  | criticReview {findings : List Finding} :
      Commits checks around now record (.criticReview record.stage.currentVersion findings)
        { record := record.withStage ((record.stage.touch now).withGate
            (record.stage.gate.merge findings record.stage.currentVersion false false)) }
  | recoverChecking {cutoff : Int} (checking : record.stage.gate.status = .checking) :
      Commits checks around now record (.recoverChecking cutoff)
        { record := record.withStage ((record.stage.touch now).withGate
            (recoveredGate checks record.stage)) }
  | loadIncrement (tasks : record.stage.type = .tasks) :
      Commits checks around now record .loadIncrement
        { record := { record with increments := record.increments ++ [record.stage.currentVersion] } }
  | appendTasksVersion {loaded : Nat} {newContent : String} (member : loaded ∈ record.increments)
      (free : loaded + 1 ∉ record.versions.map (·.version)) :
      Commits checks around now record (.appendTasksVersion loaded newContent)
        { record := { (record.withVersion (loaded + 1) newContent none .ai now).withStage
            ((record.stage.withHead newContent (loaded + 1) record.stage.sourceIdentity).touch now) with
          increments := record.increments.erase loaded } }
  | selectVersions {cutoff : Int} {referenced : List Nat} {limit : Nat} :
      Commits checks around now record (.selectVersions cutoff referenced limit)
        { record := { record with
          selected := record.selected ++
            ((record.versionCandidates checks cutoff referenced).take limit).map (·.id) } }
  | purgeVersions {ids : List Nat} (read : ∀ id ∈ ids, id ∈ record.selected) :
      Commits checks around now record (.purgeVersions ids)
        { record := { record with
          versions := record.versions.filter (·.id ∉ ids)
          selected := record.selected.filter (· ∉ ids) } }

section

variable {checks : Checks} {around : Surroundings} {now : Int} {record : StageRecord} {committed : Committed}

theorem Commits.of_terminalize {id : Nat} {interruption : Interruption}
    (ended : record.terminalizeInterruptedRun checks now id interruption = .ok committed) :
    Commits checks around now record (.terminalizeInterruptedRun id interruption) committed := by
  unfold terminalizeInterruptedRun at ended
  split at ended
  · contradiction
  · rename_i run found
    split at ended
    · rename_i settled
      simp only [pure_eq_ok] at ended
      subst ended
      exact .settledBefore found settled
    · rename_i running
      rw [not_not] at running
      simp only [bind_eq_ok, pure_eq_ok] at ended
      obtain ⟨saved, written, rfl⟩ := ended
      unfold saveSalvage at written
      split at written
      · rename_i empty
        simp only [pure_eq_ok] at written
        subst written
        rw [if_pos empty]
        exact .interruptEmpty found running empty
      · rename_i nonempty
        simp only [bind_eq_ok, append_eq_ok, pure_eq_ok] at written
        obtain ⟨_, ⟨free, rfl⟩, rfl⟩ := written
        rw [if_neg nonempty]
        exact .interruptSaved found running nonempty free

theorem Commits.of_finalise (finalised : record.finalise checks around now = .ok committed) :
    Commits checks around now record .finalise committed := by
  simp only [StageRecord.finalise, bind_eq_ok, require_eq_ok] at finalised
  obtain ⟨_, draft, _, unblocked, _, settled, _, dependencies, finalised⟩ := finalised
  split at finalised
  · rename_i drifted
    simp only [pure_eq_ok] at finalised
    subst finalised
    rw [Option.any_eq_true] at drifted
    obtain ⟨identity, recorded, differs⟩ := drifted
    exact .finaliseDrifted draft recorded (by simpa using differs)
  · rename_i same
    split at finalised
    · rename_i unready
      simp only [pure_eq_ok] at finalised
      subst finalised
      exact .finaliseBlocked draft unblocked settled unready
    · rename_i ready
      simp only [pure_eq_ok] at finalised
      subst finalised
      refine .finalise draft unblocked settled dependencies ?_ ready
      intro identity recorded
      simpa [recorded] using same

theorem Commits.of_acknowledgeStale
    (accepted : record.acknowledgeStale checks around now = .ok committed) :
    Commits checks around now record .acknowledgeStale committed := by
  simp only [StageRecord.acknowledgeStale, bind_eq_ok, require_eq_ok] at accepted
  obtain ⟨_, stale, _, dependencies, _, unblocked, _, settled, accepted⟩ := accepted
  split at accepted
  · rename_i unready
    simp only [pure_eq_ok] at accepted
    subst accepted
    exact .acknowledgeBlocked stale unblocked settled unready
  · rename_i ready
    simp only [pure_eq_ok] at accepted
    subst accepted
    exact .acknowledge stale unblocked settled dependencies ready

theorem Commits.of_rollback {versionNumber : Nat}
    (restored : record.rollback checks now versionNumber = .ok committed) :
    Commits checks around now record (.rollback versionNumber) committed := by
  simp only [StageRecord.rollback, bind_eq_ok, require_eq_ok] at restored
  obtain ⟨_, idle, restored⟩ := restored
  split at restored
  · contradiction
  · rename_i version found
    split at restored
    · rename_i inPlace
      simp only [pure_eq_ok] at restored
      subst restored
      exact .unlockInPlace idle found inPlace
    · rename_i elsewhere
      simp only [bind_eq_ok, rewrite_eq_ok, pure_eq_ok] at restored
      obtain ⟨_, ⟨free, rfl⟩, rfl⟩ := restored
      exact .restore idle found elsewhere free

theorem Commits.of_handleContentEdit {newContent : String} {expectedVersion : Option Nat}
    (edited : record.handleContentEdit checks now newContent expectedVersion = .ok committed) :
    Commits checks around now record (.handleContentEdit newContent expectedVersion) committed := by
  simp only [StageRecord.handleContentEdit, bind_eq_ok, require_eq_ok, rewrite_eq_ok, pure_eq_ok] at edited
  obtain ⟨_, idle, _, _, _, ⟨free, rfl⟩, rfl⟩ := edited
  by_cases finalised : record.stage.status = .finalised
  · simpa [finalised] using @Commits.editFinalised checks around now record newContent expectedVersion finalised free
  · simpa [finalised] using @Commits.editUnfinalised checks around now record newContent expectedVersion idle finalised free

theorem Operation.commits {operation : Operation}
    (commits : operation.commit checks around now record = .ok committed) :
    Commits checks around now record operation committed := by
  cases operation with
  | generate request =>
      simp only [commit, StageRecord.generate, bind_eq_ok, require_eq_ok, pure_eq_ok] at commits
      obtain ⟨_, found, _, editable, _, dependencies, _, idle, rfl⟩ := commits
      exact .generate found editable dependencies idle
  | preparePrompt id prompt =>
      simp only [commit, StageRecord.preparePrompt, bind_eq_ok, pure_eq_ok] at commits
      obtain ⟨_, locked, rfl⟩ := commits
      exact .preparePrompt locked
  | checkpointChunk id chunk =>
      simp only [commit, StageRecord.checkpointChunk, bind_eq_ok, require_eq_ok, pure_eq_ok] at commits
      obtain ⟨_, ⟨text, _⟩, rfl⟩ := commits
      exact .checkpointChunk text
  | heartbeat id =>
      simp only [commit, StageRecord.heartbeat, pure_eq_ok] at commits
      subst commits
      exact .heartbeat
  | requestCancel id =>
      simp only [commit, StageRecord.requestCancel, pure_eq_ok] at commits
      subst commits
      exact .requestCancel
  | succeed id content advisories =>
      simp only [commit, StageRecord.succeed, bind_eq_ok, require_eq_ok, deliver_eq_ok] at commits
      obtain ⟨_, locked, _, counted, free, rfl⟩ := commits
      exact .succeed locked counted free
  | replay id cached advisories =>
      simp only [commit, StageRecord.replay, bind_eq_ok, require_eq_ok, deliver_eq_ok] at commits
      obtain ⟨_, locked, _, unplanned, free, rfl⟩ := commits
      exact .replay locked unplanned free
  | persistQualityGateBlocked id content missing =>
      simp only [commit, StageRecord.persistQualityGateBlocked, bind_eq_ok, append_eq_ok, pure_eq_ok]
        at commits
      obtain ⟨_, locked, _, ⟨free, rfl⟩, rfl⟩ := commits
      exact .persistQualityGateBlocked locked free
  | terminalizeInterruptedRun id interruption => exact .of_terminalize commits
  | recoverLegacyStage =>
      simp only [commit, StageRecord.recoverLegacyStage, bind_eq_ok, require_eq_ok, pure_eq_ok] at commits
      obtain ⟨_, stuck, _, idle, rfl⟩ := commits
      exact .recoverLegacyStage stuck idle
  | finalise => exact .of_finalise commits
  | acknowledgeStale => exact .of_acknowledgeStale commits
  | rollback versionNumber => exact .of_rollback commits
  | handleContentEdit newContent expectedVersion => exact .of_handleContentEdit commits
  | overrideQualityGate =>
      simp only [commit, StageRecord.overrideQualityGate, bind_eq_ok, require_eq_ok, pure_eq_ok] at commits
      obtain ⟨_, draft, _, blocked, rfl⟩ := commits
      exact .overrideQualityGate draft blocked
  | generateHarnessPatch baselineVersion baselineContent accumulated =>
      simp only [commit, StageRecord.generateHarnessPatch, bind_eq_ok, require_eq_ok, rewrite_eq_ok,
        pure_eq_ok] at commits
      obtain ⟨_, _, _, editable, _, _, _, _, _, _, _, ⟨free, rfl⟩, rfl⟩ := commits
      exact .generateHarnessPatch editable free
  | technologyCheck version findings =>
      simp only [commit, StageRecord.technologyCheck, bind_eq_ok, require_eq_ok, pure_eq_ok] at commits
      obtain ⟨_, ⟨rfl, draft⟩, rfl⟩ := commits
      exact .technologyCheck draft
  | criticReview version findings =>
      simp only [commit, StageRecord.criticReview, bind_eq_ok, require_eq_ok, pure_eq_ok] at commits
      obtain ⟨_, rfl, rfl⟩ := commits
      exact .criticReview
  | recoverChecking cutoff =>
      simp only [commit, StageRecord.recoverChecking, bind_eq_ok, require_eq_ok, pure_eq_ok] at commits
      obtain ⟨_, checking, _, _, rfl⟩ := commits
      exact .recoverChecking checking
  | loadIncrement =>
      simp only [commit, StageRecord.loadIncrement, bind_eq_ok, require_eq_ok, pure_eq_ok] at commits
      obtain ⟨_, ⟨tasks, _⟩, rfl⟩ := commits
      exact .loadIncrement tasks
  | appendTasksVersion loaded newContent =>
      simp only [commit, StageRecord.appendTasksVersion, addVersion, bind_eq_ok, require_eq_ok,
        pure_eq_ok] at commits
      obtain ⟨_, member, _, ⟨_, free, rfl⟩, rfl⟩ := commits
      exact .appendTasksVersion member free
  | selectVersions cutoff referenced limit =>
      simp only [commit, StageRecord.selectVersions, pure_eq_ok] at commits
      subst commits
      exact .selectVersions
  | purgeVersions ids =>
      simp only [commit, StageRecord.purgeVersions, bind_eq_ok, require_eq_ok, pure_eq_ok] at commits
      obtain ⟨_, read, rfl⟩ := commits
      exact .purgeVersions read

end

structure Beside (before after : StageRecord) : Prop where
  kept : { after with stage := before.stage } = before
  stage : { after.stage with status := before.stage.status, updatedAt := before.stage.updatedAt } =
    before.stage
  status : after.stage.status = before.stage.status ∨
    (after.stage.status = .stale ∧ before.stage.content.isSome = true ∧
      (before.stage.status = .finalised ∨ before.stage.status = .draft)) ∨
    (after.stage.status = .draft ∧ before.stage.status = .locked)

namespace Beside

variable {before after : StageRecord}

theorem content (beside : Beside before after) : after.stage.content = before.stage.content :=
  congrArg (·.content) beside.stage

theorem currentVersion (beside : Beside before after) :
    after.stage.currentVersion = before.stage.currentVersion :=
  congrArg (·.currentVersion) beside.stage

theorem sourceIdentity (beside : Beside before after) :
    after.stage.sourceIdentity = before.stage.sourceIdentity :=
  congrArg (·.sourceIdentity) beside.stage

theorem type (beside : Beside before after) : after.stage.type = before.stage.type :=
  congrArg (·.type) beside.stage

theorem gate (beside : Beside before after) : after.stage.gate = before.stage.gate :=
  congrArg (·.gate) beside.stage

theorem runs (beside : Beside before after) : after.runs = before.runs :=
  congrArg (·.runs) beside.kept

theorem increments (beside : Beside before after) : after.increments = before.increments :=
  congrArg (·.increments) beside.kept

theorem finalised (beside : Beside before after) (finalised : after.stage.status = .finalised) :
    before.stage.status = .finalised := by
  rcases beside.status with same | ⟨stale, _⟩ | ⟨draft, _⟩
  · exact same ▸ finalised
  · rw [stale] at finalised
    contradiction
  · rw [draft] at finalised
    contradiction

end Beside

theorem Beside.refl (record : StageRecord) : Beside record record := ⟨rfl, rfl, Or.inl rfl⟩

theorem beside_markStale (record : StageRecord) (now : Int) :
    Beside record (record.withStage (record.stage.markStale now)) := by
  unfold Stage.markStale
  split
  · rename_i marked
    exact ⟨rfl, rfl, Or.inr (Or.inl ⟨rfl, marked.2, marked.1⟩)⟩
  · exact Beside.refl record

theorem beside_unlock (record : StageRecord) (now : Int) :
    Beside record (record.withStage (record.stage.unlock now)) := by
  unfold Stage.unlock
  split
  · rename_i locked
    exact ⟨rfl, rfl, Or.inr (Or.inr ⟨rfl, locked⟩)⟩
  · exact Beside.refl record

namespace Workspace

variable {checks : Checks} {workspace : Workspace} {event : Event} {type : StageType}

theorem step_cases (checks : Checks) (workspace : Workspace) (event : Event) :
    workspace.step checks event = workspace ∨
      ∃ committed, (workspace.transact checks event).isOk = true ∧
        Commits checks (workspace.surroundings event.type) event.now
          (workspace.record event.type) event.operation committed ∧
        workspace.step checks event = workspace.commit event.type committed event.now := by
  unfold step
  split
  · exact Or.inl rfl
  · rename_i committed commits
    exact Or.inr ⟨committed, by rw [commits]; rfl, Operation.commits commits, rfl⟩

variable {committed : Committed} {now : Int}

theorem step_of_ok (commits : workspace.transact checks event = .ok committed) :
    workspace.step checks event = workspace.commit event.type committed event.now := by
  simp [step, commits]

theorem commit_self : (workspace.commit type committed now).record type = committed.record := by
  simp [commit]

theorem commit_beside {other : StageType} (elsewhere : other ≠ type) :
    Beside (workspace.record other) ((workspace.commit type committed now).record other) := by
  simp only [commit, if_neg elsewhere]
  split
  · exact Beside.refl _
  · split
    · exact beside_markStale _ _
    · exact Beside.refl _
  · split
    · exact beside_unlock _ _
    · exact Beside.refl _

theorem commit_stale {lower : StageType} (spread : committed.spread = .staleDownstream)
    (later : lower ∈ type.downstream) (content : (workspace.record lower).stage.content.isSome = true) :
    ((workspace.commit type committed now).record lower).stage.status ≠ .finalised := by
  have elsewhere : lower ≠ type := by
    rintro rfl
    exact lower.not_mem_dependencies_self (StageType.mem_downstream.mp later)
  simp only [commit, if_neg elsewhere, spread, if_pos later, StageRecord.withStage_stage, Stage.markStale]
  split
  · simp
  · rename_i unmarked
    intro finalised
    exact unmarked ⟨Or.inl finalised, content⟩

end Workspace

end Thought2Build.Pipeline
