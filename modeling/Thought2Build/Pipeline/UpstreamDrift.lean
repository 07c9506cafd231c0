import Thought2Build.Pipeline.StageTransitions

/-!
Upstream drift: which versions above it a finalised stage was built on. Some transactions that change
a stage's text mark the later stages stale, others leave them as they are.
-/

namespace Thought2Build.Pipeline

namespace Stage

def Settled (stage : Stage) : Prop := stage.status = .finalised ∧ stage.sourceIdentity.isSome = true

instance (stage : Stage) : Decidable stage.Settled := inferInstanceAs (Decidable (_ ∧ _))

end Stage

namespace StageRecord

/-- The transactions that change a stage's text and leave the later stages as they are: the commits
of a generation, an edit of a stage that is not finalised, and the patch of a harness. -/
def RewritesInPlace (record : StageRecord) : Operation → Prop
  | .succeed _ _ _ | .replay _ _ _ | .persistQualityGateBlocked _ _ _ | .generateHarnessPatch _ _ _ => True
  | .terminalizeInterruptedRun id interruption => ∃ run ∈ record.runs[id]?,
      run.status = .running ∧ (interruption.salvage run).combined ≠ ""
  | .handleContentEdit _ _ => record.stage.status ≠ .finalised
  | _ => False

instance (record : StageRecord) : DecidablePred record.RewritesInPlace
  | .succeed _ _ _ | .replay _ _ _ | .persistQualityGateBlocked _ _ _ | .generateHarnessPatch _ _ _ =>
      isTrue trivial
  | .terminalizeInterruptedRun id interruption => inferInstanceAs (Decidable (∃ run ∈ record.runs[id]?,
      run.status = .running ∧ (interruption.salvage run).combined ≠ ""))
  | .handleContentEdit _ _ => inferInstanceAs (Decidable (_ ≠ _))
  | .generate _ | .preparePrompt _ _ | .checkpointChunk _ _ | .heartbeat _ | .requestCancel _
  | .recoverLegacyStage | .finalise | .acknowledgeStale | .rollback _ | .overrideQualityGate
  | .technologyCheck _ _ | .criticReview _ _ | .recoverChecking _ | .loadIncrement
  | .appendTasksVersion _ _ | .selectVersions _ _ _ | .purgeVersions _ => isFalse fun rewrites => rewrites

structure Lineage (type : StageType) (record : StageRecord) : Prop where
  sameType : record.stage.type = type
  recorded : record.stage.sourceIdentity.isSome = true → record.stage.content.isSome = true
  stale : record.stage.status = .stale → record.stage.content.isSome = true
  resumable : ∀ run ∈ record.runs, run.previousStatus = .draft ∨
    (run.previousStatus = .stale ∧ record.stage.content.isSome = true)
  increments : record.increments ≠ [] → type = .tasks

theorem Lineage.previous {type : StageType} {record : StageRecord} (lineage : record.Lineage type)
    {id : Nat} {run : GenerationRun} (found : record.runs[id]? = some run) :
    run.previousStatus ≠ .finalised := by
  rcases lineage.resumable run (List.mem_of_getElem? found) with draft | ⟨stale, _⟩
  · simp [draft]
  · simp [stale]

structure Finalises (checks : Checks) (around : Surroundings) (before after : StageRecord) : Prop where
  unblocked : before.stage.pinned .blocked = false
  settled : before.stage.pinned .checking = false
  current : ∀ identity, after.stage.sourceIdentity = some identity →
    identity = around.snapshot.identity checks

end StageRecord

open StageRecord

section

variable {checks : Checks} {around : Surroundings} {now : Int} {record : StageRecord}
  {operation : Operation} {committed : Committed} {type : StageType}

theorem moved_on {stage : Stage} {other : StageStatus} {goal : Prop} (status : StageStatus)
    (moved : stage.status = status) (differs : status ≠ other) (arrived : stage.status = other) : goal :=
  absurd (moved.symm.trans arrived) differs

theorem Commits.version (commits : Commits checks around now record operation committed) :
    committed.record.stage.currentVersion = record.stage.currentVersion ∨
      committed.spread = .staleDownstream ∨ record.RewritesInPlace operation ∨ record.increments ≠ [] := by
  cases commits with
  | restore | editFinalised => exact Or.inr (Or.inl rfl)
  | succeed | replay | persistQualityGateBlocked | generateHarnessPatch =>
      exact Or.inr (Or.inr (Or.inl trivial))
  | interruptSaved found running saved => exact Or.inr (Or.inr (Or.inl ⟨_, found, running, saved⟩))
  | editUnfinalised idle unfinalised => exact Or.inr (Or.inr (Or.inl unfinalised))
  | appendTasksVersion member => exact Or.inr (Or.inr (Or.inr (List.ne_nil_of_mem member)))
  | _ => exact Or.inl rfl

theorem Commits.finalised (commits : Commits checks around now record operation committed)
    (lineage : record.Lineage type) (finalised : committed.record.stage.status = .finalised) :
    (record.stage.status = .finalised ∧
        committed.record.stage.sourceIdentity = record.stage.sourceIdentity) ∨
      Finalises checks around record committed.record := by
  cases commits with
  | finalise _ unblocked settled _ current => exact Or.inr ⟨unblocked, settled, current⟩
  | acknowledge _ unblocked settled =>
      exact Or.inr ⟨unblocked, settled, fun _ same => (Option.some.inj same).symm⟩
  | interruptEmpty found => exact absurd finalised (lineage.previous found)
  | generate => exact moved_on .inProgress rfl (by decide) finalised
  | finaliseDrifted | editFinalised => exact moved_on .stale rfl (by decide) finalised
  | succeed | replay | persistQualityGateBlocked | interruptSaved | recoverLegacyStage | unlockInPlace
    | restore | editUnfinalised | generateHarnessPatch =>
      exact moved_on .draft rfl (by decide) finalised
  | _ => exact Or.inl ⟨finalised, rfl⟩

def Follows (before after : StageRecord) : Prop :=
  ∀ run ∈ after.runs, ∃ former ∈ before.runs, run.previousStatus = former.previousStatus

theorem follows_withRun {id : Nat} {update : GenerationRun → GenerationRun} {written : StageRecord}
    (same : written.runs = record.runs) (keeps : ∀ run, (update run).previousStatus = run.previousStatus) :
    Follows record (written.withRun id update) := by
  intro run member
  rcases mem_withRun member with old | ⟨former, found, rfl⟩
  · exact ⟨run, same ▸ old, rfl⟩
  · exact ⟨former, same ▸ List.mem_of_getElem? found, keeps former⟩

theorem follows_of_same {written : StageRecord} (same : written.runs = record.runs) :
    Follows record written := by
  intro run member
  exact ⟨run, same ▸ member, rfl⟩

theorem StageRecord.Lineage.of_head {after : StageRecord} (lineage : record.Lineage type)
    (same : after.stage.type = record.stage.type) (content : after.stage.content.isSome = true)
    (follows : Follows record after) (increments : after.increments ≠ [] → record.increments ≠ []) :
    after.Lineage type where
  sameType := same.trans lineage.sameType
  recorded _ := content
  stale _ := content
  resumable := by
    intro run member
    obtain ⟨former, old, previous⟩ := follows run member
    rw [previous]
    rcases lineage.resumable former old with draft | ⟨wasStale, _⟩
    · exact Or.inl draft
    · exact Or.inr ⟨wasStale, content⟩
  increments some := lineage.increments (increments some)

theorem StageRecord.Lineage.of_same {after : StageRecord} (lineage : record.Lineage type)
    (same : after.stage.type = record.stage.type) (content : after.stage.content = record.stage.content)
    (identity : after.stage.sourceIdentity = record.stage.sourceIdentity)
    (stale : after.stage.status = .stale → record.stage.content.isSome = true)
    (follows : Follows record after) (increments : after.increments ≠ [] → record.increments ≠ []) :
    after.Lineage type where
  sameType := same.trans lineage.sameType
  recorded := by
    rw [content, identity]
    exact lineage.recorded
  stale := by
    rw [content]
    exact stale
  resumable := by
    intro run member
    obtain ⟨former, old, previous⟩ := follows run member
    rw [previous, content]
    exact lineage.resumable former old
  increments some := lineage.increments (increments some)

theorem Commits.lineage (commits : Commits checks around now record operation committed)
    (lineage : record.Lineage type) : committed.record.Lineage type := by
  cases commits with
  | @generate request source found editable =>
      refine { lineage with stale := moved_on .inProgress rfl (by decide), resumable := ?_ }
      intro run member
      rcases List.mem_append.mp member with old | new
      · exact lineage.resumable run old
      · rw [List.mem_singleton] at new
        subst new
        exact editable.imp_right fun stale => ⟨stale, lineage.stale stale⟩
  | preparePrompt =>
      exact lineage.of_same rfl rfl rfl lineage.stale (follows_withRun rfl fun _ => rfl) id
  | checkpointChunk =>
      refine lineage.of_same rfl rfl rfl lineage.stale (follows_withRun rfl ?_) id
      intro run
      simp only [GenerationRun.bank]
      split <;> split <;> rfl
  | heartbeat | requestCancel =>
      refine lineage.of_same rfl rfl rfl lineage.stale (follows_withRun rfl ?_) id
      intro run
      split <;> rfl
  | succeed | replay | persistQualityGateBlocked =>
      exact lineage.of_head rfl rfl (follows_withRun rfl fun _ => rfl) id
  | settledBefore => exact lineage
  | @interruptEmpty id run interruption found running empty =>
      refine lineage.of_same rfl rfl rfl ?_ (follows_withRun rfl fun _ => rfl) (fun some => some)
      intro stale
      have previous : run.previousStatus = .stale := stale
      rcases lineage.resumable run (List.mem_of_getElem? found) with draft | ⟨_, content⟩
      · rw [draft] at previous
        exact nomatch previous
      · exact content
  | interruptSaved => exact lineage.of_head rfl rfl (follows_withRun rfl fun _ => rfl) id
  | recoverLegacyStage =>
      exact lineage.of_same rfl rfl rfl (moved_on .draft rfl (by decide)) (follows_of_same rfl) id
  | finaliseDrifted _ recorded =>
      refine lineage.of_same rfl rfl rfl ?_ (follows_of_same rfl) id
      intro _
      exact lineage.recorded (by simp [recorded])
  | finalise =>
      exact lineage.of_same rfl rfl rfl (moved_on .finalised rfl (by decide)) (follows_of_same rfl) id
  | acknowledge stale =>
      exact { lineage with
        recorded := fun _ => lineage.stale stale, stale := moved_on .finalised rfl (by decide) }
  | finaliseBlocked | acknowledgeBlocked
    | overrideQualityGate | technologyCheck | criticReview | recoverChecking
    | selectVersions | purgeVersions =>
      exact lineage.of_same rfl rfl rfl lineage.stale (follows_of_same rfl) id
  | unlockInPlace | restore | editFinalised | editUnfinalised | generateHarnessPatch =>
      exact lineage.of_head rfl rfl (follows_of_same rfl) id
  | loadIncrement tasks => exact { lineage with increments := fun _ => lineage.sameType ▸ tasks }
  | appendTasksVersion member =>
      exact lineage.of_head rfl rfl (follows_of_same rfl) fun _ => List.ne_nil_of_mem member

theorem StageRecord.Lineage.beside {after : StageRecord} (lineage : record.Lineage type)
    (beside : Beside record after) : after.Lineage type := by
  refine lineage.of_same beside.type beside.content beside.sourceIdentity ?_
    (follows_of_same beside.runs) (fun some => beside.increments ▸ some)
  intro stale
  rcases beside.status with same | ⟨_, content, _⟩ | ⟨draft, _⟩
  · exact lineage.stale (same ▸ stale)
  · exact content
  · rw [draft] at stale
    contradiction

end

namespace Workspace

open Histories

variable {checks : Checks} {workspace : Workspace} {event : Event}

def UpstreamCurrent (workspace : Workspace) : Prop :=
  ∀ type identity, (workspace.record type).stage.status = .finalised →
    (workspace.record type).stage.sourceIdentity = some identity →
      identity.upstreamVersions = type.dependencies.map fun upper =>
        (upper, (workspace.record upper).stage.currentVersion)

def Contained (checks : Checks) (workspace : Workspace) (event : Event) : Prop :=
  (workspace.transact checks event).isOk = true →
    (workspace.record event.type).RewritesInPlace event.operation →
      ∀ lower ∈ event.type.downstream, ¬(workspace.record lower).stage.Settled

instance (workspace : Workspace) (event : Event) : Decidable (Contained checks workspace event) :=
  inferInstanceAs (Decidable (_ → _ → ∀ lower ∈ event.type.downstream, _))

theorem commit_upstreamCurrent {committed : Committed}
    (lineage : ∀ type, (workspace.record type).Lineage type) (current : workspace.UpstreamCurrent)
    (contained : (workspace.record event.type).RewritesInPlace event.operation →
      ∀ lower ∈ event.type.downstream, ¬(workspace.record lower).stage.Settled)
    (commits : Commits checks (workspace.surroundings event.type) event.now (workspace.record event.type)
      event.operation committed) :
    (workspace.commit event.type committed event.now).UpstreamCurrent := by
  have beside {other : StageType} (elsewhere : other ≠ event.type) : Beside (workspace.record other)
      ((workspace.commit event.type committed event.now).record other) := commit_beside elsewhere
  intro type identity finalised recorded
  by_cases own : type = event.type
  · -- The stage's own dependencies are other stages, and none of these has moved.
    subst own
    rw [commit_self] at finalised recorded
    have upstream : identity.upstreamVersions = event.type.dependencies.map fun upper =>
        (upper, (workspace.record upper).stage.currentVersion) := by
      rcases commits.finalised (lineage event.type) finalised with ⟨before, same⟩ | finalises
      · exact current event.type identity before (same ▸ recorded)
      · rw [finalises.current identity recorded]
        simp [surroundings, snapshot, InputSnapshot.identity]
    rw [upstream]
    apply List.map_congr_left
    intro upper above
    have elsewhere : upper ≠ event.type := by
      rintro rfl
      exact event.type.not_mem_dependencies_self above
    rw [(beside elsewhere).currentVersion]
  · have before := (beside own).finalised finalised
    rw [(beside own).sourceIdentity] at recorded
    rw [current type identity before recorded]
    apply List.map_congr_left
    intro upper above
    by_cases moved : upper = event.type
    · subst moved
      have later := StageType.mem_downstream.mpr above
      have settled : (workspace.record type).stage.sourceIdentity.isSome = true := by simp [recorded]
      rw [commit_self]
      rcases commits.version with same | spread | rewrites | increments
      · rw [same]
      · exact absurd finalised (commit_stale spread later ((lineage type).recorded settled))
      · exact absurd ⟨before, settled⟩ (contained rewrites type later)
      · rw [(lineage event.type).increments increments] at later
        contradiction
    · rw [(beside moved).currentVersion]

structure Tracked (workspace : Workspace) : Prop where
  lineage : ∀ type, (workspace.record type).Lineage type
  current : workspace.UpstreamCurrent

theorem Tracked.step (tracked : workspace.Tracked) (contained : Contained checks workspace event) :
    (workspace.step checks event).Tracked := by
  rcases step_cases checks workspace event with refused | ⟨committed, done, commits, stepped⟩
  · rw [refused]
    exact tracked
  · rw [stepped]
    refine ⟨?_, commit_upstreamCurrent tracked.lineage tracked.current (contained done) commits⟩
    intro type
    by_cases own : type = event.type
    · subst own
      rw [commit_self]
      exact commits.lineage (tracked.lineage event.type)
    · exact (tracked.lineage type).beside (commit_beside own)

theorem fresh_tracked (inputs : WorkspaceInputs) (now : Int) : (fresh inputs now).Tracked where
  lineage type := by
    constructor <;> simp [fresh]
    split <;> simp
  current := by
    intro type identity finalised recorded
    simp [fresh] at recorded

/-- In a run from a fresh workspace whose steps are all contained, every finalised stage was built on
the current versions above it. -/
theorem contained_runs_stay_current (checks : Checks) (inputs : WorkspaceInputs) (now : Int)
    (events : List Event) (contained : Along (step checks) (Contained checks) (fresh inputs now) events) :
    (play (step checks) (fresh inputs now) events).UpstreamCurrent := by
  have tracked := contained.invariant (fun _ _ tracked contained => Tracked.step tracked contained)
    (fresh_tracked inputs now)
  exact tracked.current

theorem contained_runs_stay_current_sample :
    (play (step sampleChecks) (fresh {} 0) (sampleFinalised .spec 0 1 "spec" 1 ++
      sampleFinalised .plan 0 2 "plan" 1 ++
      [{ type := .spec, now := 3, operation := .handleContentEdit "other" none }])).UpstreamCurrent :=
  contained_runs_stay_current sampleChecks {} 0 _ (by decide)

theorem edit_after_unlock_hides_drift :
    ¬(play (step sampleChecks) (fresh {} 0) (sampleFinalised .spec 0 1 "spec" 1 ++
      sampleFinalised .plan 0 2 "plan" 1 ++
      [ { type := .spec, now := 3, operation := .rollback 1 }
      , { type := .spec, now := 4, operation := .handleContentEdit "other" none } ])).UpstreamCurrent := by
  intro current
  have stale := current .plan { sourceHash := "specspec", upstreamVersions := [(.spec, 1)] }
    (by decide) (by decide)
  revert stale
  decide

end Workspace

end Thought2Build.Pipeline
