import Thought2Build.Pipeline.UpstreamDrift

/-!
Quality gates over whole runs. A record beside the workspace remembers which texts a gate has
blocked without an override, and which texts still wait for their technology check.
-/

namespace Thought2Build.Pipeline

open Histories

structure GateRecord where
  blocked : List String := []
  unchecked : List String := []

namespace GateRecord

def Accepts : Operation → Bool
  | .overrideQualityGate => true
  | _ => false

def Clears (operation : Operation) (after : Stage) : Bool :=
  match operation with
  | .overrideQualityGate => true
  | .technologyCheck _ _ | .recoverChecking _ => after.gate.status ≠ .blocked
  | _ => false

def after (gates : GateRecord) (operation : Operation) (before after : Stage) : GateRecord where
  blocked :=
    (if after.pinned .blocked then [after.text] else []) ++
      if Accepts operation then gates.blocked.filter (· ≠ before.text) else gates.blocked
  unchecked :=
    (if after.pinned .checking then [after.text] else []) ++
      if Clears operation after then gates.unchecked.filter (· ≠ before.text) else gates.unchecked

end GateRecord

structure Guarded (stage : Stage) (gates : GateRecord) : Prop where
  pinned : stage.gate.status ≠ .clear → stage.gate.version = some stage.currentVersion
  blocked : stage.text ∈ gates.blocked → stage.gate.status = .blocked
  unchecked : stage.text ∈ gates.unchecked →
    stage.gate.status = .checking ∨ stage.gate.status = .blocked
  finalised : stage.status = .finalised →
    stage.gate.status ≠ .blocked ∧ stage.gate.status ≠ .checking

namespace Guarded

variable {before after : Stage} {gates : GateRecord} {operation : Operation}

theorem step (pinned : after.gate.status ≠ .clear → after.gate.version = some after.currentVersion)
    (blocked : after.text ∈ gates.blocked → after.gate.status = .blocked ∨
      (GateRecord.Accepts operation = true ∧ after.text = before.text))
    (unchecked : after.text ∈ gates.unchecked → after.gate.status = .checking ∨
      after.gate.status = .blocked ∨
        (GateRecord.Clears operation after = true ∧ after.text = before.text))
    (finalised : after.status = .finalised →
      after.gate.status ≠ .blocked ∧ after.gate.status ≠ .checking) :
    Guarded after (gates.after operation before after) where
  pinned := pinned
  blocked := by
    intro member
    rcases List.mem_append.mp member with new | old
    · split at new
      · rename_i held
        exact (Stage.pinned_eq_true.mp held).1
      · contradiction
    · split at old
      · obtain ⟨kept, differs⟩ := List.mem_filter.mp old
        rcases blocked kept with held | ⟨_, same⟩
        · exact held
        · exact absurd same (by simpa using differs)
      · rename_i unaccepted
        rcases blocked old with held | ⟨accepted, _⟩
        · exact held
        · exact absurd accepted unaccepted
  unchecked := by
    intro member
    rcases List.mem_append.mp member with new | old
    · split at new
      · rename_i held
        exact Or.inl (Stage.pinned_eq_true.mp held).1
      · contradiction
    · split at old
      · obtain ⟨kept, differs⟩ := List.mem_filter.mp old
        rcases unchecked kept with checking | held | ⟨_, same⟩
        · exact Or.inl checking
        · exact Or.inr held
        · exact absurd same (by simpa using differs)
      · rename_i uncleared
        rcases unchecked old with checking | held | ⟨cleared, _⟩
        · exact Or.inl checking
        · exact Or.inr held
        · exact absurd cleared uncleared
  finalised := finalised

theorem of_same (guarded : Guarded before gates) (content : after.content = before.content)
    (version : after.currentVersion = before.currentVersion) (gate : after.gate = before.gate)
    (finalised : after.status = .finalised →
      before.gate.status ≠ .blocked ∧ before.gate.status ≠ .checking) :
    Guarded after (gates.after operation before after) := by
  have text : after.text = before.text := by simp [Stage.text, content]
  refine step ?_ ?_ ?_ ?_
  · rw [gate, version]
    exact guarded.pinned
  · rw [gate, text]
    exact fun member => Or.inl (guarded.blocked member)
  · rw [gate, text]
    exact fun member => (guarded.unchecked member).imp_right Or.inl
  · rw [gate]
    exact finalised

theorem of_blocked (blocked : after.gate.status = .blocked)
    (version : after.gate.version = some after.currentVersion) (unfinalised : after.status ≠ .finalised) :
    Guarded after (gates.after operation before after) :=
  step (fun _ => version) (fun _ => Or.inl blocked) (fun _ => Or.inr (Or.inl blocked))
    fun finalised => absurd finalised unfinalised

theorem free (guarded : Guarded before gates) (unblocked : before.pinned .blocked = false)
    (settled : before.pinned .checking = false) :
    before.gate.status ≠ .blocked ∧ before.gate.status ≠ .checking := by
  constructor
  · intro blocked
    have held := Stage.pinned_eq_true.mpr ⟨blocked, guarded.pinned (by simp [blocked])⟩
    simp [held] at unblocked
  · intro checking
    have held := Stage.pinned_eq_true.mpr ⟨checking, guarded.pinned (by simp [checking])⟩
    simp [held] at settled

theorem text_not_mem (guarded : Guarded before gates)
    (free : before.gate.status ≠ .blocked ∧ before.gate.status ≠ .checking) :
    before.text ∉ gates.blocked ∧ before.text ∉ gates.unchecked :=
  ⟨fun member => free.1 (guarded.blocked member),
    fun member => (guarded.unchecked member).elim free.2 free.1⟩

end Guarded

namespace QualityGate

variable {gate : QualityGate} {findings : List Finding} {version : Nat} {finished blocked : Bool}

theorem merge_version (pinned : gate.status ≠ .clear → gate.version = some version)
    (held : (gate.merge findings version finished blocked).status ≠ .clear) :
    (gate.merge findings version finished blocked).version = some version := by
  unfold merge at held ⊢
  dsimp only at held ⊢
  split
  · rename_i kept
    exact pinned (by rcases kept with kept | kept <;> simp [kept])
  · split
    · rfl
    · split
      · rfl
      · split
        · rfl
        · rename_i overruled unblocked unchecked none
          rw [if_neg overruled, if_neg unblocked, if_neg unchecked, if_neg none] at held
          exact absurd rfl held

theorem merge_of_blocked (held : gate.status = .blocked) :
    (gate.merge findings version finished blocked).status = .blocked := by
  unfold merge
  rw [if_pos (Or.inl held)]
  exact held

theorem critic_merge_checking : (gate.merge findings version false false).status = .checking ↔
    gate.status = .checking := by
  unfold merge
  dsimp only
  split
  · rfl
  · split
    · contradiction
    · split
      · rfl
      · rename_i unchecked
        have other : gate.status ≠ .checking := by simpa using unchecked
        split <;> simp [advisory, cleared, other]

theorem critic_merge_blocked : (gate.merge findings version false false).status = .blocked ↔
    gate.status = .blocked := by
  unfold merge
  dsimp only
  split
  · rfl
  · rename_i overruled
    rw [not_or] at overruled
    split
    · contradiction
    · split
      · rfl
      · split <;> simp [advisory, cleared, overruled.1]

end QualityGate

theorem Stage.checkingGate_version {checks : Checks} {stage : Stage} {existing : List Finding} {now : Int} :
    (stage.checkingGate checks existing now).version = some stage.currentVersion := by
  unfold checkingGate
  dsimp only
  split
  · exact QualityGate.merge_version (fun _ => rfl) (by simp [QualityGate.merge])
  · rfl

theorem Stage.checkingGate_status {checks : Checks} {stage : Stage} {existing : List Finding} {now : Int} :
    (stage.checkingGate checks existing now).status =
      if anyBlocking (checks.localSafety stage.type stage.text []) then .blocked else .checking := by
  unfold checkingGate
  dsimp only
  split <;> simp [QualityGate.merge]

theorem Stage.readinessGate_version {checks : Checks} {stage : Stage} {snapshot : InputSnapshot}
    {gate : QualityGate} (unready : stage.readinessGate checks snapshot = some gate) :
    gate.version = some stage.currentVersion := by
  unfold readinessGate at unready
  split at unready
  · contradiction
  · split at unready
    · cases unready
      rfl
    · dsimp only at unready
      split at unready
      · cases unready
        rfl
      · contradiction

open StageRecord

namespace StageRecord

def Fresh (checks : Checks) (type : StageType) (gates : GateRecord) (text : String) : Prop :=
  text ∈ gates.blocked → anyBlocking (checks.localSafety type text []) = true

/-- The operation does not lift a gate: no unlock in place of a stage that is blocked or waits for
its check, and no held-back text is written again without being blocked again. -/
def Honest (checks : Checks) (record : StageRecord) (gates : GateRecord) : Operation → Prop
  | .succeed _ content _ => Fresh checks record.stage.type gates content
  | .replay _ cached _ => Fresh checks record.stage.type gates (strip (stripCodeFence cached))
  | .handleContentEdit newContent _ => Fresh checks record.stage.type gates newContent
  | .generateHarnessPatch _ _ accumulated => Fresh checks record.stage.type gates
      (checks.mergeHarnessPatch record.stage.text accumulated)
  | .rollback versionNumber => ∀ version ∈ record.versions.find? (·.version = versionNumber),
      if record.UnlocksInPlace version then
        record.stage.pinned .blocked = false ∧ record.stage.pinned .checking = false
      else Fresh checks record.stage.type gates version.content
  | _ => True

end StageRecord

namespace StageRecord

variable {checks : Checks} {type : StageType} {gates : GateRecord} {text : String}

instance : Decidable (Fresh checks type gates text) := inferInstanceAs (Decidable (_ → _))

instance (record : StageRecord) : DecidablePred (record.Honest checks gates)
  | .succeed _ _ _ | .replay _ _ _ | .handleContentEdit _ _ | .generateHarnessPatch _ _ _ =>
      inferInstanceAs (Decidable (Fresh _ _ _ _))
  | .rollback versionNumber => inferInstanceAs (Decidable
      (∀ version ∈ record.versions.find? (·.version = versionNumber),
        if record.UnlocksInPlace version then
          record.stage.pinned .blocked = false ∧ record.stage.pinned .checking = false
        else Fresh checks record.stage.type gates version.content))
  | .generate _ | .preparePrompt _ _ | .checkpointChunk _ _ | .heartbeat _ | .requestCancel _
  | .persistQualityGateBlocked _ _ _ | .terminalizeInterruptedRun _ _ | .recoverLegacyStage | .finalise
  | .acknowledgeStale | .overrideQualityGate | .technologyCheck _ _ | .criticReview _ _
  | .recoverChecking _ | .loadIncrement | .appendTasksVersion _ _ | .selectVersions _ _ _
  | .purgeVersions _ => isTrue trivial

end StageRecord

def Operation.OfStage : Operation → Bool
  | .loadIncrement | .appendTasksVersion _ _ | .selectVersions _ _ _ | .purgeVersions _ => false
  | _ => true

section

variable {checks : Checks} {around : Surroundings} {now : Int} {record : StageRecord}
  {operation : Operation} {committed : Committed} {gates : GateRecord}

theorem Stage.text_of_content {stage : Stage} {content : String} (written : stage.content = some content) :
    stage.text = content := by
  simp [text, written]

theorem Guarded.of_checking {before written : Stage} {content : String} {existing : List Finding}
    (head : written.content = some content) (type : written.type = before.type)
    (unfinalised : written.status ≠ .finalised) (fresh : Fresh checks before.type gates content) :
    Guarded (written.markChecking checks existing now)
      (gates.after operation before (written.markChecking checks existing now)) := by
  have text : (written.markChecking checks existing now).text = content := by simp [Stage.text, head]
  have status : (written.markChecking checks existing now).gate.status =
      if anyBlocking (checks.localSafety before.type content []) then .blocked else .checking := by
    rw [Stage.markChecking_gate, Stage.checkingGate_status, Stage.text_of_content head, type]
  refine Guarded.step (fun _ => Stage.checkingGate_version) ?_ ?_ ?_
  · intro member
    rw [text] at member
    rw [status, if_pos (fresh member)]
    exact Or.inl rfl
  · intro _
    rw [status]
    split
    · exact Or.inr (Or.inl rfl)
    · exact Or.inl rfl
  · intro finalised
    exact absurd finalised unfinalised

theorem blocked_or_clears {before after : Stage} (text : after.text = before.text)
    (ends : GateRecord.Clears operation after = decide (after.gate.status ≠ .blocked)) :
    after.gate.status = .blocked ∨
      (GateRecord.Clears operation after = true ∧ after.text = before.text) := by
  by_cases blocked : after.gate.status = .blocked
  · exact Or.inl blocked
  · refine Or.inr ⟨?_, text⟩
    rw [ends]
    exact decide_eq_true blocked

theorem Guarded.of_unready {stage : Stage} {snapshot : InputSnapshot} {gate : QualityGate}
    (guarded : Guarded stage gates) (unblocked : stage.pinned .blocked = false)
    (settled : stage.pinned .checking = false) (unready : stage.readinessGate checks snapshot = some gate)
    (unfinalised : stage.status ≠ .finalised) :
    Guarded (stage.withGate gate) (gates.after operation stage (stage.withGate gate)) := by
  have free := guarded.text_not_mem (guarded.free unblocked settled)
  have version : gate.version = some stage.currentVersion := Stage.readinessGate_version unready
  refine Guarded.step (fun _ => version) ?_ ?_ ?_
  · exact fun member => absurd member free.1
  · exact fun member => absurd member free.2
  · exact fun finalised => absurd finalised unfinalised

theorem Guarded.of_unlock {version : StageVersion} (guarded : Guarded record.stage gates)
    (inPlace : record.UnlocksInPlace version) (unblocked : record.stage.pinned .blocked = false)
    (settled : record.stage.pinned .checking = false) :
    Guarded (record.unlockInPlace now version).stage
      (gates.after operation record.stage (record.unlockInPlace now version).stage) := by
  have free := guarded.text_not_mem (guarded.free unblocked settled)
  have text : (record.unlockInPlace now version).stage.text = record.stage.text := inPlace.2
  refine Guarded.step ?_ ?_ ?_ (moved_on .draft rfl (by decide))
  · simp only [unlockInPlace, withStage_stage, Stage.withGate_gate]
    split
    · exact guarded.pinned
    · exact fun held => absurd rfl held
  · rw [text]
    exact fun member => absurd member free.1
  · rw [text]
    exact fun member => absurd member free.2

theorem Guarded.beside {after : StageRecord} (guarded : Guarded record.stage gates)
    (beside : Beside record after) : Guarded after.stage gates where
  pinned := by
    rw [beside.gate, beside.currentVersion]
    exact guarded.pinned
  blocked := by
    rw [beside.gate, Stage.text, beside.content]
    exact guarded.blocked
  unchecked := by
    rw [beside.gate, Stage.text, beside.content]
    exact guarded.unchecked
  finalised := by
    rw [beside.gate]
    exact fun finalised => guarded.finalised (beside.finalised finalised)

theorem Commits.guarded {type : StageType} (commits : Commits checks around now record operation committed)
    (stageOperation : operation.OfStage = true) (lineage : record.Lineage type)
    (guarded : Guarded record.stage gates) (honest : record.Honest checks gates operation) :
    Guarded committed.record.stage (gates.after operation record.stage committed.record.stage) := by
  cases commits with
  | generate => exact guarded.of_same rfl rfl rfl (moved_on .inProgress rfl (by decide))
  | preparePrompt | checkpointChunk | heartbeat | requestCancel | settledBefore =>
      exact guarded.of_same rfl rfl rfl guarded.finalised
  | succeed => exact Guarded.of_checking rfl rfl (moved_on .draft rfl (by decide)) honest
  | replay => exact Guarded.of_checking rfl rfl (moved_on .draft rfl (by decide)) honest
  | persistQualityGateBlocked | interruptSaved =>
      exact Guarded.of_blocked rfl rfl (moved_on .draft rfl (by decide))
  | interruptEmpty found =>
      exact guarded.of_same rfl rfl rfl fun finalised => absurd finalised (lineage.previous found)
  | recoverLegacyStage => exact guarded.of_same rfl rfl rfl (moved_on .draft rfl (by decide))
  | finaliseDrifted => exact guarded.of_same rfl rfl rfl (moved_on .stale rfl (by decide))
  | finaliseBlocked draft unblocked settled unready =>
      exact guarded.of_unready unblocked settled unready (moved_on .draft draft (by decide))
  | acknowledgeBlocked stale unblocked settled unready =>
      exact guarded.of_unready unblocked settled unready (moved_on .stale stale (by decide))
  | finalise _ unblocked settled =>
      exact guarded.of_same rfl rfl rfl fun _ => guarded.free unblocked settled
  | acknowledge _ unblocked settled =>
      exact guarded.of_same rfl rfl rfl fun _ => guarded.free unblocked settled
  | unlockInPlace idle found inPlace =>
      have unlocks := honest _ found
      rw [if_pos inPlace] at unlocks
      exact guarded.of_unlock inPlace unlocks.1 unlocks.2
  | restore _ found elsewhere =>
      have fresh := honest _ found
      rw [if_neg elsewhere] at fresh
      exact Guarded.of_checking rfl rfl (moved_on .draft rfl (by decide)) fresh
  | editFinalised => exact Guarded.of_checking rfl rfl (moved_on .stale rfl (by decide)) honest
  | editUnfinalised => exact Guarded.of_checking rfl rfl (moved_on .draft rfl (by decide)) honest
  | overrideQualityGate draft blocked =>
      refine Guarded.step (fun _ => (Stage.pinned_eq_true.mp blocked).2) ?_ ?_
        (moved_on .draft draft (by decide))
      · exact fun _ => Or.inr ⟨rfl, rfl⟩
      · exact fun _ => Or.inr (Or.inr ⟨rfl, rfl⟩)
  | @generateHarnessPatch baselineVersion baselineContent accumulated =>
      let stage := (record.rewritten checks now (checks.mergeHarnessPatch record.stage.text accumulated)
        record.stage.sourceIdentity .ai .draft).stage
      have patched : Guarded stage (gates.after
          (.generateHarnessPatch baselineVersion baselineContent accumulated) record.stage stage) :=
        Guarded.of_checking rfl rfl (moved_on .draft rfl (by decide)) honest
      exact ⟨patched.pinned, patched.blocked, patched.unchecked, patched.finalised⟩
  | @technologyCheck findings draft =>
      refine Guarded.step (QualityGate.merge_version guarded.pinned) ?_ ?_
        (moved_on .draft draft (by decide))
      · exact fun member => Or.inl (QualityGate.merge_of_blocked (guarded.blocked member))
      · exact fun _ => Or.inr (blocked_or_clears rfl rfl)
  | criticReview =>
      refine Guarded.step (QualityGate.merge_version guarded.pinned) ?_ ?_ ?_
      · exact fun member => Or.inl (QualityGate.merge_of_blocked (guarded.blocked member))
      · intro member
        exact (guarded.unchecked member).imp QualityGate.critic_merge_checking.mpr
          fun held => Or.inl (QualityGate.merge_of_blocked held)
      · intro finalised
        have free := guarded.finalised finalised
        exact ⟨fun held => free.1 (QualityGate.critic_merge_blocked.mp held),
          fun held => free.2 (QualityGate.critic_merge_checking.mp held)⟩
  | recoverChecking checking =>
      refine Guarded.step ?_ ?_ ?_ ?_
      · exact fun _ => guarded.pinned (by simp [checking])
      · intro member
        have blocked := guarded.blocked member
        rw [checking] at blocked
        contradiction
      · exact fun _ => Or.inr (blocked_or_clears rfl rfl)
      · intro finalised
        exact absurd checking (guarded.finalised finalised).2
  | loadIncrement | appendTasksVersion | selectVersions | purgeVersions => contradiction

end

structure Watched where
  workspace : Workspace
  gates : StageType → GateRecord

namespace Watched

variable {checks : Checks} {state : Watched} {event : Event}

def fresh (inputs : WorkspaceInputs) (now : Int) : Watched where
  workspace := .fresh inputs now
  gates _ := {}

def step (checks : Checks) (state : Watched) (event : Event) : Watched :=
  match state.workspace.transact checks event with
  | .error _ => state
  | .ok committed =>
      { workspace := state.workspace.commit event.type committed event.now
        gates := Function.update state.gates event.type ((state.gates event.type).after event.operation
          (state.workspace.record event.type).stage committed.record.stage) }

def Honest (checks : Checks) (state : Watched) (event : Event) : Prop :=
  (state.workspace.transact checks event).isOk = true →
    (state.workspace.record event.type).Honest checks (state.gates event.type) event.operation

instance (state : Watched) (event : Event) : Decidable (Honest checks state event) :=
  inferInstanceAs (Decidable (_ → _))

structure Held (state : Watched) : Prop where
  lineage : ∀ type, (state.workspace.record type).Lineage type
  guarded : ∀ type, Guarded (state.workspace.record type).stage (state.gates type)

theorem fresh_held (inputs : WorkspaceInputs) (now : Int) : (fresh inputs now).Held where
  lineage := (Workspace.fresh_tracked inputs now).lineage
  guarded type := by
    constructor <;> simp [fresh, Workspace.fresh]

theorem Held.step (held : state.Held) (stageOperation : event.operation.OfStage = true)
    (honest : Honest checks state event) : (state.step checks event).Held := by
  unfold Watched.step
  split
  · exact held
  · rename_i committed done
    have commits := Operation.commits done
    refine ⟨?_, ?_⟩
    · intro type
      by_cases own : type = event.type
      · subst own
        rw [Workspace.commit_self]
        exact commits.lineage (held.lineage event.type)
      · exact (held.lineage type).beside (Workspace.commit_beside own)
    · intro type
      by_cases own : type = event.type
      · subst own
        dsimp only
        rw [Workspace.commit_self, Function.update_self]
        refine commits.guarded stageOperation (held.lineage event.type) (held.guarded event.type) ?_
        exact honest (by rw [done]; rfl)
      · dsimp only
        rw [Function.update_of_ne own]
        exact (held.guarded type).beside (Workspace.commit_beside own)

theorem Held.play {events : List Event} (held : state.Held)
    (stageRun : ∀ event ∈ events, event.operation.OfStage = true)
    (honest : Along (Watched.step checks) (Honest checks) state events) :
    (Histories.play (Watched.step checks) state events).Held := by
  induction events generalizing state with
  | nil => exact held
  | cons event rest ih =>
      have next := held.step (stageRun event List.mem_cons_self) honest.1
      exact ih next (fun other member => stageRun other (List.mem_cons_of_mem _ member)) honest.2

theorem Held.finalises {type : StageType} (held : state.Held)
    (before : (state.workspace.record type).stage.status ≠ .finalised)
    (after : ((state.workspace.step checks event).record type).stage.status = .finalised) :
    (state.workspace.record type).stage.pinned .blocked = false ∧
      (state.workspace.record type).stage.pinned .checking = false := by
  rcases Workspace.step_cases checks state.workspace event with refused | ⟨committed, _, commits, stepped⟩
  · rw [refused] at after
    exact absurd after before
  · rw [stepped] at after
    by_cases own : type = event.type
    · subst own
      rw [Workspace.commit_self] at after
      rcases commits.finalised (held.lineage event.type) after with ⟨was, _⟩ | finalises
      · exact absurd was before
      · exact ⟨finalises.unblocked, finalises.settled⟩
    · exact absurd ((Workspace.commit_beside own).finalised after) before

def sampleBlocked : List Event :=
  sampleGeneration .spec 0 1 "spec" ++ [{
    type := .spec, now := 2
    operation := .technologyCheck 1 [{ payload := "known vulnerability", blocking := true }] }]

end Watched

end Thought2Build.Pipeline
