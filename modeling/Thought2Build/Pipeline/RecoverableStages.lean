import Thought2Build.Pipeline.RecoverySweepCore
import Thought2Build.Pipeline.RunProgress
import Thought2Build.Pipeline.StageUnlocking

/-!
Stages whose rows the recovery sweep may settle, as every workspace leaves them, and what the
settlements of the sweep make of such a stage.
-/

namespace Thought2Build.Pipeline

open Histories StageRecord

section

variable {checks : Checks} {around : Surroundings} {now : Int} {record : StageRecord} {operation : Operation}
  {committed : Committed} {gate : QualityGate}

def QualityGate.Started (gate : QualityGate) : Prop :=
  gate.status = .checking → ((gate.payload.getD {}).checkingStartedAt).isSome = true

theorem QualityGate.Started.of_decided (decided : gate.status ≠ .checking) : gate.Started :=
  fun checking => absurd checking decided

theorem QualityGate.Started.merge {findings : List Finding} {version : Nat} {finished blocked : Bool}
    (started : gate.Started) : (gate.merge findings version finished blocked).Started := by
  unfold QualityGate.merge
  dsimp only
  split
  · exact fun checking => started checking
  · split
    · exact .of_decided (by simp)
    · split
      · rename_i pending
        intro _
        have since := started pending.1
        cases payload : gate.payload with
        | none => simp [payload] at since
        | some held => simpa [payload] using since
      · split
        · exact .of_decided (by simp [advisory])
        · exact .of_decided (by simp [cleared])

theorem Stage.checkingGate_started {stage : Stage} {existing : List Finding} :
    (stage.checkingGate checks existing now).Started := by
  unfold checkingGate
  dsimp only
  split
  · exact QualityGate.Started.merge fun _ => rfl
  · exact fun _ => rfl

theorem Stage.readinessGate_started {stage : Stage} {snapshot : InputSnapshot}
    (started : stage.gate.Started) (unready : stage.readinessGate checks snapshot = some gate) : gate.Started := by
  unfold readinessGate at unready
  split at unready
  · contradiction
  · split at unready
    · cases unready
      exact .of_decided (by simp)
    · dsimp only at unready
      split at unready
      · cases unready
        exact started.merge
      · contradiction

theorem recoveredGate_status (stage : Stage) : (recoveredGate checks stage).status ≠ .checking := by
  simp only [recoveredGate]
  split <;> simp

theorem Commits.started (commits : Commits checks around now record operation committed)
    (started : record.stage.gate.Started) : committed.record.stage.gate.Started := by
  cases commits with
  | succeed | replay | restore | editFinalised | editUnfinalised | generateHarnessPatch =>
      exact Stage.checkingGate_started
  | persistQualityGateBlocked | interruptSaved | overrideQualityGate => exact fun checking => by cases checking
  | finaliseBlocked _ _ _ unready => exact Stage.readinessGate_started started unready
  | acknowledgeBlocked _ _ _ unready => exact Stage.readinessGate_started started unready
  | unlockInPlace =>
      rename_i version _ _ _
      show (record.unlockInPlace now version).stage.gate.Started
      simp only [StageRecord.unlockInPlace, withStage_stage, Stage.withGate_gate]
      split
      · exact started
      · exact .of_decided (by simp [QualityGate.cleared])
  | technologyCheck | criticReview => exact started.merge
  | recoverChecking => exact .of_decided (recoveredGate_status record.stage)
  | _ => exact started

structure StageRecord.Recoverable (record : StageRecord) : Prop where
  alone : ∀ {first second : Nat} {run other : GenerationRun}, record.runs[first]? = some run →
    record.runs[second]? = some other → run.status = .running → other.status = .running → first = second
  previous : ∀ run ∈ record.runs, run.previousStatus ≠ .inProgress
  since : record.stage.gate.Started

theorem Commits.recoverable (commits : Commits checks around now record operation committed)
    (recoverable : record.Recoverable) : committed.record.Recoverable where
  alone := by
    intro first second run other found held running still
    have busy : ∀ {id : Nat} {former next : GenerationRun}, record.runs[id]? = some former →
        former.Progress operation next → next.status = .running → record.Active :=
      fun was progress late => ⟨_, List.mem_of_getElem? was, progress.running late⟩
    rcases commits.moves.backward found with ⟨former, was, progress⟩ | ⟨end_, idle, _⟩
    · rcases commits.moves.backward held with ⟨former', was', progress'⟩ | ⟨_, idle, _⟩
      · exact recoverable.alone was was' (progress.running running) (progress'.running still)
      · exact absurd (busy was progress running) idle
    · rcases commits.moves.backward held with ⟨former', was', progress'⟩ | ⟨end_', _, _⟩
      · exact absurd (busy was' progress' still) idle
      · rw [end_, end_']
  previous := by
    intro run member
    rcases commits.follows with follows | ⟨started, runs, editable⟩
    · obtain ⟨former, old, same⟩ := follows run member
      rw [same]
      exact recoverable.previous former old
    · rw [runs] at member
      rcases List.mem_append.mp member with old | new
      · exact recoverable.previous run old
      · rw [List.mem_singleton.mp new]
        rcases editable with draft | stale
        · simp [draft]
        · simp [stale]
  since := commits.started recoverable.since

theorem StageRecord.Recoverable.beside {after : StageRecord} (recoverable : record.Recoverable)
    (beside : Beside record after) : after.Recoverable where
  alone := by
    rw [beside.runs]
    exact recoverable.alone
  previous := by
    rw [beside.runs]
    exact recoverable.previous
  since := by
    rw [beside.gate]
    exact recoverable.since

end

namespace Workspace

variable {checks : Checks} {workspace : Workspace}

def Recoverable (workspace : Workspace) : Prop := ∀ type, (workspace.record type).Recoverable

theorem Recoverable.step {event : Event} (recoverable : workspace.Recoverable) :
    (workspace.step checks event).Recoverable := by
  rcases step_cases checks workspace event with refused | ⟨committed, _, commits, stepped⟩
  · rw [refused]
    exact recoverable
  · intro type
    rw [stepped]
    by_cases own : type = event.type
    · subst own
      rw [commit_self]
      exact commits.recoverable (recoverable event.type)
    · exact (recoverable type).beside (commit_beside own)

theorem Recoverable.apply (recoverable : workspace.Recoverable) (event : WorkspaceEvent) :
    (workspace.apply checks event).Recoverable := by
  cases event with
  | transact event => exact recoverable.step
  | update problemStatement targetAgent =>
      intro type
      obtain ⟨status, same, _⟩ := update_stage workspace problemStatement targetAgent type
      rw [Workspace.apply, same]
      exact ⟨(recoverable type).alone, (recoverable type).previous, (recoverable type).since⟩

theorem fresh_recoverable (inputs : WorkspaceInputs) (now : Int) : (fresh inputs now).Recoverable := by
  intro type
  exact ⟨fun found => by simp [fresh] at found, by simp [fresh], .of_decided (by simp [fresh])⟩

theorem reached_recoverable (checks : Checks) (inputs : WorkspaceInputs) (now : Int)
    (events : List WorkspaceEvent) : (play (apply checks) (fresh inputs now) events).Recoverable :=
  invariant (fun _ event recoverable => recoverable.apply event) (fresh_recoverable inputs now) events

end Workspace

section

variable {checks : Checks} {now : Int} {record : StageRecord} {committed : Committed}

structure Settled (record next : StageRecord) : Prop where
  recoverable : next.Recoverable
  runs : ∀ {id : Nat} {run : GenerationRun}, next.runs[id]? = some run → run.status = .running →
    record.runs[id]? = some run
  abandoned : Recovery.Abandoned next = true → Recovery.Abandoned record = true
  gate : next.stage.gate.status = .checking → next.stage.gate = record.stage.gate

theorem Settled.refl (recoverable : record.Recoverable) : Settled record record where
  recoverable := recoverable
  runs found _ := found
  abandoned := id
  gate _ := rfl

theorem Settled.of_gate {stage : Stage} (recoverable : record.Recoverable)
    (status : stage.status = record.stage.status) (decided : stage.gate.status ≠ .checking) :
    Settled record (record.withStage stage) where
  recoverable := ⟨recoverable.alone, recoverable.previous, fun checking => absurd checking decided⟩
  runs found _ := found
  abandoned := by simp [Recovery.Abandoned, StageRecord.Active, status]
  gate checking := absurd checking decided

theorem settled_recoverLegacyStage (recoverable : record.Recoverable)
    (done : record.recoverLegacyStage now = .ok committed) :
    Settled record committed.record ∧ committed.record.runs = record.runs ∧
      committed.record.stage.gate = record.stage.gate ∧ committed.record.stage.status = .draft := by
  simp only [recoverLegacyStage, bind_eq_ok, require_eq_ok, pure_eq_ok] at done
  obtain ⟨_, _, _, _, rfl⟩ := done
  refine ⟨⟨⟨recoverable.alone, recoverable.previous, recoverable.since⟩, ?_, ?_, ?_⟩, rfl, rfl, rfl⟩
  · intro id run found _
    exact found
  · simp [Recovery.Abandoned]
  · intro _
    rfl

theorem settled_recoverChecking {cutoff : Int} (recoverable : record.Recoverable)
    (done : record.recoverChecking checks now cutoff = .ok committed) :
    Settled record committed.record ∧ committed.record.runs = record.runs ∧
      committed.record.stage.status = record.stage.status ∧
        committed.record.stage.gate.status ≠ .checking := by
  simp only [recoverChecking, bind_eq_ok, require_eq_ok, pure_eq_ok] at done
  obtain ⟨_, _, _, _, rfl⟩ := done
  have decided : (recoveredGate checks record.stage).status ≠ .checking := recoveredGate_status record.stage
  exact ⟨.of_gate recoverable rfl decided, rfl, rfl, decided⟩

theorem settled_withRun {id : Nat} {run : GenerationRun} {update : GenerationRun → GenerationRun}
    {written : StageRecord} (recoverable : record.Recoverable) (found : record.runs[id]? = some run)
    (running : run.status = .running) (runs : written.runs = record.runs)
    (ends : (update run).status ≠ .running) (previous : (update run).previousStatus = run.previousStatus)
    (status : written.stage.status ≠ .inProgress)
    (gate : written.stage.gate = record.stage.gate ∨ written.stage.gate.status ≠ .checking) :
    Settled record (written.withRun id update) ∧ ¬(written.withRun id update).Active := by
  have after : ∀ other, (written.withRun id update).runs[other]? =
      if other = id then some (update run) else written.runs[other]? :=
    getElem?_withRun update (runs ▸ found)
  have stopped : ∀ {other : Nat} {next : GenerationRun},
      (written.withRun id update).runs[other]? = some next → next.status ≠ .running := by
    intro other next held still
    rw [after] at held
    split at held
    · obtain rfl := Option.some.inj held
      exact ends still
    · rename_i different
      exact different (recoverable.alone (runs ▸ held) found still running)
  refine ⟨⟨⟨?_, ?_, ?_⟩, ?_, ?_, ?_⟩, ?_⟩
  · intro first _ one _ held _ still _
    exact absurd still (stopped held)
  · intro next member
    rcases mem_withRun member with old | ⟨former, held, rfl⟩
    · exact recoverable.previous next (runs ▸ old)
    · obtain rfl : former = run := Option.some.inj (held.symm.trans (runs ▸ found))
      rw [previous]
      exact recoverable.previous former (List.mem_of_getElem? found)
  · intro checking
    rcases gate with same | decided
    · rw [withRun_stage, same] at checking ⊢
      exact recoverable.since checking
    · exact absurd checking decided
  · intro other next held still
    exact absurd still (stopped held)
  · simp [Recovery.Abandoned, status]
  · intro checking
    exact gate.resolve_right (not_not.mpr checking)
  · rintro ⟨next, member, still⟩
    obtain ⟨other, held⟩ := List.mem_iff_getElem?.mp member
    exact stopped held still

theorem settled_interrupted {id : Nat} {run : GenerationRun} {interruption : Interruption}
    (recoverable : record.Recoverable) (found : record.runs[id]? = some run) (running : run.status = .running)
    (done : record.terminalizeInterruptedRun checks now id interruption = .ok committed) :
    Settled record committed.record ∧ ¬committed.record.Active ∧
      committed.record.stage.status ≠ .inProgress ∧
        (¬interruption.Saves run → committed.record.stage.gate = record.stage.gate) ∧
          (interruption.Saves run → committed.record.stage.gate.status = .blocked) := by
  have around : Surroundings := ⟨⟨{}, []⟩, true, true⟩
  have commits : Commits checks around now record (.terminalizeInterruptedRun id interruption) committed :=
    .of_terminalize done
  cases commits with
  | settledBefore held stopped =>
      obtain rfl := Option.some.inj (held.symm.trans found)
      exact absurd running stopped
  | interruptEmpty held _ empty =>
      obtain rfl := Option.some.inj (held.symm.trans found)
      have saves : ¬interruption.Saves _ := fun saves => (Interruption.combined_ne_empty.mpr saves) empty
      have before := recoverable.previous _ (List.mem_of_getElem? found)
      obtain ⟨settled, idle⟩ : Settled record (record.settledEmpty now id _ interruption) ∧
          ¬(record.settledEmpty now id _ interruption).Active :=
        settled_withRun recoverable found running rfl (fun still => by cases still) rfl before (Or.inl rfl)
      exact ⟨settled, idle, before, fun _ => rfl, fun saved => absurd saved saves⟩
  | interruptSaved held _ saved =>
      obtain rfl := Option.some.inj (held.symm.trans found)
      have saves := Interruption.combined_ne_empty.mp saved
      obtain ⟨settled, idle⟩ : Settled record (record.settledSaved checks now id _ interruption) ∧
          ¬(record.settledSaved checks now id _ interruption).Active :=
        settled_withRun recoverable found running rfl (fun still => by cases still) rfl
          (fun still => by cases still) (Or.inr fun still => by cases still)
      exact ⟨settled, idle, (fun still => by cases still), fun none => absurd saves none, fun _ => rfl⟩

theorem settled_terminalize {id : Nat} {interruption : Interruption} (recoverable : record.Recoverable)
    (done : record.terminalizeInterruptedRun checks now id interruption = .ok committed) :
    Settled record committed.record := by
  cases found : record.runs[id]? with
  | none => simp [terminalizeInterruptedRun, found] at done
  | some run =>
      by_cases running : run.status = .running
      · exact (settled_interrupted recoverable found running done).1
      · obtain rfl : { record } = committed := by
          simpa [terminalizeInterruptedRun, found, running] using done
        exact .refl recoverable

end

end Thought2Build.Pipeline
