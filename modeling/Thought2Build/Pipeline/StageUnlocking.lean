import Thought2Build.Pipeline.UpstreamDrift

/-!
Locked stages. A stage is unlocked when the one before it is finalised; the user's acknowledgement of a
stale stage finalises it too. The inputs of the workspace may change between the transactions.
-/

namespace Thought2Build.Pipeline

open StageRecord

inductive WorkspaceEvent where
  | transact (event : Event)
  | update (problemStatement targetAgent : Option String)

/-- `_mark_problem_statement_dependents_stale` on one of the stages. -/
def Stage.markProblemStatementStale (stage : Stage) : Stage :=
  if stage.status = .finalised ∧ (stage.type = .spec → stage.text ≠ "") then { stage with status := .stale }
  else stage

namespace Workspace

/-- `update` of the workspace service, with the sanitized texts. -/
def update (workspace : Workspace) (problemStatement targetAgent : Option String) : Workspace where
  inputs := {
    workspace.inputs with
    problemStatement := problemStatement.getD workspace.inputs.problemStatement
    targetAgent := targetAgent.or workspace.inputs.targetAgent }
  record type :=
    let record := workspace.record type
    if problemStatement.isSome then record.withStage record.stage.markProblemStatementStale else record

def apply (checks : Checks) (workspace : Workspace) : WorkspaceEvent → Workspace
  | .transact event => workspace.step checks event
  | .update problemStatement targetAgent => workspace.update problemStatement targetAgent

def NotWedged (workspace : Workspace) : Prop :=
  ∀ type, ∀ next ∈ type.next, (workspace.record type).stage.status = .finalised →
    (workspace.record next).stage.status ≠ .locked

def Acknowledges (checks : Checks) (workspace : Workspace) (type : StageType) : Prop :=
  let stage := (workspace.record type).stage
  stage.status = .stale ∧ workspace.finalisedAll type.dependencies = true ∧
    stage.pinned .blocked = false ∧ stage.pinned .checking = false ∧
      stage.readinessGate checks (workspace.snapshot type) = none

instance (checks : Checks) (workspace : Workspace) (type : StageType) :
    Decidable (workspace.Acknowledges checks type) :=
  inferInstanceAs (Decidable (_ ∧ _ ∧ _ ∧ _ ∧ _))

def Unlocked (checks : Checks) (workspace : Workspace) : WorkspaceEvent → Prop
  | .transact event => event.operation = .acknowledgeStale → workspace.Acknowledges checks event.type →
      ∀ next ∈ event.type.next, (workspace.record next).stage.status ≠ .locked
  | .update _ _ => True

instance (checks : Checks) (workspace : Workspace) : DecidablePred (workspace.Unlocked checks)
  | .transact _ => inferInstanceAs (Decidable (_ → _ → ∀ next ∈ StageType.next _, _))
  | .update _ _ => isTrue trivial

end Workspace

structure StageRecord.Opens (record : StageRecord) : Prop where
  pristine : record.stage.status = .locked → record.stage.content = none ∧ record.increments = []
  previous : ∀ run ∈ record.runs, run.previousStatus = .draft ∨ run.previousStatus = .stale

section

variable {checks : Checks} {around : Surroundings} {now : Int} {record : StageRecord}
  {operation : Operation} {committed : Committed}

theorem Commits.follows (commits : Commits checks around now record operation committed) :
    Follows record committed.record ∨ ∃ run, committed.record.runs = record.runs ++ [run] ∧
      (run.previousStatus = .draft ∨ run.previousStatus = .stale) := by
  cases commits with
  | generate found editable => exact Or.inr ⟨_, rfl, editable⟩
  | preparePrompt | succeed | replay | persistQualityGateBlocked | interruptEmpty | interruptSaved =>
      exact Or.inl (follows_withRun rfl fun _ => rfl)
  | checkpointChunk =>
      refine Or.inl (follows_withRun rfl ?_)
      intro run
      simp only [GenerationRun.bank]
      split <;> split <;> rfl
  | heartbeat | requestCancel =>
      refine Or.inl (follows_withRun rfl ?_)
      intro run
      split <;> rfl
  | _ => exact Or.inl (follows_of_same rfl)

theorem StageRecord.Opens.previous_ne (opens : record.Opens) {id : Nat} {run : GenerationRun}
    (found : record.runs[id]? = some run) :
    run.previousStatus ≠ .locked ∧ run.previousStatus ≠ .finalised := by
  rcases opens.previous run (List.mem_of_getElem? found) with draft | stale
  · simp [draft]
  · simp [stale]

theorem Commits.locked (commits : Commits checks around now record operation committed)
    (opens : record.Opens) (locked : committed.record.stage.status = .locked) :
    record.stage.status = .locked ∧ committed.record.stage.content = record.stage.content ∧
      (operation ≠ .loadIncrement → committed.record.increments = record.increments) := by
  cases commits with
  | interruptEmpty found => exact absurd locked (opens.previous_ne found).1
  | generate => exact moved_on .inProgress rfl (by decide) locked
  | finalise | acknowledge => exact moved_on .finalised rfl (by decide) locked
  | finaliseDrifted | editFinalised => exact moved_on .stale rfl (by decide) locked
  | succeed | replay | persistQualityGateBlocked | interruptSaved | recoverLegacyStage | unlockInPlace
    | restore | editUnfinalised | generateHarnessPatch =>
      exact moved_on .draft rfl (by decide) locked
  | appendTasksVersion member =>
      have pristine := (opens.pristine locked).2
      rw [pristine] at member
      contradiction
  | loadIncrement => exact ⟨locked, rfl, fun other => absurd rfl other⟩
  | _ => exact ⟨locked, rfl, fun _ => rfl⟩

theorem Commits.finalises (commits : Commits checks around now record operation committed)
    (opens : record.Opens) (finalised : committed.record.stage.status = .finalised) :
    record.stage.status = .finalised ∨ committed.spread = .unlockNext ∨
      (operation = .acknowledgeStale ∧ record.stage.status = .stale ∧ around.dependenciesFinalised = true ∧
        record.stage.pinned .blocked = false ∧ record.stage.pinned .checking = false ∧
          record.stage.readinessGate checks around.snapshot = none) := by
  cases commits with
  | finalise => exact Or.inr (Or.inl rfl)
  | acknowledge stale unblocked settled dependencies ready =>
      exact Or.inr (Or.inr ⟨rfl, stale, dependencies, unblocked, settled, ready⟩)
  | interruptEmpty found => exact absurd finalised (opens.previous_ne found).2
  | generate => exact moved_on .inProgress rfl (by decide) finalised
  | finaliseDrifted | editFinalised => exact moved_on .stale rfl (by decide) finalised
  | succeed | replay | persistQualityGateBlocked | interruptSaved | recoverLegacyStage | unlockInPlace
    | restore | editUnfinalised | generateHarnessPatch =>
      exact moved_on .draft rfl (by decide) finalised
  | _ => exact Or.inl finalised

theorem StageRecord.Opens.commits (opens : record.Opens)
    (commits : Commits checks around now record operation committed)
    (loads : operation = .loadIncrement → record.stage.status = .finalised) : committed.record.Opens where
  pristine := by
    intro locked
    obtain ⟨was, content, increments⟩ := commits.locked opens locked
    obtain ⟨empty, none⟩ := opens.pristine was
    refine ⟨content.trans empty, ?_⟩
    have other : operation ≠ .loadIncrement := by
      intro load
      rw [loads load] at was
      contradiction
    exact (increments other).trans none
  previous := by
    intro run member
    rcases commits.follows with follows | ⟨started, runs, editable⟩
    · obtain ⟨former, old, same⟩ := follows run member
      rw [same]
      exact opens.previous former old
    · rw [runs] at member
      rcases List.mem_append.mp member with old | new
      · exact opens.previous run old
      · rw [List.mem_singleton.mp new]
        exact editable

theorem Beside.not_locked {after : StageRecord} (beside : Beside record after)
    (open_ : record.stage.status ≠ .locked) : after.stage.status ≠ .locked := by
  rcases beside.status with same | ⟨stale, _⟩ | ⟨draft, _⟩
  · rw [same]
    exact open_
  · simp [stale]
  · simp [draft]

theorem StageRecord.Opens.beside {after : StageRecord} (opens : record.Opens) (beside : Beside record after) :
    after.Opens where
  pristine := by
    intro locked
    have was : record.stage.status = .locked := by
      by_contra open_
      exact beside.not_locked open_ locked
    rw [beside.content, beside.increments]
    exact opens.pristine was
  previous := by
    rw [beside.runs]
    exact opens.previous

end

namespace Workspace

variable {checks : Checks} {workspace : Workspace} {event : Event} {problemStatement targetAgent : Option String}
  {type : StageType}

theorem finalised_of_load (done : (workspace.transact checks event).isOk = true)
    (load : event.operation = .loadIncrement) : (workspace.record event.type).stage.status = .finalised := by
  rw [transact, load] at done
  simp only [Operation.commit, StageRecord.loadIncrement] at done
  by_cases all : (workspace.record event.type).stage.type = .tasks ∧
      (workspace.surroundings event.type).allFinalised = true
  · have every : ∀ type ∈ stageOrder, (workspace.record type).stage.status = .finalised := by
      simpa [surroundings, finalisedAll] using all.2
    exact every event.type (by cases event.type <;> decide)
  · simp [require, all, bind, Except.bind, Except.isOk, Except.toBool] at done

def Openable (workspace : Workspace) : Prop := ∀ type, (workspace.record type).Opens

theorem Openable.step (opens : workspace.Openable) : (workspace.step checks event).Openable := by
  rcases step_cases checks workspace event with refused | ⟨committed, done, commits, stepped⟩
  · rw [refused]
    exact opens
  · intro type
    rw [stepped]
    by_cases own : type = event.type
    · subst own
      rw [commit_self]
      exact (opens event.type).commits commits (finalised_of_load done)
    · exact (opens type).beside (commit_beside own)

theorem update_stage (workspace : Workspace) (problemStatement targetAgent : Option String) (type : StageType) :
    ∃ status, (workspace.update problemStatement targetAgent).record type =
        (workspace.record type).withStage { (workspace.record type).stage with status } ∧
      (status = (workspace.record type).stage.status ∨
        (status = .stale ∧ (workspace.record type).stage.status = .finalised)) := by
  simp only [update, Stage.markProblemStatementStale]
  split
  · split
    · rename_i marked
      exact ⟨.stale, rfl, Or.inr ⟨rfl, marked.1⟩⟩
    · exact ⟨_, rfl, Or.inl rfl⟩
  · exact ⟨_, rfl, Or.inl rfl⟩

theorem Openable.locked (opens : workspace.Openable) (event : WorkspaceEvent)
    (locked : ((workspace.apply checks event).record type).stage.status = .locked) :
    (workspace.record type).stage.status = .locked := by
  cases event with
  | update problemStatement targetAgent =>
      obtain ⟨status, same, moved⟩ := update_stage workspace problemStatement targetAgent type
      simp only [apply, same, StageRecord.withStage_stage] at locked
      rcases moved with rfl | ⟨rfl, _⟩
      · exact locked
      · contradiction
  | transact event =>
      simp only [apply] at locked
      rcases step_cases checks workspace event with refused | ⟨committed, _, commits, stepped⟩
      · rw [refused] at locked
        exact locked
      · rw [stepped] at locked
        by_cases own : type = event.type
        · subst own
          rw [commit_self] at locked
          exact (commits.locked (opens event.type) locked).1
        · by_contra open_
          exact (commit_beside own).not_locked open_ locked

theorem Openable.apply (opens : workspace.Openable) (event : WorkspaceEvent) :
    (workspace.apply checks event).Openable := by
  cases event with
  | transact event => exact opens.step
  | update problemStatement targetAgent =>
      intro type
      obtain ⟨status, same, moved⟩ := update_stage workspace problemStatement targetAgent type
      simp only [Workspace.apply, same]
      refine ⟨?_, (opens type).previous⟩
      intro locked
      rcases moved with rfl | ⟨rfl, _⟩
      · exact (opens type).pristine locked
      · contradiction

theorem next_ne (type : StageType) : type.next ≠ some type := by
  cases type <;> decide

theorem NotWedged.apply (free : workspace.NotWedged) (opens : workspace.Openable) {event : WorkspaceEvent}
    (unlocked : workspace.Unlocked checks event) : (workspace.apply checks event).NotWedged := by
  intro type next after finalised locked
  have before := opens.locked event locked
  cases event with
  | update problemStatement targetAgent =>
      obtain ⟨status, same, moved⟩ := update_stage workspace problemStatement targetAgent type
      simp only [Workspace.apply, same, StageRecord.withStage_stage] at finalised
      rcases moved with rfl | ⟨rfl, _⟩
      · exact free type next after finalised before
      · contradiction
  | transact event =>
      simp only [Workspace.apply] at finalised locked
      rcases step_cases checks workspace event with refused | ⟨committed, _, commits, stepped⟩
      · rw [refused] at finalised
        exact free type next after finalised before
      · rw [stepped] at finalised locked
        by_cases own : type = event.type
        · subst own
          rw [commit_self] at finalised
          rcases commits.finalises (opens event.type) finalised with
            was | unlocks | ⟨acknowledges, stale, dependencies, unblocked, settled, ready⟩
          · exact free event.type next after was before
          · have elsewhere : next ≠ event.type := by
              rintro rfl
              exact next_ne event.type after
            simp only [commit, if_neg elsewhere, unlocks, if_pos (Option.mem_def.mp after),
              StageRecord.withStage_stage, Stage.unlock, if_pos before] at locked
            contradiction
          · exact unlocked acknowledges ⟨stale, dependencies, unblocked, settled, ready⟩ next after before
        · exact free type next after ((commit_beside own).finalised finalised) before

theorem unlocked_of_notWedged {event : WorkspaceEvent} (after : (workspace.apply checks event).NotWedged) :
    workspace.Unlocked checks event := by
  cases event with
  | update => trivial
  | transact event =>
      rintro acknowledges ⟨stale, dependencies, unblocked, settled, ready⟩ next follows locked
      have done : workspace.transact checks event = .ok {
          record := (workspace.record event.type).withStage {
            (workspace.record event.type).stage.moveTo .finalised event.now with
            sourceIdentity := some ((workspace.snapshot event.type).identity checks) } } := by
        rw [transact, acknowledges]
        simp [Operation.commit, StageRecord.acknowledgeStale, require, stale, unblocked, settled, ready,
          surroundings, dependencies, bind, Except.bind, pure, Except.pure]
      simp only [Workspace.apply, step_of_ok done] at after
      have elsewhere : next ≠ event.type := by
        rintro rfl
        exact next_ne event.type follows
      refine after event.type next follows ?_ ?_
      · rw [commit_self]
        rfl
      · simp only [commit, if_neg elsewhere]
        exact locked

open Histories

theorem fresh_openable (inputs : WorkspaceInputs) (now : Int) : (fresh inputs now).Openable := by
  intro type
  constructor <;> simp [fresh]

theorem fresh_notWedged (inputs : WorkspaceInputs) (now : Int) : (fresh inputs now).NotWedged := by
  intro type next after finalised
  simp only [fresh] at finalised
  split at finalised <;> contradiction

theorem Openable.play_locked (opens : workspace.Openable) {events : List WorkspaceEvent}
    (locked : ((play (Workspace.apply checks) workspace events).record type).stage.status = .locked) :
    (workspace.record type).stage.status = .locked := by
  induction events generalizing workspace with
  | nil => exact locked
  | cons event rest ih => exact opens.locked event (ih (opens.apply event) locked)

theorem Openable.play_notWedged (opens : workspace.Openable) (free : workspace.NotWedged)
    {events : List WorkspaceEvent} (unlocked : Along (Workspace.apply checks) (Unlocked checks) workspace events) :
    (play (Workspace.apply checks) workspace events).NotWedged ∧
      (play (Workspace.apply checks) workspace events).Openable := by
  induction events generalizing workspace with
  | nil => exact ⟨free, opens⟩
  | cons event rest ih => exact ih (opens.apply event) (free.apply opens unlocked.1) unlocked.2

/-- No stage waits locked behind a finalised one, in any state of a run, exactly when every acknowledgement
of the run has the next stage unlocked. A locked stage has never had content. -/
theorem never_wedges_iff (checks : Checks) (inputs : WorkspaceInputs) (now : Int)
    (events : List WorkspaceEvent) :
    (∀ front back, events = front ++ back →
      (play (apply checks) (fresh inputs now) front).NotWedged ∧
        ∀ type, ((play (apply checks) (fresh inputs now) front).record type).stage.status = .locked →
          ∀ former later, front = former ++ later →
            ((play (apply checks) (fresh inputs now) former).record type).stage.content = none) ↔
      Along (apply checks) (Unlocked checks) (fresh inputs now) events := by
  constructor
  · intro holds
    rw [along_iff]
    rintro front event back rfl
    have after := (holds (front ++ [event]) back (by simp)).1
    rw [play_append] at after
    exact unlocked_of_notWedged after
  · rintro unlocked front back rfl
    have kept : (play (apply checks) (fresh inputs now) front).NotWedged ∧
        (play (apply checks) (fresh inputs now) front).Openable :=
      (fresh_openable inputs now).play_notWedged (fresh_notWedged inputs now) (along_append.mp unlocked).1
    refine ⟨kept.1, ?_⟩
    rintro type locked former later rfl
    rw [play_append] at locked
    have before := (along_append.mp (along_append.mp unlocked).1).1
    have opens := ((fresh_openable inputs now).play_notWedged (fresh_notWedged inputs now) before).2
    exact ((opens type).pristine (opens.play_locked locked)).1

theorem acknowledged_draft_wedges_next :
    ¬(play (apply sampleChecks) (fresh {} 0) (List.map .transact (sampleFinalised .spec 0 1 "spec" 1 ++
      sampleGeneration .plan 0 2 "plan" ++
      [ { type := .plan, now := 2, operation := .technologyCheck 1 [] }
      , { type := .spec, now := 3, operation := .handleContentEdit "other" none }
      , { type := .spec, now := 4, operation := .recoverChecking 4 }
      , { type := .spec, now := 5, operation := .acknowledgeStale }
      , { type := .plan, now := 6, operation := .acknowledgeStale } ]))).NotWedged := by
  intro free
  have open_ := free .plan .harness (by decide) (by decide +kernel)
  revert open_
  decide +kernel

end Workspace

end Thought2Build.Pipeline
