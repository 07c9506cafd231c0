import Thought2Build.Pipeline.RunProgress

/-!
Chains of runs: a charged generation and the free runs that resume it. Whoever has paid gets the
artifact, a free way to complete it, or the charge back.
-/

namespace Thought2Build.Pipeline

open StageRecord GenerationRun

namespace GenerationRun

def Delivered (run : GenerationRun) : Prop :=
  run.status = .ended .succeeded ∨
    (run.status = .ended .blocked ∧ run.resultVersion.isSome = true ∧ run.partialSaved = false)

instance (run : GenerationRun) : Decidable run.Delivered := inferInstanceAs (Decidable (_ ∨ _))

theorem Progress.delivered {operation : Operation} {run next : GenerationRun}
    (progress : run.Progress operation next)
    (delivered : run.Delivered) : next.Delivered := by
  have ended : run.status ≠ .running := by
    rcases delivered with succeeded | ⟨blocked, _⟩
    · simp [succeeded]
    · simp [blocked]
  have same := (progress.ended ended).1
  rw [← same] at delivered
  exact delivered

end GenerationRun

def Operation.continues : Operation → Bool
  | generate request => request.action = .resume
  | rollback _ | handleContentEdit _ _ | generateHarnessPatch _ _ _ | appendTasksVersion _ _ => false
  | _ => true

section

variable {checks : Checks} {around : Surroundings} {now : Int} {record : StageRecord}
  {operation : Operation} {committed : Committed}

namespace StageRecord

def Resumable (record : StageRecord) : Prop :=
  record.stage.gate.offer.isSome = true ∧ record.stage.gate.version = some record.stage.currentVersion ∧
    record.stage.gate.Holds

def Completable (record : StageRecord) : Operation → Prop
  | .terminalizeInterruptedRun id interruption => ∀ run ∈ record.runs[id]?, run.status = .running →
      run.action = .resume → interruption.Saves run →
        run.bankedKeys ≠ [] ∧ ∃ key ∈ run.plannedKeys, key ∉ run.bankedKeys
  | _ => True

instance (record : StageRecord) : DecidablePred record.Completable
  | .terminalizeInterruptedRun id interruption => inferInstanceAs (Decidable
      (∀ run ∈ record.runs[id]?, run.status = .running → run.action = .resume → interruption.Saves run →
        run.bankedKeys ≠ [] ∧ ∃ key ∈ run.plannedKeys, key ∉ run.bankedKeys))
  | .generate _ | .preparePrompt _ _ | .checkpointChunk _ _ | .heartbeat _ | .requestCancel _
  | .succeed _ _ _ | .replay _ _ _ | .persistQualityGateBlocked _ _ _ | .recoverLegacyStage | .finalise
  | .acknowledgeStale | .rollback _ | .handleContentEdit _ _ | .overrideQualityGate
  | .generateHarnessPatch _ _ _ | .technologyCheck _ _ | .criticReview _ _ | .recoverChecking _
  | .loadIncrement | .appendTasksVersion _ _ | .selectVersions _ _ _ | .purgeVersions _ => isTrue trivial

inductive Covered (record : StageRecord) (id deduction : Nat) : Prop where
  | delivered {position : Nat} {run : GenerationRun} (later : id ≤ position)
      (found : record.runs[position]? = some run) (delivered : run.Delivered)
  | refunded (member : deduction ∈ record.refunds)
  | resumable (resumable : record.Resumable)
  | running {run : GenerationRun} (found : record.runs[id]? = some run) (running : run.status = .running)

structure Chain (record : StageRecord) (id deduction : Nat) : Prop where
  opener : ∃ run, record.runs[id]? = some run ∧ run.deduction = some deduction
  latest : ∀ (position : Nat) (run : GenerationRun), record.runs[position]? = some run →
    run.status = .running → id ≤ position
  later : ∀ (position : Nat) (run : GenerationRun), id < position → record.runs[position]? = some run →
    run.action = .resume
  covered : record.Covered id deduction

variable {after : StageRecord} {id deduction : Nat}

theorem mem_refund_of_mem {due : Option Nat} (member : deduction ∈ record.refunds) :
    deduction ∈ (record.refund due).refunds := by
  cases due with
  | none => exact member
  | some given =>
      simp only [refund_refunds, Option.elim_some]
      split
      · exact member
      · exact List.mem_append_left _ member

theorem mem_refund_self : deduction ∈ (record.refund (some deduction)).refunds := by
  simp only [refund_refunds, Option.elim_some]
  split
  · assumption
  · exact List.mem_append_right _ (List.mem_singleton.mpr rfl)

theorem Resumable.merge (resumable : record.Resumable) (findings : List Finding) (finished blocked : Bool) :
    (record.withStage ((record.stage.touch now).withGate
      (record.stage.gate.merge findings record.stage.currentVersion finished blocked))).Resumable := by
  obtain ⟨offered, pinned, holds⟩ := resumable
  rw [QualityGate.merge_of_holds holds]
  refine ⟨?_, pinned, holds⟩
  exact (congrArg Option.isSome (QualityGate.offer_withFindings record.stage.gate _)).trans offered

theorem Resumable.seed (resumable : record.Resumable) (seeded : record.Seeded) :
    record.loadResumeSeed.isSome = true := by
  obtain ⟨offered, pinned, _⟩ := resumable
  obtain ⟨source, offered⟩ := Option.isSome_iff_exists.mp offered
  obtain ⟨run, found, _, _, chunks⟩ := seeded.offers source offered
  obtain ⟨chunk, member⟩ := List.exists_mem_of_ne_nil _ chunks
  have text := seeded.texts source run found chunk member
  refine Option.isSome_iff_exists.mpr ⟨(source, _),
    loadResumeSeed_eq_some.mpr ⟨pinned, offered, run, found, ?_, rfl⟩⟩
  intro empty
  rw [List.map_eq_nil_iff, List.filter_eq_nil_iff] at empty
  exact empty chunk member (by simpa using text)

end StageRecord

variable {id deduction : Nat}

theorem Commits.refunds_mono (commits : Commits checks around now record operation committed)
    (member : deduction ∈ record.refunds) : deduction ∈ committed.record.refunds := by
  cases commits with
  | interruptEmpty | interruptSaved | recoverLegacyStage => exact mem_refund_of_mem member
  | _ => exact member

theorem Commits.resumable (commits : Commits checks around now record operation committed)
    (continues : operation.continues = true) (quiet : operation.settles = false)
    (resumable : record.Resumable) : committed.record.Resumable := by
  have ⟨offered, pinned, holds⟩ := resumable
  cases commits with
  | finaliseBlocked _ unblocked _ unready | acknowledgeBlocked _ unblocked _ unready =>
      rcases holds with blocked | overridden
      · exact absurd (Stage.pinned_eq_true.mpr ⟨blocked, pinned⟩) (by simp [unblocked])
      · have passed : record.stage.pinned .overridden = true := Stage.pinned_eq_true.mpr ⟨overridden, pinned⟩
        rw [Stage.readinessGate, if_pos passed] at unready
        contradiction
  | technologyCheck | criticReview => exact resumable.merge _ _ _
  | overrideQualityGate => exact ⟨offered, pinned, Or.inr rfl⟩
  | recoverChecking checking =>
      rcases holds with blocked | overridden
      · rw [blocked] at checking
        contradiction
      · rw [overridden] at checking
        contradiction
  | unlockInPlace | restore | editFinalised | editUnfinalised | generateHarnessPatch | appendTasksVersion =>
      exact Bool.noConfusion continues
  | succeed | replay | persistQualityGateBlocked | settledBefore | interruptEmpty | interruptSaved =>
      exact Bool.noConfusion quiet
  | _ => exact resumable

theorem refunded_of_interrupt {run : GenerationRun} {interruption : Interruption}
    (charge : run.deduction = some deduction) (stuck : ¬(interruption.salvage run).resumable = true) :
    deduction ∈ (record.refund
      (if (interruption.salvage run).resumable then none else run.deduction)).refunds := by
  rw [if_neg stuck, charge]
  exact mem_refund_self

theorem Commits.covered (commits : Commits checks around now record operation committed)
    (continues : operation.continues = true) (completable : record.Completable operation)
    (seeded : record.Seeded) (chain : record.Chain id deduction) : committed.record.Covered id deduction := by
  have moves := commits.moves
  have goesOn (offer : record.Resumable → committed.record.Resumable)
      (kept : ∀ run, record.runs[id]? = some run → run.status = .running →
        committed.record.Covered id deduction) : committed.record.Covered id deduction := by
    cases chain.covered with
    | delivered later found delivered =>
        obtain ⟨next, kept, progress⟩ := moves.forward found
        exact .delivered later kept (progress.delivered delivered)
    | refunded member => exact .refunded (commits.refunds_mono member)
    | resumable resumable => exact .resumable (offer resumable)
    | running found running => exact kept _ found running
  by_cases quiet : operation.settles = false
  · refine goesOn (commits.resumable continues quiet) ?_
    intro run found running
    obtain ⟨next, kept, progress⟩ := moves.forward found
    exact .running kept ((progress.quiet quiet).trans running)
  · obtain ⟨opener, opened, charge⟩ := chain.opener
    cases commits with
    | succeed locked | replay locked =>
        obtain ⟨found, running, _⟩ := lockRunningRun_eq_ok.mp locked
        exact .delivered (chain.latest _ _ found running)
          ((getElem?_withRun _ found _).trans (if_pos rfl)) (Or.inl rfl)
    | persistQualityGateBlocked locked =>
        obtain ⟨found, running, _⟩ := lockRunningRun_eq_ok.mp locked
        exact .delivered (chain.latest _ _ found running)
          ((getElem?_withRun _ found _).trans (if_pos rfl)) (Or.inr ⟨rfl, rfl, rfl⟩)
    | settledBefore => exact chain.covered
    | @interruptEmpty own run interruption found running empty =>
        by_cases first : own = id
        · subst first
          obtain rfl : opener = run := Option.some.inj (opened.symm.trans found)
          refine .refunded (refunded_of_interrupt charge ?_)
          intro resumable
          exact Interruption.combined_ne_empty.mpr (Interruption.resumable_iff.mp resumable).2.1 empty
        · refine goesOn (fun resumable => resumable) ?_
          intro later held running
          exact .running ((getElem?_withRun _ found _).trans ((if_neg (Ne.symm first)).trans held)) running
    | @interruptSaved own run interruption found running saved =>
        by_cases resumable : (interruption.salvage run).resumable = true
        · refine .resumable ⟨?_, rfl, Or.inl rfl⟩
          exact (congrArg Option.isSome offer_incompleteGate).trans (by simp [resumable])
        · by_cases first : own = id
          · subst first
            obtain rfl : opener = run := Option.some.inj (opened.symm.trans found)
            exact .refunded (refunded_of_interrupt charge resumable)
          · have saves := Interruption.combined_ne_empty.mp saved
            have free := chain.later own run
              (Nat.lt_of_le_of_ne (chain.latest own run found running) (Ne.symm first)) found
            obtain ⟨banked, missing⟩ := completable run found running free saves
            have prompt := seeded.prompts own run found free
            exact absurd (Interruption.resumable_iff.mpr ⟨saves.kept, saves, banked, missing, prompt⟩) resumable
    | _ => exact absurd rfl quiet

theorem Commits.chain (commits : Commits checks around now record operation committed)
    (continues : operation.continues = true) (completable : record.Completable operation)
    (seeded : record.Seeded) (chain : record.Chain id deduction) : committed.record.Chain id deduction where
  opener := by
    obtain ⟨run, found, charge⟩ := chain.opener
    obtain ⟨next, later, progress⟩ := commits.moves.forward found
    exact ⟨next, later, progress.deduction.trans charge⟩
  latest := by
    intro position next later running
    rcases commits.moves.backward later with ⟨run, found, progress⟩ | ⟨last, _⟩
    · exact chain.latest position run found (progress.running running)
    · obtain ⟨opener, opened, _⟩ := chain.opener
      have first := (List.getElem?_eq_some_iff.mp opened).1
      omega
  later := by
    intro position next after later
    rcases commits.moves.backward later with ⟨run, found, progress⟩ | ⟨_, _, _, _, ⟨_, rfl, action⟩, _⟩
    · exact progress.action.trans (chain.later position run after found)
    · exact action.trans (of_decide_eq_true continues)
  covered := commits.covered continues completable seeded chain

theorem StageRecord.Chain.beside {after : StageRecord} (chain : record.Chain id deduction)
    (beside : Beside record after) : after.Chain id deduction where
  opener := by
    rw [beside.runs]
    exact chain.opener
  latest := by
    rw [beside.runs]
    exact chain.latest
  later := by
    rw [beside.runs]
    exact chain.later
  covered := by
    have refunds : after.refunds = record.refunds := congrArg (·.refunds) beside.kept
    cases chain.covered with
    | delivered later found delivered => exact .delivered later (beside.runs ▸ found) delivered
    | refunded member => exact .refunded (refunds ▸ member)
    | resumable resumable =>
        refine .resumable ?_
        rw [Resumable, beside.gate, beside.currentVersion]
        exact resumable
    | running found running => exact .running (beside.runs ▸ found) running

end

namespace Workspace

open Histories

variable {checks : Checks} {workspace : Workspace} {event : Event} {type : StageType} {id deduction : Nat}

structure Opens (checks : Checks) (before : Workspace) (event : Event) (id deduction : Nat) : Prop where
  new : before.run? event.type id = none
  charged : ((before.step checks event).run? event.type id).bind (·.deduction) = some deduction

def Completable (checks : Checks) (type : StageType) (workspace : Workspace) (event : Event) : Prop :=
  event.type = type → (workspace.transact checks event).isOk = true →
    (workspace.record type).Completable event.operation

instance (type : StageType) (workspace : Workspace) (event : Event) :
    Decidable (Completable checks type workspace event) :=
  inferInstanceAs (Decidable (_ → _ → _))

theorem Opens.chain (opens : Opens checks workspace event id deduction) :
    ((workspace.step checks event).record event.type).Chain id deduction := by
  obtain ⟨run, opened, charge⟩ := Option.bind_eq_some_iff.mp opens.charged
  rcases step_cases checks workspace event with refused | ⟨committed, _, commits, stepped⟩
  · rw [refused, opens.new] at opened
    contradiction
  · have rows : (workspace.step checks event).record event.type = committed.record := by
      rw [stepped, commit_self]
    rw [run?, rows] at opened
    rw [rows]
    rcases commits.moves.backward opened with ⟨former, found, _⟩ | ⟨last, idle, running, _⟩
    · exact absurd (found.symm.trans opens.new) (Option.some_ne_none former)
    · refine ⟨⟨run, opened, charge⟩, ?_, ?_, .running opened running⟩
      · intro position next later ran
        rcases commits.moves.backward later with ⟨former, found, progress⟩ | ⟨also, _⟩
        · exact absurd ⟨former, List.mem_of_getElem? found, progress.running ran⟩ idle
        · omega
      · intro position next after later
        rcases commits.moves.backward later with ⟨former, found, _⟩ | ⟨also, _⟩
        · have bound := (List.getElem?_eq_some_iff.mp found).1
          omega
        · omega

theorem chain_step (seeded : workspace.Seeded) (chain : (workspace.record type).Chain id deduction)
    (continues : event.type = type → event.operation.continues = true)
    (completable : Completable checks type workspace event) :
    ((workspace.step checks event).record type).Chain id deduction := by
  rcases step_cases checks workspace event with refused | ⟨committed, done, commits, stepped⟩
  · rw [refused]
    exact chain
  · rw [stepped]
    by_cases own : type = event.type
    · subst own
      rw [commit_self]
      exact commits.chain (continues rfl) (completable rfl done) (seeded event.type) chain
    · exact chain.beside (commit_beside own)

theorem chain_play {events : List Event} (seeded : workspace.Seeded)
    (chain : (workspace.record type).Chain id deduction)
    (continues : ∀ event ∈ events, event.type = type → event.operation.continues = true)
    (completable : Along (step checks) (Completable checks type) workspace events) :
    (Histories.play (step checks) workspace events).Seeded ∧
      ((Histories.play (step checks) workspace events).record type).Chain id deduction := by
  induction events generalizing workspace with
  | nil => exact ⟨seeded, chain⟩
  | cons event rest ih =>
      have next := chain_step seeded chain (continues event List.mem_cons_self) completable.1
      exact ih seeded.step next (fun other member => continues other (List.mem_cons_of_mem _ member))
        completable.2

/-- In any history, when the runs of a chain have ended, its artifact has been delivered, the stage offers
to complete it for free, or the deduction has been given back. -/
theorem completable_chains_are_covered (checks : Checks) (inputs : WorkspaceInputs) (now : Int)
    (history : List Event) (start : Event) (chain : List Event) (id deduction : Nat)
    (opens : Opens checks (play (step checks) (fresh inputs now) history) start id deduction)
    (continues : ∀ event ∈ chain, event.type = start.type → event.operation.continues = true)
    (completable : Along (step checks) (Completable checks start.type)
      ((play (step checks) (fresh inputs now) history).step checks start) chain) :
    let record := (play (step checks) (fresh inputs now) (history ++ start :: chain)).record start.type
    ¬record.Active →
      (∃ position run, id ≤ position ∧ record.runs[position]? = some run ∧ run.Delivered) ∨
        record.loadResumeSeed.isSome = true ∨ deduction ∈ record.refunds := by
  intro record idle
  have seeded : (play (step checks) (fresh inputs now) history).Seeded :=
    invariant (fun _ _ seeded => seeded.step) (fresh_seeded inputs now) history
  obtain ⟨seeded, held⟩ := chain_play seeded.step opens.chain continues completable
  rw [← play_cons, ← play_append] at seeded held
  cases held.covered with
  | delivered later found delivered => exact Or.inl ⟨_, _, later, found, delivered⟩
  | refunded member => exact Or.inr (Or.inr member)
  | resumable resumable => exact Or.inr (Or.inl (resumable.seed (seeded start.type)))
  | running found running => exact absurd ⟨_, List.mem_of_getElem? found, running⟩ idle

def sampleChain (chunks : List Chunk) : List Event :=
  (sampleGeneration .spec 0 1 "text").tail.take 2 ++
    [ { type := .spec, now := 2, operation := .terminalizeInterruptedRun 0 sampleLoss }
    , { type := .spec, now := 3, operation := .generate (sampleRequest .resume) } ] ++
    chunks.map fun chunk => { type := .spec, now := 4, operation := .checkpointChunk 1 chunk }

def sampleStart : Event where
  type := .spec
  now := 1
  operation := .generate (sampleRequest .generate)

def sampleStop : Event where
  type := .spec
  now := 5
  operation := .terminalizeInterruptedRun 1 {
    stop := .cancelled, errorCode := "generation_cancelled", safe := true }

theorem completable_chains_are_covered_sample :
    let record := (play (step sampleChecks) (fresh {} 0) ([] ++ sampleStart ::
      (sampleChain [{ key := "first", ordinal := 0, content := "text" }] ++ [sampleStop]))).record .spec
    (∃ position run, 0 ≤ position ∧ record.runs[position]? = some run ∧ run.Delivered) ∨
      record.loadResumeSeed.isSome = true ∨ 0 ∈ record.refunds :=
  completable_chains_are_covered sampleChecks {} 0 [] sampleStart _ 0 0
    ⟨by decide +kernel, by decide +kernel⟩ (by decide +kernel) (by decide +kernel) (by decide +kernel)

theorem cancelled_resume_keeps_charge :
    let chain := sampleChain [ { key := "first", ordinal := 0, content := "text" }
      , { key := "second", ordinal := 1, content := "text" } ] ++ [sampleStop]
    let record := (play (step sampleChecks) (fresh {} 0) (sampleStart :: chain)).record .spec
    Opens sampleChecks (fresh {} 0) sampleStart 0 0 ∧ (∀ event ∈ chain, event.operation.continues = true) ∧
      ¬record.Active ∧ (∀ run ∈ record.runs, ¬run.Delivered) ∧ record.loadResumeSeed = none ∧
        0 ∉ record.refunds :=
  ⟨⟨by decide +kernel, by decide +kernel⟩, by decide +kernel⟩

end Workspace

end Thought2Build.Pipeline
