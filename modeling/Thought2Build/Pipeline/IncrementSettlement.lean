import Thought2Build.Library.Rows
import Thought2Build.Pipeline.IncrementsCore
import Thought2Build.Pipeline.VersionHistory

/-!
An increment settles in one way: its tasks are appended once and its charge is kept, or nothing is appended
and its charge comes back. This fails where a sweep writes a row that was finalised after the sweep read it.
-/

namespace Thought2Build.Pipeline

open Histories
open Integrations (Texts)

namespace History

structure Read (history : History) (version : Nat) (content : String) : Prop where
  upper : version ≤ history.currentVersion
  content : version = history.currentVersion → history.content.getD "" = content

theorem Read.growth {before after : History} {version : Nat} {content : String}
    (read : before.Read version content) (sound : before.Sound) (complete : before.Complete)
    (growth : Growth before after) : after.Read version content := by
  have upper := read.upper
  -- a new head has a later version than any read before it
  have behind : ∀ {row : StageVersion}, before.Continues before.currentVersion row →
      (before.push row).Read version content := by
    intro row continues
    have next := continues.version
    refine ⟨?_, ?_⟩ <;> simp only [History.push]
    · omega
    · omega
  cases growth with
  | stay => exact read
  | @restore row member current =>
      refine ⟨upper, ?_⟩
      intro same
      have started : before.currentVersion ≠ 0 := current ▸ sound.positive row member
      obtain ⟨head, kept, number, text, _⟩ := sound.head started
      have equal := List.inj_on_of_nodup_map sound.versionsDistinct kept member (number.trans current.symm)
      have content := read.content same
      rw [text, equal] at content
      exact content
  | append continues => exact behind continues
  | load => exact ⟨upper, read.content⟩
  | @grow row loaded member continues =>
      have bound := complete.loaded loaded member
      have free := continues.free
      rw [complete.versions, continues.version, List.mem_range'_1] at free
      obtain rfl : loaded = before.currentVersion := by omega
      have later := behind continues
      exact ⟨later.upper, later.content⟩
  | select => exact ⟨upper, read.content⟩

end History

namespace Timeline

variable {texts : Texts} {checks : Checks} {timeline : Timeline} {now : Int}

def history (timeline : Timeline) : History := (timeline.workspace.record .tasks).history

structure Recorded (timeline : Timeline) : Prop where
  sound : timeline.history.Sound
  complete : timeline.history.Complete
  read : ∀ request ∈ timeline.requests, timeline.history.Read request.tasksVersion request.tasksContent

theorem Recorded.of_growth {after : Timeline} (recorded : timeline.Recorded)
    (growth : History.Growth timeline.history after.history)
    (read : ∀ request ∈ after.requests, (∃ former ∈ timeline.requests,
      former.tasksVersion = request.tasksVersion ∧ former.tasksContent = request.tasksContent) ∨
        after.history.Read request.tasksVersion request.tasksContent) : after.Recorded where
  sound := recorded.sound.growth growth
  complete := recorded.complete.growth growth
  read := by
    intro request member
    rcases read request member with ⟨former, old, version, content⟩ | fresh
    · rw [← version, ← content]
      exact (recorded.read former old).growth recorded.sound recorded.complete growth
    · exact fresh

theorem growth_of_transact {event : Event} {committed : Committed}
    (commits : timeline.workspace.transact checks event = .ok committed)
    (kept : ¬event.operation.Purges) :
    History.Growth timeline.history
      ((timeline.workspace.commit event.type committed event.now).record .tasks).history := by
  rw [← Workspace.step_of_ok commits]
  exact Workspace.step_growth kept

theorem mem_withPhase {position : Nat} {phase : RequestPhase} {request : IncrementRequest}
    (member : request ∈ (timeline.withPhase position phase).requests) :
    ∃ former ∈ timeline.requests,
      former.tasksVersion = request.tasksVersion ∧ former.tasksContent = request.tasksContent := by
  rcases Rows.mem_modify member with old | ⟨former, found, rfl⟩
  · exact ⟨request, old, rfl, rfl⟩
  · exact ⟨former, List.mem_of_getElem? found, rfl, rfl⟩

/-! The rows that one increment's refund changes -/

@[simp] theorem workspace_refundAndMarkDraft (increment : Nat) :
    (timeline.refundAndMarkDraft now increment).workspace = timeline.workspace := by
  unfold refundAndMarkDraft
  split <;> rfl

@[simp] theorem requests_refundAndMarkDraft (increment : Nat) :
    (timeline.refundAndMarkDraft now increment).requests = timeline.requests := by
  unfold refundAndMarkDraft
  split <;> rfl

@[simp] theorem charges_refundAndMarkDraft (increment : Nat) :
    (timeline.refundAndMarkDraft now increment).charges = timeline.charges := by
  unfold refundAndMarkDraft
  split <;> rfl

@[simp] theorem pushes_refundAndMarkDraft (increment : Nat) :
    (timeline.refundAndMarkDraft now increment).pushes = timeline.pushes := by
  unfold refundAndMarkDraft
  split <;> rfl

theorem increments_refundAndMarkDraft (increment other : Nat) :
    (timeline.refundAndMarkDraft now increment).increments[other]? =
      if other = increment then timeline.increments[other]?.map fun row =>
        { row with status := .draft, updatedAt := now }
      else timeline.increments[other]? := by
  unfold refundAndMarkDraft
  split
  · rename_i absent
    by_cases same : other = increment
    · subst same
      simp [absent]
    · simp [same]
  · rename_i row found
    by_cases same : other = increment
    · subst same
      obtain ⟨bound, rfl⟩ := List.getElem?_eq_some_iff.mp found
      simp [bound]
    · simp [same, List.getElem?_set_ne (Ne.symm same)]

theorem refunds_refundAndMarkDraft {increment : Nat} {row : Increment} {deduction : Nat}
    (found : timeline.increments[increment]? = some row) (charged : row.deduction = some deduction) :
    (timeline.refundAndMarkDraft now increment).refunds =
      if deduction ∈ timeline.refunds then timeline.refunds else timeline.refunds ++ [deduction] := by
  simp [refundAndMarkDraft, found, refund, charged]

theorem foldl_refundAndMarkDraft {motive : Timeline → Prop} {stuck : List Nat}
    (kept : ∀ timeline, motive timeline → ∀ increment ∈ stuck, motive (timeline.refundAndMarkDraft now increment))
    (holds : motive timeline) : motive (stuck.foldl (·.refundAndMarkDraft now) timeline) := by
  induction stuck generalizing timeline with
  | nil => exact holds
  | cons first rest ih =>
      have second := kept timeline holds first List.mem_cons_self
      exact ih (fun timeline holds other member => kept timeline holds other (List.mem_cons_of_mem _ member))
        second

def appended (texts : Texts) (checks : Checks) (timeline : Timeline) : TimelineEvent → Option (Nat × String)
  | .complete position completion now =>
      match timeline.requests[position]? with
      | some { tasksVersion, tasksContent, phase := .generating increment } => do
          let newTasksMd ← texts.newTasksMd checks tasksContent completion
          let _ ← timeline.finaliseIncrement checks increment tasksVersion newTasksMd now
          return (increment, newTasksMd)
      | _ => none
  | _ => none

theorem finaliseIncrement_eq_some {increment tasksVersion : Nat} {newTasksMd : String} {after : Timeline} :
    timeline.finaliseIncrement checks increment tasksVersion newTasksMd now = some after ↔
      ∃ locked committed, timeline.increments[increment]? = some locked ∧ locked.status = .generating ∧
        timeline.workspace.transact checks {
          type := .tasks, operation := .appendTasksVersion tasksVersion newTasksMd, now } = .ok committed ∧
        after = { timeline with
          workspace := timeline.workspace.commit .tasks committed now
          increments := timeline.increments.set increment { locked with status := .ready, updatedAt := now } } := by
  unfold finaliseIncrement
  constructor
  · intro finalised
    split at finalised
    · contradiction
    · rename_i locked found
      split at finalised
      · contradiction
      · rename_i generating
        split at finalised
        · contradiction
        · rename_i committed commits
          exact ⟨locked, committed, found, by simpa using generating, commits, (Option.some.inj finalised).symm⟩
  · rintro ⟨locked, committed, found, generating, commits, rfl⟩
    simp [found, generating, commits]

/-- What `complete` does, and whether it appends. -/
inductive Answered (texts : Texts) (checks : Checks) (timeline : Timeline) (position : Nat)
    (completion : String) (now : Int) : Timeline → Option (Nat × String) → Prop where
  | idle : Answered texts checks timeline position completion now timeline none
  | refused {request : IncrementRequest} {increment : Nat}
      (found : timeline.requests[position]? = some request) (phase : request.phase = .generating increment) :
      Answered texts checks timeline position completion now
        ((timeline.refundAndMarkDraft now increment).withPhase position .ended) none
  | rolledBack : Answered texts checks timeline position completion now (timeline.withPhase position .ended) none
  | appended {request : IncrementRequest} {increment : Nat} {newTasksMd : String} {locked : Increment}
      {committed : Committed} (found : timeline.requests[position]? = some request)
      (phase : request.phase = .generating increment)
      (grown : texts.newTasksMd checks request.tasksContent completion = some newTasksMd)
      (row : timeline.increments[increment]? = some locked) (generating : locked.status = .generating)
      (commits : timeline.workspace.transact checks {
        type := .tasks, operation := .appendTasksVersion request.tasksVersion newTasksMd, now } = .ok committed) :
      Answered texts checks timeline position completion now
        (({ timeline with
          workspace := timeline.workspace.commit .tasks committed now
          increments := timeline.increments.set increment { locked with status := .ready, updatedAt := now }
          } : Timeline).withPhase position .ended)
        (some (increment, newTasksMd))

theorem answered (texts : Texts) (checks : Checks) (timeline : Timeline) (position : Nat) (completion : String)
    (now : Int) : Answered texts checks timeline position completion now
      (timeline.complete texts checks position completion now)
      (timeline.appended texts checks (.complete position completion now)) := by
  rcases found : timeline.requests[position]? with _ | ⟨tasksVersion, tasksContent, phase⟩
  · simpa [complete, appended, found] using Answered.idle
  · cases phase with
    | loaded | ended => simpa [complete, appended, found] using Answered.idle
    | generating increment =>
        cases grown : texts.newTasksMd checks tasksContent completion with
        | none => simpa [complete, appended, found, grown] using Answered.refused found rfl
        | some newTasksMd =>
            cases finalised : timeline.finaliseIncrement checks increment tasksVersion newTasksMd now with
            | none => simpa [complete, appended, found, grown, finalised] using Answered.rolledBack
            | some after =>
                obtain ⟨locked, committed, row, generating, commits, rfl⟩ :=
                  finaliseIncrement_eq_some.mp finalised
                simpa [complete, appended, found, grown, finalised] using
                  Answered.appended found rfl grown row generating commits

theorem not_purges {operation : Operation} (edits : operation.EditsStage) : ¬operation.Purges := by
  cases operation <;> first | exact id | exact edits.elim

theorem history_recover (stuck : List Nat) :
    (timeline.recover stuck now).history = timeline.history := by
  unfold recover
  split
  · refine foldl_refundAndMarkDraft (motive := fun settled => settled.history = timeline.history) ?_ rfl
    intro settled same increment _
    rw [← same]
    exact congrArg (fun workspace => (workspace.record .tasks).history) (workspace_refundAndMarkDraft increment)
  · rfl

theorem requests_recover (stuck : List Nat) : (timeline.recover stuck now).requests = timeline.requests := by
  unfold recover
  split
  · refine foldl_refundAndMarkDraft (motive := fun settled => settled.requests = timeline.requests) ?_ rfl
    intro settled same increment _
    rw [← same]
    exact requests_refundAndMarkDraft increment
  · rfl

theorem history_refundAndMarkDraft (increment : Nat) :
    (timeline.refundAndMarkDraft now increment).history = timeline.history := by
  rw [history, workspace_refundAndMarkDraft, history]

theorem step_growth (texts : Texts) (checks : Checks) (timeline : Timeline) (event : TimelineEvent) :
    History.Growth timeline.history (timeline.step texts checks event).history := by
  have same : ∀ {after : Timeline}, after.history = timeline.history →
      History.Growth timeline.history after.history := by
    intro after same
    rw [same]
    exact .stay _
  cases event with
  | edit event edits => exact Workspace.step_growth (not_purges edits)
  | load now =>
      simp only [step, load]
      split
      · exact .stay _
      · rename_i committed commits
        exact growth_of_transact commits id
  | reserve request now =>
      simp only [step, reserve]
      split <;> exact .stay _
  | complete position completion now =>
      have outcome := answered texts checks timeline position completion now
      simp only [step]
      generalize timeline.complete texts checks position completion now = after at outcome ⊢
      generalize timeline.appended texts checks _ = commit at outcome
      cases outcome with
      | idle | rolledBack => exact .stay _
      | refused => exact same (history_refundAndMarkDraft _)
      | appended _ _ _ _ _ commits => exact growth_of_transact commits id
  | fail position now =>
      simp only [step, fail]
      split
      · exact same (history_refundAndMarkDraft _)
      · exact .stay _
  | readStuck => exact .stay _
  | recover stuck now => exact same (history_recover stuck)
  | readReady increment =>
      simp only [step, readReady]
      split <;> exact .stay _
  | push increment now =>
      simp only [step, push]
      split <;> exact .stay _

theorem step_reads {event : TimelineEvent} {request : IncrementRequest}
    (member : request ∈ (timeline.step texts checks event).requests) :
    (∃ former ∈ timeline.requests,
      former.tasksVersion = request.tasksVersion ∧ former.tasksContent = request.tasksContent) ∨
      (timeline.step texts checks event).history.Read request.tasksVersion request.tasksContent := by
  have kept : request ∈ timeline.requests → ∃ former ∈ timeline.requests,
      former.tasksVersion = request.tasksVersion ∧ former.tasksContent = request.tasksContent :=
    fun old => ⟨request, old, rfl, rfl⟩
  cases event with
  | edit => exact Or.inl (kept member)
  | load now =>
      simp only [step, load] at member ⊢
      split at member
      · exact Or.inl (kept member)
      · rename_i committed commits
        rcases List.mem_append.mp member with old | new
        · exact Or.inl (kept old)
        · rw [List.mem_singleton] at new
          subst new
          right
          have inversion := Operation.commits commits
          cases inversion with
          | loadIncrement =>
              constructor <;> simp [history, StageRecord.history, Workspace.commit, Stage.text]
  | reserve position now =>
      simp only [step, reserve] at member
      split at member
      · exact Or.inl (mem_withPhase member)
      · exact Or.inl (kept member)
  | complete position completion now =>
      left
      have outcome := answered texts checks timeline position completion now
      simp only [step] at member
      generalize timeline.complete texts checks position completion now = after at outcome member
      generalize timeline.appended texts checks _ = commit at outcome
      cases outcome with
      | idle => exact kept member
      | refused =>
          have former := mem_withPhase member
          rw [requests_refundAndMarkDraft] at former
          exact former
      | rolledBack | appended => exact mem_withPhase member
  | fail position now =>
      simp only [step, fail] at member
      split at member
      · have former := mem_withPhase member
        rw [requests_refundAndMarkDraft] at former
        exact Or.inl former
      · exact Or.inl (kept member)
  | readStuck => exact Or.inl (kept member)
  | recover stuck now =>
      simp only [step, requests_recover] at member
      exact Or.inl (kept member)
  | readReady increment =>
      simp only [step, readReady] at member
      split at member <;> exact Or.inl (kept member)
  | push increment now =>
      simp only [step, push] at member
      split at member <;> exact Or.inl (kept member)

theorem Recorded.step (recorded : timeline.Recorded) (event : TimelineEvent) :
    (timeline.step texts checks event).Recorded :=
  recorded.of_growth (step_growth texts checks timeline event) fun _ member => step_reads member

theorem fresh_recorded (inputs : WorkspaceInputs) (now : Int) : (fresh inputs now).Recorded where
  sound := Workspace.fresh_sound inputs now
  complete := Workspace.fresh_complete inputs now
  read := by simp [fresh]

structure Grows (texts : Texts) (checks : Checks) (before after : StageRecord) (newTasksMd : String) : Prop where
  grown : ∃ completion, texts.newTasksMd checks before.stage.text completion = some newTasksMd
  appended : ∃ row, after.versions = before.versions ++ [row] ∧ row.content = newTasksMd ∧
    row.version = before.stage.currentVersion + 1
  head : after.stage.currentVersion = before.stage.currentVersion + 1 ∧ after.stage.content = some newTasksMd

theorem Recorded.grows (recorded : timeline.Recorded) {event : TimelineEvent} {increment : Nat}
    {newTasksMd : String} (appends : timeline.appended texts checks event = some (increment, newTasksMd)) :
    Grows texts checks (timeline.workspace.record .tasks)
      ((timeline.step texts checks event).workspace.record .tasks) newTasksMd := by
  cases event with
  | complete position completion now =>
      have outcome := answered texts checks timeline position completion now
      rw [appends] at outcome
      simp only [Timeline.step]
      generalize timeline.complete texts checks position completion now = after at outcome ⊢
      cases outcome with
      | @appended request _ _ locked committed found phase grown row generating commits =>
          have read := recorded.read request (List.mem_of_getElem? found)
          have inversion := Operation.commits commits
          cases inversion with
          | appendTasksVersion member free =>
              have upper := read.upper
              rw [show (timeline.workspace.record .tasks).versions = timeline.history.versions from rfl,
                recorded.complete.versions, List.mem_range'_1] at free
              have current : request.tasksVersion = timeline.history.currentVersion := by omega
              have text : (timeline.workspace.record .tasks).stage.text = request.tasksContent :=
                read.content current
              have number : request.tasksVersion = (timeline.workspace.record .tasks).stage.currentVersion :=
                current
              refine ⟨⟨completion, by rw [text, grown]⟩, ?_, ?_⟩
              · simp [withPhase, Workspace.commit_self, number]
              · simp [withPhase, Workspace.commit_self, number]
  | _ => simp [Timeline.appended] at appends

def finished (timeline : Timeline) (increment : Nat) : Bool :=
  timeline.increments[increment]?.any fun row => row.status = .ready || row.status = .pushed

def Undisturbed (timeline : Timeline) : TimelineEvent → Prop
  | .recover stuck _ => stuck ∈ timeline.sweeps → ∀ increment ∈ stuck, timeline.finished increment = false
  | _ => True

structure Booked (timeline : Timeline) : Prop where
  deduction : ∀ (increment : Nat) (row : Increment),
    timeline.increments[increment]? = some row → row.deduction = some increment
  charges : timeline.charges = List.replicate timeline.increments.length incrementCreditCost
  drafts : ∀ increment, increment ∈ timeline.refunds ↔
    ∃ row, timeline.increments[increment]? = some row ∧ row.status = .draft
  refundsOnce : timeline.refunds.Nodup
  current : ∀ (increment : Nat) (row : Increment),
    timeline.increments[increment]? = some row → row.status ≠ .stale

structure UnderWay (timeline : Timeline) : Prop where
  unfinished : ∀ (position increment : Nat) (request : IncrementRequest),
    timeline.requests[position]? = some request → request.phase = .generating increment →
      increment < timeline.increments.length ∧ timeline.finished increment = false
  alone : ∀ (position other increment : Nat) (request second : IncrementRequest),
    timeline.requests[position]? = some request → timeline.requests[other]? = some second →
      request.phase = .generating increment → second.phase = .generating increment → position = other
  pushing : ∀ increment ∈ timeline.pushes, timeline.finished increment = true

theorem finished_eq {after : Timeline} {increment : Nat}
    (same : after.increments[increment]? = timeline.increments[increment]?) :
    after.finished increment = timeline.finished increment := by
  rw [finished, same, finished]

theorem finished_refundAndMarkDraft (increment other : Nat) :
    (timeline.refundAndMarkDraft now increment).finished other =
      if other = increment then false else timeline.finished other := by
  by_cases same : other = increment
  · subst same
    rw [finished, increments_refundAndMarkDraft, if_pos rfl, if_pos rfl, Option.any_map]
    cases timeline.increments[other]? <;> rfl
  · rw [if_neg same]
    exact finished_eq (by rw [increments_refundAndMarkDraft, if_neg same])

theorem length_refundAndMarkDraft (increment : Nat) :
    (timeline.refundAndMarkDraft now increment).increments.length = timeline.increments.length := by
  unfold refundAndMarkDraft
  split <;> simp

theorem Booked.refundAndMarkDraft (booked : timeline.Booked) (increment : Nat) :
    (timeline.refundAndMarkDraft now increment).Booked := by
  cases found : timeline.increments[increment]? with
  | none =>
      have same : timeline.refundAndMarkDraft now increment = timeline := by
        simp [Timeline.refundAndMarkDraft, found]
      rw [same]
      exact booked
  | some row =>
      have refunds := @refunds_refundAndMarkDraft timeline now increment row increment found
        (booked.deduction increment row found)
      have drafted : (timeline.refundAndMarkDraft now increment).increments[increment]? =
          some { row with status := .draft, updatedAt := now } := by
        rw [increments_refundAndMarkDraft, if_pos rfl, found, Option.map_some]
      have others : ∀ other, other ≠ increment →
          (timeline.refundAndMarkDraft now increment).increments[other]? = timeline.increments[other]? := by
        intro other apart
        rw [increments_refundAndMarkDraft, if_neg apart]
      constructor
      · intro other held kept
        by_cases same : other = increment
        · subst same
          rw [drafted] at kept
          rw [← Option.some.inj kept]
          exact booked.deduction other row found
        · rw [others other same] at kept
          exact booked.deduction other held kept
      · rw [charges_refundAndMarkDraft, length_refundAndMarkDraft]
        exact booked.charges
      · intro other
        by_cases same : other = increment
        · subst same
          rw [refunds, drafted]
          split <;> simp_all
        · rw [others other same, ← booked.drafts other, refunds]
          split
          · rfl
          · simp [same]
      · rw [refunds]
        split
        · exact booked.refundsOnce
        · rename_i unpaid
          exact List.Nodup.append booked.refundsOnce (List.nodup_singleton _) (by simpa using unpaid)
      · intro other held kept
        by_cases same : other = increment
        · subst same
          rw [drafted] at kept
          rw [← Option.some.inj kept]
          simp
        · rw [others other same] at kept
          exact booked.current other held kept

theorem getElem?_ended {position other increment : Nat} {request : IncrementRequest}
    (found : (timeline.withPhase position .ended).requests[other]? = some request)
    (phase : request.phase = .generating increment) :
    other ≠ position ∧ timeline.requests[other]? = some request := by
  simp only [withPhase, List.getElem?_modify] at found
  by_cases same : position = other
  · subst same
    simp only [if_true] at found
    obtain ⟨former, _, rfl⟩ := Option.map_eq_some_iff.mp found
    contradiction
  · simp only [if_neg same] at found
    exact ⟨Ne.symm same, by simpa using found⟩

theorem UnderWay.ended (underWay : timeline.UnderWay) (position : Nat) :
    (timeline.withPhase position .ended).UnderWay where
  unfinished other increment request found phase :=
    underWay.unfinished other increment request (getElem?_ended found phase).2 phase
  alone first second increment request other found held phase same :=
    underWay.alone first second increment request other (getElem?_ended found phase).2
      (getElem?_ended held same).2 phase same
  pushing := underWay.pushing

theorem UnderWay.settled {after : Timeline} {position increment : Nat} {request : IncrementRequest}
    (underWay : timeline.UnderWay) (found : timeline.requests[position]? = some request)
    (phase : request.phase = .generating increment) (requests : after.requests = timeline.requests)
    (length : after.increments.length = timeline.increments.length) (pushes : after.pushes = timeline.pushes)
    (others : ∀ other, other ≠ increment → after.finished other = timeline.finished other) :
    (after.withPhase position .ended).UnderWay where
  unfinished other row second held same := by
    obtain ⟨apart, held⟩ := getElem?_ended held same
    rw [requests] at held
    have different : row ≠ increment := by
      rintro rfl
      exact apart (underWay.alone other position row second request held found same phase)
    have before := underWay.unfinished other row second held same
    exact ⟨length ▸ before.1, (others row different).trans before.2⟩
  alone first second row request other found held phase same := by
    have found := (getElem?_ended found phase).2
    have held := (getElem?_ended held same).2
    rw [requests] at found held
    exact underWay.alone first second row request other found held phase same
  pushing row member := by
    have member : row ∈ after.pushes := member
    rw [pushes] at member
    have kept := underWay.pushing row member
    have different : row ≠ increment := by
      rintro rfl
      rw [(underWay.unfinished position row request found phase).2] at kept
      contradiction
    exact (others row different).trans kept

theorem UnderWay.refundAndMarkDraft (underWay : timeline.UnderWay) {increment : Nat}
    (unfinished : timeline.finished increment = false) :
    (timeline.refundAndMarkDraft now increment).UnderWay where
  unfinished position other request found phase := by
    rw [requests_refundAndMarkDraft] at found
    have before := underWay.unfinished position other request found phase
    rw [length_refundAndMarkDraft, finished_refundAndMarkDraft]
    exact ⟨before.1, by simp [before.2]⟩
  alone := by
    rw [requests_refundAndMarkDraft]
    exact underWay.alone
  pushing other member := by
    rw [pushes_refundAndMarkDraft] at member
    have kept := underWay.pushing other member
    have different : other ≠ increment := by
      rintro rfl
      rw [unfinished] at kept
      contradiction
    rw [finished_refundAndMarkDraft, if_neg different]
    exact kept

theorem Booked.moved {after : Timeline} {increment : Nat} {row moved : Increment} (booked : timeline.Booked)
    (found : timeline.increments[increment]? = some row) (live : row.status ≠ .draft)
    (increments : after.increments = timeline.increments.set increment moved)
    (charge : moved.deduction = row.deduction) (status : moved.status ≠ .draft ∧ moved.status ≠ .stale)
    (charges : after.charges = timeline.charges) (refunds : after.refunds = timeline.refunds) :
    after.Booked := by
  have bound := (List.getElem?_eq_some_iff.mp found).1
  have own : after.increments[increment]? = some moved := by
    rw [increments, List.getElem?_set_self bound]
  have others : ∀ other, other ≠ increment → after.increments[other]? = timeline.increments[other]? := by
    intro other apart
    rw [increments, List.getElem?_set_ne apart.symm]
  constructor
  · intro other held kept
    by_cases same : other = increment
    · subst same
      rw [own] at kept
      rw [← Option.some.inj kept, charge]
      exact booked.deduction other row found
    · exact booked.deduction other held (others other same ▸ kept)
  · rw [charges, increments, List.length_set]
    exact booked.charges
  · intro other
    rw [refunds, booked.drafts other]
    by_cases same : other = increment
    · subst same
      simp [own, found, live, status.1]
    · rw [others other same]
  · rw [refunds]
    exact booked.refundsOnce
  · intro other held kept
    by_cases same : other = increment
    · subst same
      rw [own] at kept
      rw [← Option.some.inj kept]
      exact status.2
    · exact booked.current other held (others other same ▸ kept)

theorem Booked.reserve (booked : timeline.Booked) (position : Nat) : (timeline.reserve position now).Booked := by
  unfold Timeline.reserve
  split
  · have charges : timeline.charges.length = timeline.increments.length := by
      rw [booked.charges, List.length_replicate]
    have beyond : timeline.increments[timeline.increments.length]? = none := by simp
    constructor
    · intro increment row found
      rcases Rows.getElem?_concat found with old | ⟨rfl, rfl⟩
      · exact booked.deduction increment row old
      · simp [charges]
    · simp [booked.charges, List.replicate_succ']
    · intro increment
      refine (booked.drafts increment).trans ?_
      constructor
      · rintro ⟨row, found, draft⟩
        have bound := (List.getElem?_eq_some_iff.mp found).1
        exact ⟨row, by simpa [withPhase, List.getElem?_append_left bound] using found, draft⟩
      · rintro ⟨row, found, draft⟩
        rcases Rows.getElem?_concat found with old | ⟨_, rfl⟩
        · exact ⟨row, old, draft⟩
        · contradiction
    · exact booked.refundsOnce
    · intro increment row found
      rcases Rows.getElem?_concat found with old | ⟨_, rfl⟩
      · exact booked.current increment row old
      · simp
  · exact booked

theorem UnderWay.reserve (underWay : timeline.UnderWay) (position : Nat) :
    (timeline.reserve position now).UnderWay := by
  unfold Timeline.reserve
  split
  · rename_i tasksVersion tasksContent found
    have stays : ∀ increment, increment < timeline.increments.length →
        Timeline.finished { timeline.withPhase position (.generating timeline.increments.length) with
          increments := timeline.increments ++ [{
            status := .generating, deduction := some timeline.charges.length, updatedAt := now }]
          charges := timeline.charges ++ [incrementCreditCost] } increment = timeline.finished increment := by
      intro increment bound
      exact finished_eq (List.getElem?_append_left bound)
    -- a request with an increment is an old one, or the one that has reserved the newest increment
    have cases : ∀ (other increment : Nat) (request : IncrementRequest),
        (timeline.withPhase position (.generating timeline.increments.length)).requests[other]? = some request →
          request.phase = .generating increment →
            timeline.requests[other]? = some request ∨
              (other = position ∧ increment = timeline.increments.length) := by
      intro other increment request held phase
      simp only [withPhase, List.getElem?_modify] at held
      by_cases same : position = other
      · subst same
        simp only [if_true, found] at held
        obtain rfl := Option.some.inj held
        exact Or.inr ⟨rfl, (RequestPhase.generating.inj phase).symm⟩
      · simp only [if_neg same] at held
        exact Or.inl (by simpa using held)
    constructor
    · intro other increment request held phase
      rcases cases other increment request held phase with old | ⟨rfl, rfl⟩
      · obtain ⟨bound, unfinished⟩ := underWay.unfinished other increment request old phase
        refine ⟨?_, (stays increment bound).trans unfinished⟩
        simp only [List.length_append, List.length_singleton]
        omega
      · simp [finished]
    · intro first second increment request other held taken phase same
      rcases cases first increment request held phase with old | ⟨rfl, rfl⟩
      · have bound := (underWay.unfinished first increment request old phase).1
        rcases cases second increment other taken same with former | ⟨rfl, rfl⟩
        · exact underWay.alone first second increment request other old former phase same
        · omega
      · rcases cases second _ other taken same with former | ⟨rfl, _⟩
        · have bound := (underWay.unfinished second _ other former same).1
          omega
        · rfl
    · intro increment member
      have kept := underWay.pushing increment member
      have bound : increment < timeline.increments.length := by
        by_contra beyond
        simp [finished, List.getElem?_eq_none (Nat.le_of_not_lt beyond)] at kept
      exact (stays increment bound).trans kept
  · exact underWay

theorem finished_of_unfinished {increment : Nat} (unfinished : timeline.finished increment = false) (other : Nat) :
    (timeline.refundAndMarkDraft now increment).finished other = timeline.finished other := by
  rw [finished_refundAndMarkDraft]
  split
  · rename_i same
    rw [same, unfinished]
  · rfl

structure Consistent (timeline : Timeline) : Prop where
  booked : timeline.Booked
  underWay : timeline.UnderWay

theorem fresh_consistent (inputs : WorkspaceInputs) (now : Int) : (fresh inputs now).Consistent := by
  refine ⟨?_, ?_⟩ <;> constructor <;> simp [fresh]

theorem Consistent.recover (consistent : timeline.Consistent) {stuck : List Nat}
    (unfinished : ∀ increment ∈ stuck, timeline.finished increment = false) :
    (stuck.foldl (·.refundAndMarkDraft now) timeline).Consistent ∧
      ∀ increment, (stuck.foldl (·.refundAndMarkDraft now) timeline).finished increment =
        timeline.finished increment := by
  refine foldl_refundAndMarkDraft (motive := fun settled => settled.Consistent ∧
    ∀ increment, settled.finished increment = timeline.finished increment) ?_ ⟨consistent, fun _ => rfl⟩
  rintro settled ⟨kept, same⟩ increment member
  have idle : settled.finished increment = false := by rw [same, unfinished increment member]
  exact ⟨⟨kept.booked.refundAndMarkDraft increment, kept.underWay.refundAndMarkDraft idle⟩,
    fun other => (finished_of_unfinished idle other).trans (same other)⟩

theorem finished_set {increment other : Nat} {row : Increment} (bound : increment < timeline.increments.length)
    (done : row.status = .ready ∨ row.status = .pushed) :
    Timeline.finished { timeline with increments := timeline.increments.set increment row } other =
      if other = increment then true else timeline.finished other := by
  by_cases same : other = increment
  · subst same
    rcases done with status | status <;> simp [finished, bound, status]
  · rw [if_neg same]
    exact finished_eq (List.getElem?_set_ne (Ne.symm same))

theorem Consistent.fail (consistent : timeline.Consistent) {position increment : Nat}
    {request : IncrementRequest} (found : timeline.requests[position]? = some request)
    (phase : request.phase = .generating increment) :
    ((timeline.refundAndMarkDraft now increment).withPhase position .ended).Consistent ∧
      ∀ other, (timeline.refundAndMarkDraft now increment).finished other = timeline.finished other := by
  have unfinished := (consistent.underWay.unfinished position increment request found phase).2
  have booked : (timeline.refundAndMarkDraft now increment).Booked := consistent.booked.refundAndMarkDraft increment
  exact ⟨⟨{ booked with }, (consistent.underWay.refundAndMarkDraft unfinished).ended position⟩,
    finished_of_unfinished unfinished⟩

def appends (texts : Texts) (checks : Checks) (increment : Nat) (timeline : Timeline) (event : TimelineEvent) :
    Nat :=
  if (timeline.appended texts checks event).any (·.1 = increment) then 1 else 0

theorem Consistent.step (consistent : timeline.Consistent) {event : TimelineEvent}
    (undisturbed : timeline.Undisturbed event) :
    (timeline.step texts checks event).Consistent ∧ ∀ increment,
      (timeline.finished increment).toNat + timeline.appends texts checks increment event =
        ((timeline.step texts checks event).finished increment).toNat := by
  have underWay := consistent.underWay
  -- an event that appends nothing leaves the finished increments as they are
  have quiet : ∀ {after : Timeline}, after.Consistent →
      (∀ increment, after.finished increment = timeline.finished increment) →
        after.Consistent ∧ ∀ increment, (timeline.finished increment).toNat + 0 =
          (after.finished increment).toNat := by
    intro after kept same
    refine ⟨kept, ?_⟩
    intro increment
    rw [same increment, Nat.add_zero]
  cases event with
  | edit event edits => exact quiet ⟨{ consistent.booked with }, { underWay with }⟩ fun _ => rfl
  | load now =>
      simp only [Timeline.step, load]
      split
      · exact quiet consistent fun _ => rfl
      · refine quiet ⟨{ consistent.booked with }, ?_⟩ fun _ => rfl
        have former : ∀ (position increment : Nat) (request : IncrementRequest),
            (timeline.requests ++ [{
              tasksVersion := (timeline.workspace.record .tasks).stage.currentVersion
              tasksContent := (timeline.workspace.record .tasks).stage.text
              phase := RequestPhase.loaded }])[position]? = some request →
            request.phase = .generating increment → timeline.requests[position]? = some request := by
          intro position increment request found phase
          rcases Rows.getElem?_concat found with old | ⟨_, rfl⟩
          · exact old
          · contradiction
        exact {
          unfinished position increment request found phase :=
            underWay.unfinished position increment request (former position increment request found phase) phase
          alone position other increment request second found held phase same :=
            underWay.alone position other increment request second (former position increment request found phase)
              (former other increment second held same) phase same
          pushing := underWay.pushing }
  | reserve position now =>
      refine quiet ⟨consistent.booked.reserve position, underWay.reserve position⟩ ?_
      intro increment
      simp only [Timeline.step, Timeline.reserve]
      split
      · by_cases bound : increment < timeline.increments.length
        · exact finished_eq (List.getElem?_append_left bound)
        · have beyond : timeline.increments[increment]? = none := List.getElem?_eq_none (Nat.le_of_not_lt bound)
          rw [finished, finished, beyond, Option.any_none, Bool.eq_false_iff]
          intro met
          obtain ⟨row, found, done⟩ := (Option.any_eq_true _ _).mp met
          rcases Rows.getElem?_concat found with old | ⟨_, rfl⟩
          · rw [beyond] at old
            contradiction
          · contradiction
      · rfl
  | complete position completion now =>
      have outcome := answered texts checks timeline position completion now
      simp only [Timeline.step, appends]
      generalize timeline.complete texts checks position completion now = after at outcome ⊢
      generalize timeline.appended texts checks _ = commit at outcome ⊢
      cases outcome with
      | idle => exact quiet consistent fun _ => rfl
      | refused found phase =>
          obtain ⟨kept, same⟩ := consistent.fail found phase
          exact quiet kept same
      | rolledBack => exact quiet ⟨{ consistent.booked with }, underWay.ended position⟩ fun _ => rfl
      | @appended request increment newTasksMd locked committed found phase grown row generating commits =>
          have bound := (List.getElem?_eq_some_iff.mp row).1
          have moved : Booked { timeline with
              workspace := timeline.workspace.commit .tasks committed now
              increments := timeline.increments.set increment
                { locked with status := .ready, updatedAt := now } } :=
            consistent.booked.moved row (by rw [generating]; decide) rfl rfl ⟨nofun, nofun⟩ rfl rfl
          have finishes := fun other => @finished_set timeline increment other
            { locked with status := .ready, updatedAt := now } bound (Or.inl rfl)
          refine ⟨⟨{ moved with }, underWay.settled found phase rfl (List.length_set ..) rfl ?_⟩, ?_⟩
          · intro other apart
            exact (finishes other).trans (if_neg apart)
          · intro other
            have later : Timeline.finished (Timeline.withPhase { timeline with
                workspace := timeline.workspace.commit .tasks committed now
                increments := timeline.increments.set increment
                  { locked with status := .ready, updatedAt := now } } position .ended) other =
                if other = increment then true else timeline.finished other := finishes other
            rw [later]
            by_cases same : other = increment
            · subst same
              simp [(underWay.unfinished position other request found phase).2]
            · simp [same, Ne.symm same]
  | fail position now =>
      simp only [Timeline.step, Timeline.fail]
      split
      · rename_i found
        obtain ⟨kept, same⟩ := consistent.fail found rfl
        exact quiet kept same
      · exact quiet consistent fun _ => rfl
  | readStuck => exact quiet ⟨{ consistent.booked with }, { underWay with }⟩ fun _ => rfl
  | recover stuck now =>
      simp only [Timeline.step, Timeline.recover]
      split
      · rename_i read
        obtain ⟨kept, same⟩ := @Consistent.recover timeline now consistent stuck (undisturbed read)
        exact quiet ⟨{ kept.booked with }, { kept.underWay with }⟩ same
      · exact quiet consistent fun _ => rfl
  | readReady increment =>
      simp only [Timeline.step, readReady]
      split
      · rename_i ready
        refine quiet ⟨{ consistent.booked with }, { underWay with pushing := ?_ }⟩ fun _ => rfl
        intro other member
        rcases List.mem_append.mp member with old | new
        · exact underWay.pushing other old
        · rw [List.mem_singleton] at new
          subst new
          exact ready
      · exact quiet consistent fun _ => rfl
  | push increment now =>
      simp only [Timeline.step, Timeline.push]
      split
      · rename_i read
        have done := underWay.pushing increment read
        obtain ⟨row, found, ready⟩ := (Option.any_eq_true _ _).mp done
        have bound := (List.getElem?_eq_some_iff.mp found).1
        have written : (timeline.increments.modify increment fun row =>
            { row with status := .pushed, updatedAt := now }) =
              timeline.increments.set increment { row with status := .pushed, updatedAt := now } := by
          apply List.ext_getElem?
          intro other
          by_cases same : increment = other
          · subst same
            simp [bound, (List.getElem?_eq_some_iff.mp found).2]
          · simp [List.getElem?_set_ne same, same]
        have live : row.status ≠ .draft := by
          intro draft
          simp [draft] at ready
        have moved : Booked { timeline with
            increments := timeline.increments.set increment { row with status := .pushed, updatedAt := now } } :=
          consistent.booked.moved found live rfl rfl ⟨nofun, nofun⟩ rfl rfl
        have stays : ∀ other, Timeline.finished { timeline with
            increments := timeline.increments.set increment { row with status := .pushed, updatedAt := now } }
              other = timeline.finished other := by
          intro other
          rw [@finished_set timeline increment other _ bound (Or.inr rfl)]
          split
          · rename_i same
            rw [same, done]
          · rfl
        simp only [written]
        refine quiet ⟨{ moved with }, ?_⟩ stays
        exact {
          unfinished position other request held phase := by
            obtain ⟨below, unfinished⟩ := underWay.unfinished position other request held phase
            exact ⟨by simpa using below, (stays other).trans unfinished⟩
          alone := underWay.alone
          pushing other member := (stays other).trans (underWay.pushing other (List.mem_of_mem_erase member)) }
      · exact quiet consistent fun _ => rfl

def SettledOneWay (timeline : Timeline) (row : Increment) (appended : Nat) : Prop :=
  ∃ deduction, row.deduction = some deduction ∧ timeline.charges[deduction]? = some incrementCreditCost ∧
    match row.status with
    | .ready => appended = 1 ∧ deduction ∉ timeline.refunds
    | .pushed => appended = 1 ∧ deduction ∉ timeline.refunds
    | .draft => appended = 0 ∧ deduction ∈ timeline.refunds
    | .generating => appended = 0 ∧ deduction ∉ timeline.refunds
    | .stale => False

structure OneWay (texts : Texts) (checks : Checks) (start : Timeline) (events : List TimelineEvent) : Prop where
  settled : ∀ (increment : Nat) (row : Increment),
    (play (step texts checks) start events).increments[increment]? = some row →
      (play (step texts checks) start events).SettledOneWay row
        (total (step texts checks) (appends texts checks increment) start events)
  charged : ((play (step texts checks) start events).increments.map (·.deduction)).Nodup
  refundsOnce : (play (step texts checks) start events).refunds.Nodup
  ends : ∀ (increment : Nat) (row : Increment) (now : Int),
    (play (step texts checks) start events).increments[increment]? = some row → row.Stuck now = true →
      let stuck := positions (play (step texts checks) start events).increments (·.Stuck now)
      ∃ after, (play (step texts checks) start
          (events ++ [.readStuck now, .recover stuck now])).increments[increment]? = some after ∧
        after.status = .draft
  grows : ∀ event increment newTasksMd,
    (play (step texts checks) start events).appended texts checks event = some (increment, newTasksMd) →
      Grows texts checks ((play (step texts checks) start events).workspace.record .tasks)
        ((play (step texts checks) start (events ++ [event])).workspace.record .tasks) newTasksMd
  kept : ∀ event, ((play (step texts checks) start events).workspace.record .tasks).versions <+:
    ((play (step texts checks) start (events ++ [event])).workspace.record .tasks).versions
  numbered : ((play (step texts checks) start events).workspace.record .tasks).versions.map (·.version) =
    List.range' 1 ((play (step texts checks) start events).workspace.record .tasks).stage.currentVersion
  head : ((play (step texts checks) start events).workspace.record .tasks).HeadRecorded

theorem play_snoc {start : Timeline} {events : List TimelineEvent} {event : TimelineEvent} :
    play (step texts checks) start (events ++ [event]) =
      (play (step texts checks) start events).step texts checks event := by
  rw [play_append, play_cons, play_nil]

theorem Consistent.settled (consistent : timeline.Consistent) {increment appended : Nat} {row : Increment}
    (found : timeline.increments[increment]? = some row)
    (level : appended = (timeline.finished increment).toNat) : timeline.SettledOneWay row appended := by
  have bound := (List.getElem?_eq_some_iff.mp found).1
  refine ⟨increment, consistent.booked.deduction increment row found, ?_, ?_⟩
  · simp [consistent.booked.charges, bound]
  · have drafts := consistent.booked.drafts increment
    have current := consistent.booked.current increment row found
    rw [found] at drafts
    cases status : row.status <;> simp_all [finished]

theorem Booked.deductions_nodup (booked : timeline.Booked) : (timeline.increments.map (·.deduction)).Nodup := by
  have own : timeline.increments.map (·.deduction) = (List.range timeline.increments.length).map some := by
    apply List.ext_getElem
    · simp
    · intro increment bound _
      rw [List.length_map] at bound
      simp [booked.deduction increment _ (List.getElem?_eq_getElem bound)]
  rw [own]
  exact List.nodup_range.map (Option.some_injective _)

theorem statuses_foldl {stuck : List Nat} (increment : Nat) :
    (stuck.foldl (·.refundAndMarkDraft now) timeline).increments[increment]?.map (·.status) =
      if increment ∈ stuck then timeline.increments[increment]?.map fun _ => .draft
      else timeline.increments[increment]?.map (·.status) := by
  induction stuck generalizing timeline with
  | nil => simp
  | cons first rest ih =>
      rw [List.foldl_cons, ih, increments_refundAndMarkDraft]
      by_cases same : increment = first
      · subst same
        cases timeline.increments[increment]? <;> simp
      · simp [same]

theorem recover_drafts {stuck : List Nat} {increment : Nat} {row : Increment} (read : stuck ∈ timeline.sweeps)
    (member : increment ∈ stuck) (found : timeline.increments[increment]? = some row) :
    ∃ after, (timeline.recover stuck now).increments[increment]? = some after ∧ after.status = .draft := by
  have drafted := @statuses_foldl timeline now stuck increment
  rw [if_pos member, found, Option.map_some] at drafted
  rw [recover, if_pos read]
  exact Option.map_eq_some_iff.mp drafted

theorem stuck_ends {increment : Nat} {row : Increment} (found : timeline.increments[increment]? = some row)
    (late : row.Stuck now = true) :
    ∃ after, ((timeline.readStuck now).recover
        (positions timeline.increments (·.Stuck now)) now).increments[increment]? = some after ∧
      after.status = .draft := by
  have member : increment ∈ positions timeline.increments (·.Stuck now) :=
    mem_positions.mpr ⟨row, found, late⟩
  exact recover_drafts (by simp [readStuck]) member found

theorem OneWay.of_run {start : Timeline} {events : List TimelineEvent} (recorded : start.Recorded)
    (consistent : start.Consistent) (unappended : ∀ increment, start.finished increment = false)
    (undisturbed : Along (step texts checks) Undisturbed start events) : OneWay texts checks start events := by
  have kept : (play (step texts checks) start events).Consistent :=
    undisturbed.invariant (fun _ _ holds meets => (holds.step meets).1) consistent
  have versions : (play (step texts checks) start events).Recorded :=
    invariant (fun _ event holds => holds.step event) recorded events
  constructor
  · intro increment row found
    refine kept.settled found ?_
    have levels : (start.finished increment).toNat +
        total (step texts checks) (appends texts checks increment) start events =
          ((play (step texts checks) start events).finished increment).toNat :=
      undisturbed.total_eq (fun state => (state.finished increment).toNat)
        (fun _ _ holds meets => (holds.step meets).1) (fun _ _ holds meets => (holds.step meets).2 increment)
        consistent
    rw [unappended increment] at levels
    simpa using levels
  · exact kept.booked.deductions_nodup
  · exact kept.booked.refundsOnce
  · intro increment row now found late stuck
    rw [play_append]
    exact stuck_ends found late
  · intro event increment newTasksMd appends
    rw [play_snoc]
    exact versions.grows appends
  · intro event
    rw [play_snoc]
    exact (step_growth texts checks _ event).versions
  · exact versions.complete.versions
  · refine ⟨versions.sound.versionsDistinct, ?_⟩
    intro started
    obtain ⟨row, member, current, text, _⟩ := versions.sound.head started
    exact ⟨row, member, current, text⟩

/-- Increments settle in one way in every run whose sweeps are undisturbed, and in no other. -/
theorem increments_settle_one_way_iff (texts : Texts) (checks : Checks) (inputs : WorkspaceInputs) (created : Int)
    (events : List TimelineEvent) :
    (∀ front back, events = front ++ back → OneWay texts checks (fresh inputs created) front) ↔
      Along (step texts checks) Undisturbed (fresh inputs created) events := by
  constructor
  · intro oneWay
    rw [along_iff]
    intro front event back split
    cases event with
    | recover stuck now =>
        intro read increment member
        by_contra finished
        rw [Bool.not_eq_false] at finished
        obtain ⟨row, found, done⟩ := (Option.any_eq_true _ _).mp finished
        -- the charge of a finished increment comes back, and its tasks stay
        have before := (oneWay front (.recover stuck now :: back) split).settled increment row found
        have after := oneWay (front ++ [.recover stuck now]) back (by rw [split]; simp)
        obtain ⟨draft, written, status⟩ := @recover_drafts _ now _ _ _ read member found
        have held : (play (step texts checks) (fresh inputs created)
            (front ++ [.recover stuck now])).increments[increment]? = some draft := by
          rw [play_snoc]
          exact written
        obtain ⟨_, _, _, once⟩ := before
        obtain ⟨_, _, _, never⟩ := after.settled increment draft held
        have quiet : total (step texts checks) (appends texts checks increment) (fresh inputs created)
            (front ++ [.recover stuck now]) =
              total (step texts checks) (appends texts checks increment) (fresh inputs created) front := by
          rw [total_append]
          rfl
        rw [status, quiet] at never
        simp only [Bool.or_eq_true, decide_eq_true_eq] at done
        rcases done with ready | pushed
        · rw [ready] at once
          omega
        · rw [pushed] at once
          omega
    | _ => trivial
  · rintro undisturbed front back rfl
    exact .of_run (fresh_recorded inputs created) (fresh_consistent inputs created) (by simp [finished, fresh])
      (along_append.mp undisturbed).1

def lateSweep : List TimelineEvent :=
  (sampleFinalised .spec 0 1 "spec" 1 ++ sampleFinalised .plan 0 2 "plan" 1 ++
    sampleFinalised .harness 0 3 "harness" 1 ++ sampleFinalised .tasks 0 4 "tasks" 1).filterMap
      (fun event => if edits : event.operation.EditsStage then some (.edit event edits) else none) ++
    [.load 10, .reserve 0 10, .readStuck 1000, .complete 0 "### T-1: A" 1000, .recover [0] 1000]

theorem late_sweep_refunds_appended_increment :
    ¬∀ front back, lateSweep = front ++ back →
      OneWay Integrations.sampleTexts sampleChecks (fresh {} 0) front := by
  intro oneWay
  obtain ⟨_, _, _, never⟩ := (oneWay lateSweep [] (List.append_nil _).symm).settled 0
    { status := .draft, deduction := some 0, updatedAt := 1000 } (by decide +kernel)
  have once : total (step Integrations.sampleTexts sampleChecks) (appends Integrations.sampleTexts sampleChecks 0)
      (fresh {} 0) lateSweep = 1 := by decide +kernel
  rw [once] at never
  exact absurd never.1 (by decide)

end Timeline

end Thought2Build.Pipeline
