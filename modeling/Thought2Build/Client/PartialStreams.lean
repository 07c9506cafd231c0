import Thought2Build.Client.OpenStreams
import Thought2Build.Library.Histories

/-! What becomes of the content of a stage, and the runs in which no partial stream is kept. -/

namespace Thought2Build.Client

open Histories

namespace StreamHook

variable {hook : StreamHook} {front : List StreamStart} {start : StreamStart} {call : Nat} {phase : StartPhase}

structure Contents (hook : StreamHook) (stageId : String) (allowed : Option String → Prop) : Prop where
  keyed : ∀ id, ∀ stage ∈ hook.store.stages id, stage.id = id
  own : ∀ start ∈ hook.starts, start.phase ≠ .settled → ∀ old ∈ start.existing, old.id = start.stageId
  known : ∀ start ∈ hook.starts, start.phase ≠ .settled → start.stageId = stageId →
    ∀ old ∈ start.existing, allowed old.content
  stored : ∀ stage ∈ hook.store.stages stageId, allowed stage.content ∨
    ∃ start ∈ hook.starts, start.stageId = stageId ∧ start.phase = .recovering

theorem setStage_keyed {store : StageStore} (keyed : ∀ id, ∀ stage ∈ store.stages id, stage.id = id)
    (fresh : ClientStage) : ∀ id, ∀ stage ∈ (store.setStage fresh).stages id, stage.id = id := by
  intro id stage member
  rw [StageStore.setStage] at member
  by_cases same : id = fresh.id
  · subst same
    simp only [Function.update_self] at member
    rw [Option.mem_some.mp member]
  · simp only [Function.update_of_ne same] at member
    exact keyed id stage member

theorem finalise_keyed {store : StageStore} (keyed : ∀ id, ∀ stage ∈ store.stages id, stage.id = id)
    (stageId : String) : ∀ id, ∀ stage ∈ (store.finaliseStream stageId).stages id, stage.id = id := by
  intro id stage member
  rw [StageStore.finaliseStream] at member
  cases found : store.stages stageId with
  | none =>
      simp only [found] at member
      exact keyed id stage member
  | some existing =>
      simp only [found] at member
      by_cases same : id = stageId
      · subst same
        simp only [Function.update_self] at member
        rw [← Option.mem_some.mp member]
        exact keyed id existing found
      · simp only [Function.update_of_ne same] at member
        exact keyed id stage member

namespace Contents

variable {stageId : String} {allowed : Option String → Prop} {next : StreamHook}

theorem free (contents : hook.Contents stageId allowed) (opened : hook.Open front start)
    (other : start.phase ≠ .recovering ∨ start.stageId ≠ stageId) :
    ∀ stage ∈ hook.store.stages stageId, allowed stage.content := by
  intro stage member
  rcases contents.stored stage member with good | ⟨late, within, same, recovering⟩
  · exact good
  · rw [opened.calls] at within
    rcases List.mem_append.mp within with early | last
    · rw [opened.settled late early] at recovering
      contradiction
    · obtain rfl := List.mem_singleton.mp last
      rcases other with phase | different
      · exact absurd recovering phase
      · exact absurd same different

theorem moves (contents : hook.Contents stageId allowed) (opened : hook.Open front start)
    (calls : next.starts = front ++ [{ start with phase }])
    (keyed : ∀ id, ∀ stage ∈ next.store.stages id, stage.id = id)
    (stored : ∀ stage ∈ next.store.stages stageId, allowed stage.content ∨
      start.stageId = stageId ∧ phase = .recovering) : next.Contents stageId allowed := by
  have within : start ∈ hook.starts := by simp [opened.calls]
  have cases : ∀ later ∈ next.starts, later.phase ≠ .settled → later = { start with phase } := by
    intro later member pending
    rw [calls] at member
    rcases List.mem_append.mp member with early | last
    · exact absurd (opened.settled later early) pending
    · exact List.mem_singleton.mp last
  refine ⟨keyed, ?_, ?_, ?_⟩
  · intro later member pending
    rw [cases later member pending]
    exact contents.own start within opened.pending
  · intro later member pending
    rw [cases later member pending]
    exact contents.known start within opened.pending
  · intro stage member
    rcases stored stage member with good | ⟨same, recovering⟩
    · exact .inl good
    · refine .inr ⟨{ start with phase }, ?_, same, recovering⟩
      rw [calls]
      exact List.mem_append_right _ (List.mem_singleton.mpr rfl)

theorem keeps (contents : hook.Contents stageId allowed) (opened : hook.Open front start)
    (calls : next.starts = front ++ [{ start with phase }]) (stages : next.store.stages = hook.store.stages)
    (calm : start.phase ≠ .recovering) : next.Contents stageId allowed := by
  refine contents.moves opened calls (stages ▸ contents.keyed) fun stage member => .inl ?_
  rw [stages] at member
  exact contents.free opened (.inl calm) stage member

theorem receives (contents : hook.Contents stageId allowed) (opened : hook.Open front start)
    (calls : next.starts = front ++ [{ start with phase := .settled }]) {store : StageStore} {fresh : ClientStage}
    (stages : next.store.stages = (store.setStage fresh).stages) (same : store.stages = hook.store.stages)
    (good : fresh.id = stageId → allowed fresh.content) (own : start.phase = .recovering → fresh.id = start.stageId) :
    next.Contents stageId allowed := by
  refine contents.moves opened calls (stages ▸ setStage_keyed (same ▸ contents.keyed) fresh) fun stage member => .inl ?_
  rw [stages, StageStore.setStage] at member
  by_cases here : stageId = fresh.id
  · subst here
    simp only [Function.update_self] at member
    rw [← Option.mem_some.mp member]
    exact good rfl
  · simp only [Function.update_of_ne here, same] at member
    refine contents.free opened ?_ stage member
    by_cases recovering : start.phase = .recovering
    · exact .inr fun other => here (other.symm.trans (own recovering).symm)
    · exact .inl recovering

theorem handles (contents : hook.Contents stageId allowed) (opened : hook.Open front start) (error : StreamError)
    (calm : start.phase ≠ .recovering) :
    (hook.handleError front.length start.stageId error).Contents stageId allowed := by
  rw [handleError]
  split
  · exact contents.keeps opened (settle_starts opened.calls) rfl calm
  · split
    · exact contents.keeps opened (setPhase_starts opened.calls _) rfl calm
    · split
      · exact contents.keeps opened (setPhase_starts opened.calls _) rfl calm
      · have calls : (({ hook with store := hook.store.finaliseStream start.stageId }.settleError start.stageId
            { code := error.code.getD "internal_error", message := error.message }).setPhase front.length
              .recovering).starts = front ++ [{ start with phase := .recovering }] :=
          setPhase_starts (by simp [opened.calls]) _
        refine contents.moves opened calls ?_ ?_
        · rw [setPhase_store, settleError_store]
          exact finalise_keyed contents.keyed _
        · intro stage member
          by_cases mine : start.stageId = stageId
          · exact .inr ⟨mine, rfl⟩
          · refine .inl (contents.free opened (.inl calm) stage ?_)
            rw [setPhase_store, settleError_store] at member
            simp only [StageStore.finaliseStream] at member
            cases found : hook.store.stages start.stageId with
            | none => simpa only [found] using member
            | some existing =>
                simp only [found] at member
                simpa only [Function.update_of_ne (Ne.symm mine)] using member

theorem reconciles (contents : hook.Contents stageId allowed) (opened : hook.Open front start) (message : String)
    {fresh : ClientStage} (good : fresh.id = stageId → allowed fresh.content) (calm : start.phase ≠ .recovering) :
    (hook.reconcile front.length start message fresh).Contents stageId allowed := by
  have own : start.phase = .recovering → fresh.id = start.stageId := fun recovering => absurd recovering calm
  rw [reconcile]
  split
  · exact contents.receives opened (settle_starts opened.calls) rfl rfl good own
  · split
    · exact contents.keeps opened (setPhase_starts opened.calls _) rfl calm
    · split
      · refine contents.receives opened (settle_starts (by simp [opened.calls])) ?_
          (StageStore.discardStream_stages hook.store start.stageId) good own
        rw [settle_store, settleError_store]
      · exact contents.receives opened (settle_starts opened.calls) rfl rfl good own

theorem unconfirms (contents : hook.Contents stageId allowed) (opened : hook.Open front start)
    (calm : start.phase ≠ .recovering) :
    (hook.unconfirmed front.length start.stageId).Contents stageId allowed := by
  refine contents.keeps opened (settle_starts (by simp [opened.calls])) ?_ calm
  rw [unconfirmed, settle_store, settleError_store]
  rfl

theorem answers (contents : hook.Contents stageId allowed) (opened : hook.Open front start)
    {fetched : Option ClientStage} (good : ∀ fresh ∈ fetched, fresh.id = stageId → allowed fresh.content)
    (calm : fetched = none → start.phase = .recovering → start.existing.isSome) :
    (hook.answer front.length start fetched).Contents stageId allowed := by
  have within : start ∈ hook.starts := by simp [opened.calls]
  have other : ∀ {phase}, start.phase = phase → phase ≠ .recovering → start.phase ≠ .recovering := fun same different =>
    same ▸ different
  have apart : ∀ {phase} {fresh : ClientStage}, start.phase = phase → phase ≠ .recovering →
      start.phase = .recovering → fresh.id = start.stageId := fun same different recovering =>
    absurd recovering (same ▸ different)
  unfold answer
  split
  · rename_i phase
    split
    · exact contents.receives opened (settle_starts opened.calls) rfl rfl (good _ rfl) (apart phase (by simp))
    · exact contents
  · rename_i phase
    exact contents.keeps opened (settle_starts opened.calls) rfl (other phase (by simp))
  · split
    · rename_i mine
      exact contents.receives opened (settle_starts opened.calls) rfl rfl (good _ rfl) fun _ => mine
    · exact contents
  · rename_i phase
    exact contents.keeps opened (settle_starts opened.calls) rfl (other phase (by simp))
  · rename_i phase
    split
    · exact contents.reconciles opened _ (good _ rfl) (other phase (by simp))
    · exact contents
  · rename_i phase
    exact contents.unconfirms opened (other phase (by simp))
  · rename_i phase
    split
    · exact contents.receives opened (settle_starts opened.calls) rfl rfl (good _ rfl) (apart phase (by simp))
    · exact contents
  · rename_i phase
    exact contents.unconfirms opened (other phase (by simp))
  · split
    · rename_i mine
      exact contents.receives opened (settle_starts opened.calls) rfl rfl (good _ rfl) fun _ => mine
    · exact contents
  · rename_i phase
    split
    · rename_i existing old
      have mine := contents.own start within opened.pending existing old
      refine contents.receives opened (settle_starts opened.calls) rfl rfl (fun here => ?_) fun _ => mine
      exact contents.known start within opened.pending (mine.symm.trans here) existing old
    · rename_i none
      have known := calm rfl phase
      rw [none] at known
      contradiction
  · exact contents

theorem ofCall (contents : hook.Contents stageId allowed) (opened : hook.Open front start) {event : HookEvent}
    (own : event.call = some front.length)
    (good : ∀ fresh ∈ event.served, fresh.id = stageId → allowed fresh.content) (calm : hook.Calm event) :
    (hook.ofCall front.length start event).Contents stageId allowed := by
  have found : hook.starts[front.length]? = some start := by
    rw [opened.calls]
    simp
  have apart : ∀ {phase}, start.phase = phase → phase ≠ .recovering → start.phase ≠ .recovering := fun same different =>
    same ▸ different
  unfold StreamHook.ofCall
  split
  · split
    · rename_i requesting
      have same : hook.closeCurrent.starts = hook.starts := by
        rcases opened.closes with same | ⟨streaming, _⟩
        · exact same
        · rw [requesting] at streaming
          contradiction
      refine contents.keeps opened (setPhase_starts (same.trans opened.calls) _) ?_ (apart requesting (by simp))
      exact congrArg _ connect_store
    · exact contents
  · split
    · rename_i requesting
      exact contents.handles opened _ (apart requesting (by simp))
    · exact contents
  · split
    · exact ⟨contents.keyed, contents.own, contents.known, contents.stored⟩
    · exact contents
  · split
    · exact ⟨contents.keyed, contents.own, contents.known, contents.stored⟩
    · exact contents
  · split
    · exact ⟨contents.keyed, contents.own, contents.known, contents.stored⟩
    · exact contents
  · split
    · exact ⟨contents.keyed, contents.own, contents.known, contents.stored⟩
    · exact contents
  · split
    · rename_i streaming
      exact contents.keeps opened (setPhase_starts opened.calls _) rfl (apart streaming (by simp))
    · exact contents
  · split
    · rename_i streaming
      refine contents.handles opened _ ?_
      rcases streaming with running | shut
      · exact apart running (by simp)
      · exact apart shut (by simp)
    · exact contents
  · rename_i fetched
    refine contents.answers opened good fun none recovering => ?_
    subst none
    obtain rfl : _ = front.length := Option.some.inj own
    exact calm start found recovering
  · exact contents

end Contents

theorem Contents.unmounts {stageId : String} {allowed : Option String → Prop} (contents : hook.Contents stageId allowed)
    (sound : hook.Sound) : hook.unmount.Contents stageId allowed := by
  have stages : hook.unmount.store.stages = hook.store.stages := by
    rw [unmount]
    dsimp only
    split <;> rfl
  have same : hook.closeCurrent.starts = hook.starts → hook.unmount.Contents stageId allowed := by
    intro same
    have starts : hook.unmount.starts = hook.starts := same
    exact ⟨stages ▸ contents.keyed, starts ▸ contents.own, starts ▸ contents.known,
      stages.symm ▸ starts.symm ▸ contents.stored⟩
  rcases sound.calls with idle | ⟨front, start, opened⟩
  · exact same idle.closes
  · rcases opened.closes with kept | ⟨streaming, closed⟩
    · exact same kept
    · exact contents.keeps opened closed stages (by rw [streaming]; decide)

theorem Contents.begins {stageId : String} {allowed : Option String → Prop} (contents : hook.Contents stageId allowed)
    (settled : ∀ start ∈ hook.starts, start.phase = .settled) (started : String) (action : StreamAction) :
    (hook.beginStart started action).Contents stageId allowed := by
  have free : ∀ stage ∈ hook.store.stages stageId, allowed stage.content := by
    intro stage member
    rcases contents.stored stage member with good | ⟨start, within, _, recovering⟩
    · exact good
    · rw [settled start within] at recovering
      contradiction
  have last : ∀ start ∈ (hook.beginStart started action).starts, start.phase ≠ .settled →
      start = { stageId := started, existing := hook.store.stages started } := by
    intro start member pending
    rcases List.mem_append.mp member with early | late
    · exact absurd (settled start early) pending
    · exact List.mem_singleton.mp late
  have unknown : hook.store.stages started = none →
      (hook.beginStart started action).store.stages = hook.store.stages := by
    intro missing
    simp only [beginStart, missing]
    rfl
  have shown : ∀ existing, hook.store.stages started = some existing →
      (hook.beginStart started action).store.stages = (hook.store.setStage
        { existing with status := .inProgress, generationStartedAt := none, generationAction := none }).stages := by
    intro existing found
    simp only [beginStart, found]
    rfl
  refine ⟨?_, ?_, ?_, ?_⟩
  · cases found : hook.store.stages started with
    | none =>
        rw [unknown found]
        exact contents.keyed
    | some existing =>
        rw [shown existing found]
        exact setStage_keyed contents.keyed _
  · intro start member pending old within
    rw [last start member pending] at within ⊢
    exact contents.keyed started old within
  · intro start member pending mine old within
    rw [last start member pending] at mine within
    subst mine
    exact free old within
  · intro stage member
    refine .inl ?_
    cases found : hook.store.stages started with
    | none =>
        rw [unknown found] at member
        exact free stage member
    | some existing =>
        rw [shown existing found, StageStore.setStage] at member
        by_cases here : stageId = existing.id
        · have own := contents.keyed started existing found
          subst here
          simp only [Function.update_self] at member
          rw [← Option.mem_some.mp member]
          rw [← own] at found
          exact free existing found
        · simp only [Function.update_of_ne here] at member
          exact free stage member

theorem Contents.step {stageId : String} {allowed : Option String → Prop} (contents : hook.Contents stageId allowed)
    (sound : hook.Sound) {event : HookEvent} (calm : hook.Calm event)
    (good : ∀ fresh ∈ event.served, fresh.id = stageId → allowed fresh.content) :
    (hook.step event).Contents stageId allowed := by
  rcases step_cases hook event with ⟨started, action, rfl, same⟩ | ⟨call, start, own, found, same⟩ |
      ⟨_, _, same⟩ | ⟨starts, _, _, _, store⟩
  · exact same ▸ contents.begins calm started action
  · rw [same]
    by_cases settled : start.phase = .settled
    · rw [ofCall_settled settled]
      exact contents
    · rcases sound.calls with idle | ⟨front, last, opened⟩
      · exact absurd (idle.settled start (List.mem_of_getElem? found)) settled
      · obtain ⟨rfl, rfl⟩ := opened.last found settled
        exact contents.ofCall opened own good calm
  · exact same ▸ contents.unmounts sound
  · rcases store with same | ⟨fresh, member, same⟩
    · exact ⟨same ▸ contents.keyed, starts ▸ contents.own, starts ▸ contents.known,
        same.symm ▸ starts.symm ▸ contents.stored⟩
    · refine ⟨same ▸ setStage_keyed contents.keyed fresh, starts ▸ contents.own, starts ▸ contents.known, ?_⟩
      intro stage within
      rw [same, StageStore.setStage] at within
      rw [starts]
      by_cases here : stageId = fresh.id
      · subst here
        simp only [Function.update_self] at within
        rw [← Option.mem_some.mp within]
        exact .inl (good fresh member rfl)
      · simp only [Function.update_of_ne here] at within
        exact contents.stored stage within

theorem Sound.run (sound : hook.Sound) {events : List HookEvent} (calm : Along StreamHook.step Calm hook events) :
    (play StreamHook.step hook events).Sound := by
  induction events generalizing hook with
  | nil => exact sound
  | cons event rest ih => exact ih (sound.step calm.1) calm.2

theorem Contents.run {stageId : String} {allowed : Option String → Prop} (contents : hook.Contents stageId allowed)
    (sound : hook.Sound) {events : List HookEvent} (calm : Along StreamHook.step Calm hook events)
    (good : ∀ event ∈ events, ∀ fresh ∈ event.served, fresh.id = stageId → allowed fresh.content) :
    (play StreamHook.step hook events).Contents stageId allowed := by
  induction events generalizing hook with
  | nil => exact contents
  | cons event rest ih =>
      obtain ⟨here, later⟩ := List.forall_mem_cons.mp good
      exact ih (contents.step sound calm.1 here) (sound.step calm.1) calm.2 later

structure KeepsNoPartial (hook : StreamHook) (events : List HookEvent) : Prop where
  left : (play step hook events).NoneLeft
  others : ∀ front event back, events = front ++ event :: back → (play step hook front).LeavesOthers event
  /-- Once the calls on a stage have settled, its content is what it was before the last of them, or came from the
  server since. -/
  content : ∀ front stageId action back, events = front ++ .start (some stageId) action :: back →
    ¬(play step hook events).Busy stageId → ∀ stage ∈ (play step hook events).store.stages stageId,
      (∃ old ∈ (play step hook front).store.stages stageId, stage.content = old.content) ∨
        ∃ event ∈ back, ∃ fresh ∈ event.served, fresh.id = stageId ∧ stage.content = fresh.content

theorem Fresh.contents (fresh : hook.Fresh) (stageId : String) {allowed : Option String → Prop}
    (stored : ∀ stage ∈ hook.store.stages stageId, allowed stage.content) : hook.Contents stageId allowed where
  keyed := fresh.keyed
  own := by simp [fresh.starts]
  known := by simp [fresh.starts]
  stored stage member := .inl (stored stage member)

/-- The editor keeps no partial stream in a run whose steps are calm. -/
theorem keeps_no_partial (fresh : hook.Fresh) (events : List HookEvent) (calm : Along step Calm hook events) :
    hook.KeepsNoPartial events := by
  refine ⟨(fresh.sound.run calm).noneLeft, ?_, ?_⟩
  · rintro front event back rfl
    exact (fresh.sound.run (along_append.mp calm).1).leavesOthers event
  · rintro front stageId action back rfl free stage member
    obtain ⟨early, starts, late⟩ := along_append.mp calm
    have sound := fresh.sound.run early
    have before : (play step hook front).Contents stageId fun content =>
        (∃ old ∈ (play step hook front).store.stages stageId, content = old.content) ∨
          ∃ event ∈ back, ∃ fresh ∈ event.served, fresh.id = stageId ∧ content = fresh.content := by
      have all : hook.Contents stageId fun _ => True := fresh.contents stageId fun _ _ => trivial
      have keyed := (all.run fresh.sound early fun _ _ _ _ _ => trivial).keyed
      exact {
        keyed
        own := fun call within pending => absurd (starts call within) pending
        known := fun call within pending => absurd (starts call within) pending
        stored := fun old within => .inl (.inl ⟨old, within, rfl⟩) }
    have after := (before.step sound starts fun _ served => absurd served (Option.not_mem_none _)).run
      (sound.step starts) late fun event within fresh served same => .inr ⟨event, within, fresh, served, same, rfl⟩
    rw [play_append, play_cons] at free member
    rcases after.stored stage member with good | ⟨start, within, same, recovering⟩
    · exact good
    · exact absurd ⟨start, within, same, by rw [recovering]; decide⟩ free

def twoStages : StreamHook where
  store := { stages := fun id =>
    if id = "a" then some { id := "a", content := some "old" } else if id = "b" then some { id := "b", content := none }
    else none }
  currentStageId := some "a"

theorem twoStages_fresh : twoStages.Fresh := by
  refine ⟨rfl, rfl, rfl, rfl, fun _ => rfl, rfl, fun stageId stage member => ?_⟩
  by_cases first : stageId = "a"
  · simp only [twoStages, first, if_true, Option.mem_some_iff] at member
    rw [← member, first]
  · by_cases second : stageId = "b"
    · simp only [twoStages, second, if_true, if_neg (by decide : ¬"b" = "a"), Option.mem_some_iff] at member
      rw [← member, second]
    · simp [twoStages, first, second] at member

def doneRun : List HookEvent := [
  .start (some "a") .generate, .responded 0, .token 0 "new", .done 0 "a",
  .fetched 0 (some { id := "a", content := some "new text" })]

theorem keeps_no_partial_done :
    (twoStages.Fresh ∧ Along step Calm twoStages doneRun) ∧ twoStages.KeepsNoPartial doneRun := by
  have calm : Along step Calm twoStages doneRun :=
    ⟨fun _ member => absurd member List.not_mem_nil, trivial, trivial, trivial, trivial, trivial⟩
  exact ⟨⟨twoStages_fresh, calm⟩, keeps_no_partial twoStages_fresh doneRun calm⟩

def overlappingRun : List HookEvent := [
  .start (some "a") .generate, .responded 0, .token 0 "part", .navigate (some "b"), .start (some "b") .generate,
  .responded 1, .failed 0 streamAborted]

def unknownRun : List HookEvent := [
  .start (some "c") .generate, .responded 0, .token 0 "part", .loaded { id := "c", content := some "text" },
  .failed 0 { code := some "generation_timeout", message := "" }, .fetched 0 none]

theorem partial_kept : twoStages.Fresh ∧
    ¬twoStages.KeepsNoPartial overlappingRun ∧ ¬twoStages.KeepsNoPartial unknownRun ∧
    (play step twoStages overlappingRun).store.streamingContent "a" = some "part" ∧
    (play step twoStages overlappingRun).isStreaming = false ∧
    ((play step twoStages unknownRun).store.stages "c").map (·.content) = some (some "part") := by
  have buffer : (play step twoStages overlappingRun).store.streamingContent "a" = some "part" := by decide
  have flag : (play step twoStages overlappingRun).isStreaming = false := by decide
  have content : ((play step twoStages unknownRun).store.stages "c").map (·.content) = some (some "part") := by
    decide
  refine ⟨twoStages_fresh, fun keeps => ?_, fun keeps => ?_, buffer, flag, content⟩
  · have free : ∀ start ∈ (play step twoStages overlappingRun).starts,
        start.stageId = "a" → start.phase = .settled := by
      decide
    have none := keeps.left.buffers "a" fun ⟨start, member, same, pending⟩ => pending (free start member same)
    rw [buffer] at none
    contradiction
  · have free : ∀ start ∈ (play step twoStages unknownRun).starts, start.stageId = "c" → start.phase = .settled := by
      decide
    obtain ⟨stage, found, part⟩ := Option.map_eq_some_iff.mp content
    rcases keeps.content [] "c" .generate _ rfl (fun ⟨start, member, same, pending⟩ => pending (free start member same))
        stage found with ⟨old, before, _⟩ | ⟨event, within, fresh, served, _, same⟩
    · have absent : (play step twoStages []).store.stages "c" = none := by decide
      rw [absent] at before
      contradiction
    · rw [part] at same
      simp only [List.mem_cons, List.not_mem_nil, or_false] at within
      rcases within with rfl | rfl | rfl | rfl | rfl <;> cases served
      exact absurd same (by decide)

end StreamHook

end Thought2Build.Client
