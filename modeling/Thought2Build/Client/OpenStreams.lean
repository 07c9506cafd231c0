import Mathlib.Data.List.Nodup
import Thought2Build.Client.StreamHookCore

/-!
While the calls of `start` do not overlap, at most the last of them is open, and no buffer but its own is in the store.
-/

namespace Thought2Build.Client

/-! What the operations of the store leave alone -/

namespace StageStore

variable (store : StageStore) (stageId : String) (stage : ClientStage)

section

attribute [local simp] StreamHook.step StreamHook.ofCall StreamHook.answer StreamHook.handleError
  StreamHook.settleError
  StreamHook.closeCurrent StreamHook.connect StreamHook.reconcile StreamHook.unmount

end

@[simp] theorem setStage_streamingContent : (store.setStage stage).streamingContent = store.streamingContent := rfl

@[simp] theorem setStage_activeStream : (store.setStage stage).activeStream = store.activeStream := rfl

@[simp] theorem discardStream_stages : (store.discardStream stageId).stages = store.stages := rfl

@[simp] theorem startStream_stages : (store.startStream stageId).stages = store.stages := rfl

structure Clean (store : StageStore) : Prop where
  buffers : ∀ stageId, store.streamingContent stageId = none
  active : store.activeStream = none

variable {store stageId}

theorem Clean.setStage (clean : store.Clean) : (store.setStage stage).Clean := ⟨clean.buffers, clean.active⟩

theorem clean_discard (others : ∀ other ≠ stageId, store.streamingContent other = none)
    (active : store.activeStream = none ∨ store.activeStream = some stageId) : (store.discardStream stageId).Clean := by
  constructor
  · intro other
    by_cases same : other = stageId
    · subst same
      exact Function.update_self ..
    · exact (Function.update_of_ne same ..).trans (others other same)
  · rcases active with none | own
    · simp [discardStream, none]
    · simp [discardStream, own]

theorem clean_finalise (others : ∀ other ≠ stageId, store.streamingContent other = none) :
    (store.finaliseStream stageId).Clean := by
  refine ⟨fun other => ?_, rfl⟩
  by_cases same : other = stageId
  · subst same
    exact Function.update_self ..
  · exact (Function.update_of_ne same ..).trans (others other same)

end StageStore

namespace StreamHook

variable {hook : StreamHook} {front : List StreamStart} {start : StreamStart} {call : Nat} {phase : StartPhase}

@[simp] theorem setPhase_store : (hook.setPhase call phase).store = hook.store := rfl

@[simp] theorem settle_store : (hook.settle call).store = hook.store := rfl

@[simp] theorem dropConnection_store : (hook.dropConnection call).store = hook.store := rfl

@[simp] theorem settleError_store (stageId : String) (state : StreamErrorState) :
    (hook.settleError stageId state).store = hook.store := by
  rw [settleError]
  split <;> rfl

@[simp] theorem settleError_starts (stageId : String) (state : StreamErrorState) :
    (hook.settleError stageId state).starts = hook.starts := by
  rw [settleError]
  split <;> rfl

@[simp] theorem settleError_requests (stageId : String) (state : StreamErrorState) :
    (hook.settleError stageId state).requests = hook.requests := by
  rw [settleError]
  split <;> rfl

@[simp] theorem closeCurrent_store : hook.closeCurrent.store = hook.store := by
  rw [closeCurrent]
  split <;> rfl

@[simp] theorem closeCurrent_isStreaming : hook.closeCurrent.isStreaming = hook.isStreaming := by
  rw [closeCurrent]
  split <;> rfl

@[simp] theorem closeCurrent_mounted : hook.closeCurrent.mounted = hook.mounted := by
  rw [closeCurrent]
  split <;> rfl

@[simp] theorem closeCurrent_requests : hook.closeCurrent.requests = hook.requests := by
  rw [closeCurrent]
  split <;> rfl

@[simp] theorem connect_store : (hook.connect call).store = hook.store := by
  simp [connect]

theorem modify_last {change : StreamStart → StreamStart} :
    (front ++ [start]).modify front.length change = front ++ [change start] := by
  induction front with
  | nil => rfl
  | cons first rest ih => simp [ih]

theorem modify_same {starts : List StreamStart} {change : StreamStart → StreamStart}
    (same : ∀ start, starts[call]? = some start → change start = start) : starts.modify call change = starts := by
  induction starts generalizing call with
  | nil => simp
  | cons first rest ih =>
      cases call with
      | zero => simp [same first rfl]
      | succ call => simp [ih fun start found => same start found]

def Held (hook : StreamHook) (start : StreamStart) : Prop :=
  match start.phase with
  | .requesting | .streaming false => hook.mounted = true → hook.store.activeStream = some start.stageId
  | .streaming true | .refetching | .recovering => hook.store.Clean
  | _ => True

structure Open (hook : StreamHook) (front : List StreamStart) (start : StreamStart) : Prop where
  calls : hook.starts = front ++ [start]
  settled : ∀ earlier ∈ front, earlier.phase = .settled
  pending : start.phase ≠ .settled
  flag : hook.isStreaming = true
  others : ∀ other ≠ start.stageId, hook.store.streamingContent other = none
  active : hook.store.activeStream = none ∨ hook.store.activeStream = some start.stageId
  held : hook.Held start

structure Idle (hook : StreamHook) : Prop where
  settled : ∀ start ∈ hook.starts, start.phase = .settled
  clean : hook.store.Clean

structure Sound (hook : StreamHook) : Prop where
  requests : hook.requests.map (·.1) = List.range hook.starts.length
  calls : hook.Idle ∨ ∃ front start, hook.Open front start

theorem ofCall_settled (settled : start.phase = .settled) (event : HookEvent) :
    hook.ofCall call start event = hook := by
  cases event <;> simp [ofCall, answer, settled]

theorem settle_starts (calls : hook.starts = front ++ [start]) :
    (hook.settle front.length).starts = front ++ [{ start with phase := .settled }] := by
  have same : (hook.settle front.length).starts = hook.starts.modify front.length fun start =>
    { start with phase := .settled } := rfl
  rw [same, calls, modify_last]

theorem setPhase_starts (calls : hook.starts = front ++ [start]) (phase : StartPhase) :
    (hook.setPhase front.length phase).starts = front ++ [{ start with phase }] := by
  have same : (hook.setPhase front.length phase).starts = hook.starts.modify front.length fun start =>
    { start with phase } := rfl
  rw [same, calls, modify_last]

def Goes (next : StreamHook) (front : List StreamStart) : Prop := next.Idle ∨ ∃ start, next.Open front start

namespace Open

variable {next : StreamHook}

theorem last (opened : hook.Open front start) {other : StreamStart} (found : hook.starts[call]? = some other)
    (pending : other.phase ≠ .settled) : call = front.length ∧ other = start := by
  rw [opened.calls] at found
  rcases Nat.lt_trichotomy call front.length with early | rfl | late
  · rw [List.getElem?_append_left early] at found
    exact absurd (opened.settled other (List.mem_of_getElem? found)) pending
  · exact ⟨rfl, by simpa using found.symm⟩
  · rw [List.getElem?_eq_none (by simp; omega)] at found
    contradiction

theorem settles (opened : hook.Open front start) (calls : next.starts = hook.starts) (clean : next.store.Clean) :
    (next.settle front.length).Idle := by
  have starts := settle_starts (calls.trans opened.calls)
  refine ⟨fun call member => ?_, clean⟩
  rw [starts] at member
  rcases List.mem_append.mp member with early | late
  · exact opened.settled call early
  · obtain rfl := List.mem_singleton.mp late
    rfl

theorem discards (opened : hook.Open front start) : (hook.store.discardStream start.stageId).Clean :=
  StageStore.clean_discard opened.others opened.active

theorem finalises (opened : hook.Open front start) : (hook.store.finaliseStream start.stageId).Clean :=
  StageStore.clean_finalise opened.others

theorem continues (opened : hook.Open front start) (calls : next.starts = front ++ [{ start with phase }])
    (pending : phase ≠ .settled) (flag : next.isStreaming = true)
    (others : ∀ other ≠ start.stageId, next.store.streamingContent other = none)
    (active : next.store.activeStream = none ∨ next.store.activeStream = some start.stageId)
    (held : next.Held { start with phase }) : ∃ start, next.Open front start :=
  ⟨_, calls, opened.settled, pending, flag, others, active, held⟩

theorem continues_clean (opened : hook.Open front start) (calls : next.starts = front ++ [{ start with phase }])
    (pending : phase ≠ .settled) (flag : next.isStreaming = true) (clean : next.store.Clean)
    (held : next.Held { start with phase }) : ∃ start, next.Open front start :=
  opened.continues calls pending flag (fun other _ => clean.buffers other) (.inl clean.active) held

theorem handles (opened : hook.Open front start) {error : StreamError}
    (calm : error.code = some "stream_aborted" → hook.store.Clean) :
    Goes (hook.handleError front.length start.stageId error) front := by
  rw [handleError]
  split
  · rename_i aborted
    refine .inl (opened.settles rfl (calm ?_))
    cases code : error.code with
    | none =>
        rw [code] at aborted
        exact absurd aborted (by decide)
    | some code => simpa [code] using aborted
  · split
    · exact .inr (opened.continues_clean (setPhase_starts opened.calls _) nofun opened.flag opened.discards
        opened.discards)
    · split
      · exact .inr (opened.continues (setPhase_starts opened.calls _) nofun opened.flag opened.others opened.active
          trivial)
      · have calls : (({ hook with store := hook.store.finaliseStream start.stageId }.settleError start.stageId
            { code := error.code.getD "internal_error", message := error.message }).setPhase front.length
              .recovering).starts = front ++ [{ start with phase := .recovering }] :=
          setPhase_starts (by simp [opened.calls]) _
        have clean : (({ hook with store := hook.store.finaliseStream start.stageId }.settleError start.stageId
            { code := error.code.getD "internal_error", message := error.message }).setPhase front.length
              .recovering).store.Clean := by
          simpa using opened.finalises
        refine .inr (opened.continues_clean calls nofun ?_ clean clean)
        have flag := opened.flag
        simp only [settleError]
        split <;> exact flag

theorem reconciles (opened : hook.Open front start) (message : String) (fresh : ClientStage) :
    Goes (hook.reconcile front.length start message fresh) front := by
  have clean : ((hook.store.discardStream start.stageId).setStage fresh).Clean := opened.discards.setStage fresh
  rw [reconcile]
  split
  · exact .inl (opened.settles rfl clean)
  · split
    · exact .inr (opened.continues (setPhase_starts opened.calls _) nofun opened.flag opened.others opened.active
        trivial)
    · split
      · exact .inl (opened.settles (settleError_starts _ _) (by simpa using clean))
      · exact .inl (opened.settles rfl clean)

theorem unconfirms (opened : hook.Open front start) : Goes (hook.unconfirmed front.length start.stageId) front :=
  .inl (opened.settles (settleError_starts _ _) (by simpa using opened.discards))

theorem stays (opened : hook.Open front start) : Goes hook front := .inr ⟨start, opened⟩

theorem answers (opened : hook.Open front start) (fetched : Option ClientStage) :
    Goes (hook.answer front.length start fetched) front := by
  have held := opened.held
  unfold answer
  split
  · split
    · exact .inl (opened.settles rfl (opened.discards.setStage _))
    · exact opened.stays
  · exact .inl (opened.settles rfl opened.discards)
  · rename_i phase
    rw [Held, phase] at held
    split
    · exact .inl (opened.settles rfl (held.setStage _))
    · exact opened.stays
  · rename_i phase
    rw [Held, phase] at held
    exact .inl (opened.settles rfl held)
  · split
    · exact opened.reconciles _ _
    · exact opened.stays
  · exact opened.unconfirms
  · split
    · exact .inl (opened.settles rfl (opened.discards.setStage _))
    · exact opened.stays
  · exact opened.unconfirms
  · rename_i phase
    rw [Held, phase] at held
    split
    · exact .inl (opened.settles rfl (held.setStage _))
    · exact opened.stays
  · rename_i phase
    rw [Held, phase] at held
    split
    · exact .inl (opened.settles rfl (held.setStage _))
    · exact .inl (opened.settles rfl held)
  · exact opened.stays

theorem closes (opened : hook.Open front start) : hook.closeCurrent.starts = hook.starts ∨
    start.phase = .streaming false ∧
      hook.closeCurrent.starts = front ++ [{ start with phase := .streaming true }] := by
  rw [closeCurrent]
  split
  · rename_i call _
    by_cases streams : ∃ other, hook.starts[call]? = some other ∧ other.phase = .streaming false
    · obtain ⟨other, found, phase⟩ := streams
      obtain ⟨rfl, rfl⟩ := opened.last found (by rw [phase]; decide)
      refine .inr ⟨phase, ?_⟩
      rw [closeStream, opened.calls, modify_last, if_pos phase]
    · refine .inl (modify_same fun other found => if_neg fun phase => ?_)
      exact streams ⟨other, found, phase⟩
  · exact .inl rfl

theorem streams (opened : hook.Open front start) {store : StageStore}
    (others : ∀ other ≠ start.stageId, store.streamingContent other = hook.store.streamingContent other)
    (active : store.activeStream = hook.store.activeStream) (phase : start.phase = .streaming false) :
    Goes { hook with store } front := by
  refine .inr ⟨start, opened.calls, opened.settled, opened.pending, opened.flag, ?_, ?_, ?_⟩
  · exact fun other different => (others other different).trans (opened.others other different)
  · exact active ▸ opened.active
  · have held := opened.held
    rw [Held, phase] at held
    rw [Held, phase]
    exact fun mounted => active.trans (held mounted)

theorem ofCall_goes (opened : hook.Open front start) {event : HookEvent} (own : event.call = some front.length)
    (calm : hook.Calm event) : Goes (hook.ofCall front.length start event) front := by
  have found : hook.starts[front.length]? = some start := by
    rw [opened.calls]
    simp
  unfold ofCall
  split
  · split
    · rename_i requesting
      have same : hook.closeCurrent.starts = hook.starts := by
        rcases opened.closes with same | ⟨streaming, _⟩
        · exact same
        · rw [requesting] at streaming
          contradiction
      have calls : (hook.connect front.length).starts = front ++ [{ start with phase := .streaming false }] :=
        setPhase_starts (same.trans opened.calls) _
      have flag : (hook.connect front.length).isStreaming = hook.isStreaming := closeCurrent_isStreaming
      have mounted : (hook.connect front.length).mounted = hook.mounted := closeCurrent_mounted
      have held := opened.held
      rw [Held, requesting] at held
      refine .inr (opened.continues calls nofun (flag.trans opened.flag) ?_ ?_ ?_)
      · simpa using opened.others
      · simpa using opened.active
      · rw [Held, connect_store, mounted]
        exact held
    · exact opened.stays
  · rename_i error
    split
    · obtain rfl : _ = front.length := Option.some.inj own
      exact opened.handles fun aborted => absurd aborted calm
    · exact opened.stays
  · split
    · rename_i streaming
      exact opened.streams (fun other different => Function.update_of_ne different ..) rfl streaming
    · exact opened.stays
  · split
    · rename_i streaming
      exact opened.streams (fun _ _ => rfl) rfl streaming
    · exact opened.stays
  · split
    · rename_i streaming
      exact opened.streams (fun _ _ => rfl) rfl streaming
    · exact opened.stays
  · split
    · rename_i streaming
      exact opened.streams (fun _ _ => rfl) rfl streaming
    · exact opened.stays
  · split
    · exact .inr (opened.continues (setPhase_starts opened.calls _) nofun opened.flag opened.others opened.active
        trivial)
    · exact opened.stays
  · split
    · rename_i streaming
      refine opened.handles fun aborted => ?_
      obtain rfl : _ = front.length := Option.some.inj own
      have closed := calm aborted start found
      have held := opened.held
      rcases streaming with running | shut
      · exact absurd running closed
      · rwa [Held, shut] at held
    · exact opened.stays
  · exact opened.answers _
  · exact opened.stays

theorem unmounts (opened : hook.Open front start) (mounted : hook.mounted = true) : Goes hook.unmount front := by
  have held := opened.held
  have flag : hook.unmount.isStreaming = hook.isStreaming := closeCurrent_isStreaming
  have store : hook.unmount.store.Clean ∨ hook.store.activeStream = none ∧ hook.unmount.store = hook.store := by
    rcases opened.active with none | own
    · exact .inr ⟨none, by simp [unmount, none]⟩
    · refine .inl ?_
      rw [unmount, own]
      exact opened.discards
  have others : ∀ other ≠ start.stageId, hook.unmount.store.streamingContent other = none := by
    rcases store with clean | ⟨_, same⟩
    · exact fun other _ => clean.buffers other
    · rw [same]
      exact opened.others
  have active : hook.unmount.store.activeStream = none := by
    rcases store with clean | ⟨none, same⟩
    · exact clean.active
    · rw [same, none]
  rcases opened.closes with same | ⟨streaming, closed⟩
  · refine .inr ⟨start, same.trans opened.calls, opened.settled, opened.pending, flag.trans opened.flag, others,
      .inl active, ?_⟩
    cases phase : start.phase with
    | requesting =>
        rw [Held, phase]
        exact nofun
    | streaming closed =>
        rw [Held, phase] at held ⊢
        cases closed with
        | false => exact nofun
        | true =>
            rcases store with clean | ⟨_, same⟩
            · exact clean
            · exact same ▸ held
    | refetching | recovering =>
        rw [Held, phase] at held ⊢
        rcases store with clean | ⟨_, same⟩
        · exact clean
        · exact same ▸ held
    | confirming | reconciling | delivering | settled =>
        rw [Held, phase]
        trivial
  · rw [Held, streaming] at held
    have clean : hook.unmount.store.Clean := by
      rcases store with clean | ⟨none, _⟩
      · exact clean
      · rw [held mounted] at none
        contradiction
    exact .inr (opened.continues_clean closed nofun (flag.trans opened.flag) clean clean)

end Open

theorem Idle.closes (idle : hook.Idle) : hook.closeCurrent.starts = hook.starts := by
  rw [closeCurrent]
  split
  · refine modify_same fun other found => if_neg ?_
    rw [idle.settled other (List.mem_of_getElem? found)]
    decide
  · rfl

/-- The calls of `start` and their requests are as many as they were. -/
structure Counted (before after : StreamHook) : Prop where
  requests : after.requests = before.requests
  calls : after.starts.length = before.starts.length

theorem Counted.settle {before : StreamHook} (counted : Counted before hook) : Counted before (hook.settle call) :=
  ⟨counted.requests, (List.length_modify ..).trans counted.calls⟩

theorem Counted.setPhase {before : StreamHook} (counted : Counted before hook) :
    Counted before (hook.setPhase call phase) :=
  ⟨counted.requests, (List.length_modify ..).trans counted.calls⟩

theorem Counted.settleError {before : StreamHook} (counted : Counted before hook) (stageId : String)
    (state : StreamErrorState) : Counted before (hook.settleError stageId state) :=
  ⟨(settleError_requests _ _).trans counted.requests, (congrArg _ (settleError_starts _ _)).trans counted.calls⟩

theorem closeCurrent_counted : Counted hook hook.closeCurrent := by
  refine ⟨closeCurrent_requests, ?_⟩
  rw [closeCurrent]
  split
  · exact List.length_modify ..
  · rfl

theorem Counted.refl : Counted hook hook := ⟨rfl, rfl⟩

theorem Counted.store {before : StreamHook} (counted : Counted before hook) (store : StageStore) :
    Counted before { hook with store } := ⟨counted.requests, counted.calls⟩

theorem handleError_counted (stageId : String) (error : StreamError) :
    Counted hook (hook.handleError call stageId error) := by
  rw [handleError]
  split
  · exact Counted.refl.settle
  · split
    · exact (Counted.refl.store _).setPhase
    · split
      · exact Counted.refl.setPhase
      · exact ((Counted.refl.store _).settleError _ _).setPhase

theorem unconfirmed_counted (stageId : String) : Counted hook (hook.unconfirmed call stageId) :=
  ((Counted.refl.store _).settleError _ _).settle

theorem deliver_counted (stageId : String) (fresh : ClientStage) :
    Counted hook ((hook.deliver stageId fresh).settle call) :=
  Counted.settle ⟨rfl, rfl⟩

theorem answer_counted (fetched : Option ClientStage) : Counted hook (hook.answer call start fetched) := by
  unfold answer
  split
  · split
    · exact deliver_counted _ _
    · exact .refl
  · exact (Counted.refl.store _).settle
  · split
    · exact (Counted.refl.store _).settle
    · exact .refl
  · exact Counted.refl.settle
  · split
    · rw [reconcile]
      split
      · exact (Counted.refl.store _).settle
      · split
        · exact Counted.refl.setPhase
        · split
          · exact ((Counted.refl.store _).settleError _ _).settle
          · exact (Counted.refl.store _).settle
    · exact .refl
  · exact unconfirmed_counted _
  · split
    · exact deliver_counted _ _
    · exact .refl
  · exact unconfirmed_counted _
  · split
    · exact (Counted.refl.store _).settle
    · exact .refl
  · split
    · exact (Counted.refl.store _).settle
    · exact Counted.refl.settle
  · exact .refl

theorem ofCall_counted (event : HookEvent) : Counted hook (hook.ofCall call start event) := by
  unfold ofCall
  split
  · split
    · exact ⟨closeCurrent_counted.requests, (List.length_modify ..).trans closeCurrent_counted.calls⟩
    · exact .refl
  · split
    · exact handleError_counted _ _
    · exact .refl
  · split <;> exact ⟨rfl, rfl⟩
  · split <;> exact ⟨rfl, rfl⟩
  · split <;> exact ⟨rfl, rfl⟩
  · split <;> exact ⟨rfl, rfl⟩
  · split
    · exact Counted.setPhase ⟨rfl, rfl⟩
    · exact .refl
  · split
    · exact handleError_counted _ _
    · exact .refl
  · exact answer_counted _
  · exact .refl

theorem step_cases (hook : StreamHook) (event : HookEvent) :
    (∃ stageId action, event = .start (some stageId) action ∧ hook.step event = hook.beginStart stageId action) ∨
    (∃ call start, event.call = some call ∧ hook.starts[call]? = some start ∧
      hook.step event = hook.ofCall call start event) ∨
    (event = .unmount ∧ hook.mounted = true ∧ hook.step event = hook.unmount) ∨
    ((hook.step event).starts = hook.starts ∧ (hook.step event).requests = hook.requests ∧
      (hook.step event).isStreaming = hook.isStreaming ∧ (hook.step event).mounted = hook.mounted ∧
      ((hook.step event).store = hook.store ∨
        ∃ fresh ∈ event.served, (hook.step event).store = hook.store.setStage fresh)) := by
  cases event with
  | start stageId action =>
      cases stageId with
      | none => exact .inr (.inr (.inr ⟨rfl, rfl, rfl, rfl, .inl rfl⟩))
      | some stageId => exact .inl ⟨stageId, action, rfl, rfl⟩
  | advisory answer =>
      refine .inr (.inr (.inr ?_))
      simp only [step]
      split
      · unfold StreamHook.poll
        cases answer with
        | none => exact ⟨rfl, rfl, rfl, rfl, .inl rfl⟩
        | some fresh =>
            dsimp only
            split
            · exact ⟨rfl, rfl, rfl, rfl, .inr ⟨fresh, rfl, rfl⟩⟩
            · exact ⟨rfl, rfl, rfl, rfl, .inl rfl⟩
      · exact ⟨rfl, rfl, rfl, rfl, .inl rfl⟩
  | loaded fresh => exact .inr (.inr (.inr ⟨rfl, rfl, rfl, rfl, .inr ⟨fresh, rfl, rfl⟩⟩))
  | navigate stageId => exact .inr (.inr (.inr ⟨rfl, rfl, rfl, rfl, .inl rfl⟩))
  | unmount =>
      simp only [step]
      split
      · rename_i mounted
        exact .inr (.inr (.inl ⟨trivial, mounted, rfl⟩))
      · exact .inr (.inr (.inr ⟨rfl, rfl, rfl, rfl, .inl rfl⟩))
  | responded call | refused call _ | token call _ | reset call | progress call _ | gateFailed call _ | done call _
  | failed call _ | fetched call _ =>
      simp only [step, HookEvent.call]
      cases found : hook.starts[call]? with
      | none => exact .inr (.inr (.inr ⟨rfl, rfl, rfl, rfl, .inl rfl⟩))
      | some start => exact .inr (.inl ⟨call, start, rfl, found, rfl⟩)

theorem Goes.cases {next : StreamHook} (goes : Goes next front) :
    next.Idle ∨ ∃ front start, next.Open front start := by
  rcases goes with idle | ⟨start, opened⟩
  · exact .inl idle
  · exact .inr ⟨front, start, opened⟩

theorem Sound.begins (sound : hook.Sound) (settled : ∀ start ∈ hook.starts, start.phase = .settled) (stageId : String)
    (action : StreamAction) : (hook.beginStart stageId action).Sound := by
  have clean : hook.store.Clean := by
    rcases sound.calls with idle | ⟨front, start, opened⟩
    · exact idle.clean
    · refine absurd (settled start ?_) opened.pending
      simp [opened.calls]
  constructor
  · simp [beginStart, sound.requests, List.range_succ]
  · refine .inr ⟨hook.starts, { stageId, existing := hook.store.stages stageId }, rfl, settled, nofun, rfl, ?_,
      .inr rfl, fun _ => rfl⟩
    intro other different
    refine (Function.update_of_ne different ..).trans ?_
    cases hook.store.stages stageId <;> exact clean.buffers other

theorem Sound.step (sound : hook.Sound) {event : HookEvent} (calm : hook.Calm event) : (hook.step event).Sound := by
  rcases step_cases hook event with ⟨stageId, action, rfl, same⟩ | ⟨call, start, own, found, same⟩ |
      ⟨_, mounted, same⟩ | ⟨starts, requests, flag, mounted, store⟩
  · rw [same]
    exact sound.begins calm stageId action
  · rw [same]
    have counted := @ofCall_counted hook start call event
    refine ⟨by rw [counted.requests, counted.calls, sound.requests], ?_⟩
    by_cases settled : start.phase = .settled
    · rw [ofCall_settled settled]
      exact sound.calls
    · rcases sound.calls with idle | ⟨front, last, opened⟩
      · exact absurd (idle.settled start (List.mem_of_getElem? found)) settled
      · obtain ⟨rfl, rfl⟩ := opened.last found settled
        exact (opened.ofCall_goes own calm).cases
  · rw [same]
    have counted := @closeCurrent_counted hook
    refine ⟨(congrArg _ counted.requests).trans (sound.requests.trans (congrArg _ counted.calls.symm)), ?_⟩
    rcases sound.calls with idle | ⟨front, start, opened⟩
    · have calls : hook.unmount.starts = hook.starts := idle.closes
      refine .inl ⟨calls ▸ idle.settled, ?_⟩
      have store : hook.unmount.store = hook.store := by simp [unmount, idle.clean.active]
      exact store ▸ idle.clean
    · exact (opened.unmounts mounted).cases
  · refine ⟨by rw [requests, starts, sound.requests], ?_⟩
    have clean : hook.store.Clean → (hook.step event).store.Clean := by
      rcases store with same | ⟨fresh, _, same⟩
      · exact fun clean => same ▸ clean
      · exact fun clean => same ▸ clean.setStage fresh
    have buffers : (hook.step event).store.streamingContent = hook.store.streamingContent := by
      rcases store with same | ⟨fresh, _, same⟩ <;> rw [same]
      rfl
    have active : (hook.step event).store.activeStream = hook.store.activeStream := by
      rcases store with same | ⟨fresh, _, same⟩ <;> rw [same]
      rfl
    rcases sound.calls with idle | ⟨front, start, opened⟩
    · exact .inl ⟨starts ▸ idle.settled, clean idle.clean⟩
    · refine .inr ⟨front, start, starts.trans opened.calls, opened.settled, opened.pending, flag.trans opened.flag,
        buffers ▸ opened.others, active ▸ opened.active, ?_⟩
      have held := opened.held
      unfold Held at held ⊢
      rw [mounted, active]
      split <;> simp_all

theorem Fresh.sound (fresh : hook.Fresh) : hook.Sound where
  requests := by simp [fresh.requests, fresh.starts]
  calls := .inl ⟨by simp [fresh.starts], fresh.buffers, fresh.active⟩

theorem Sound.noneLeft (sound : hook.Sound) : hook.NoneLeft where
  buffers := by
    intro stageId free
    rcases sound.calls with idle | ⟨front, start, opened⟩
    · exact idle.clean.buffers stageId
    · refine opened.others stageId fun same => free ⟨start, ?_, same.symm, opened.pending⟩
      simp [opened.calls]
  requests := by
    intro call
    rw [sound.requests]
    exact List.nodup_iff_count_le_one.mp List.nodup_range call
  flag := by
    rintro ⟨start, member, pending⟩
    rcases sound.calls with idle | ⟨front, start, opened⟩
    · exact absurd (idle.settled start member) pending
    · exact opened.flag

theorem discard_apart {store : StageStore} {stageId other : String} (different : other ≠ stageId) :
    (store.discardStream stageId).streamingContent other = store.streamingContent other :=
  Function.update_of_ne different ..

theorem handleError_apart {stageId other : String} (different : other ≠ stageId) (error : StreamError) :
    (hook.handleError call stageId error).store.streamingContent other = hook.store.streamingContent other := by
  rw [handleError]
  split
  · rfl
  · split
    · exact discard_apart different
    · split
      · rfl
      · rw [setPhase_store, settleError_store]
        exact Function.update_of_ne different ..

theorem unconfirmed_apart {stageId other : String} (different : other ≠ stageId) :
    (hook.unconfirmed call stageId).store.streamingContent other = hook.store.streamingContent other := by
  rw [unconfirmed, settle_store, settleError_store]
  exact discard_apart different

theorem reconcile_apart {other : String} (different : other ≠ start.stageId) (message : String) (fresh : ClientStage) :
    (hook.reconcile call start message fresh).store.streamingContent other = hook.store.streamingContent other := by
  rw [reconcile]
  split
  · exact discard_apart different
  · split
    · rfl
    · split
      · rw [settle_store, settleError_store]
        exact discard_apart different
      · exact discard_apart different

theorem answer_apart {other : String} (different : other ≠ start.stageId) (fetched : Option ClientStage) :
    (hook.answer call start fetched).store.streamingContent other = hook.store.streamingContent other := by
  unfold answer
  split
  · split
    · exact discard_apart different
    · rfl
  · exact discard_apart different
  · split <;> rfl
  · rfl
  · split
    · exact reconcile_apart different _ _
    · rfl
  · exact unconfirmed_apart different
  · split
    · exact discard_apart different
    · rfl
  · exact unconfirmed_apart different
  · split <;> rfl
  · split <;> rfl
  · rfl

theorem ofCall_apart {other : String} (different : other ≠ start.stageId) (event : HookEvent) :
    (hook.ofCall call start event).store.streamingContent other = hook.store.streamingContent other := by
  unfold ofCall
  split
  · split
    · rw [connect_store]
    · rfl
  · split
    · exact handleError_apart different _
    · rfl
  · split
    · exact Function.update_of_ne different ..
    · rfl
  · split <;> rfl
  · split <;> rfl
  · split <;> rfl
  · split <;> rfl
  · split
    · exact handleError_apart different _
    · rfl
  · exact answer_apart different _
  · rfl

theorem step_ofCall {event : HookEvent} (own : event.call = some call) (found : hook.starts[call]? = some start) :
    hook.step event = hook.ofCall call start event := by
  cases event <;> simp_all [HookEvent.call, step]

theorem Sound.leavesOthers (sound : hook.Sound) (event : HookEvent) : hook.LeavesOthers event := by
  intro call own start found other different
  rw [step_ofCall own found]
  refine ⟨ofCall_apart different event, fun active => ?_⟩
  by_cases settled : start.phase = .settled
  · rw [ofCall_settled settled, active]
  · rcases sound.calls with idle | ⟨front, last, opened⟩
    · exact absurd (idle.settled start (List.mem_of_getElem? found)) settled
    · obtain ⟨rfl, rfl⟩ := opened.last found settled
      rcases opened.active with none | mine
      · rw [none] at active
        contradiction
      · rw [mine] at active
        exact absurd (Option.some.inj active).symm different

end StreamHook

end Thought2Build.Client
