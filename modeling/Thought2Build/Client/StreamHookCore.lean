import Mathlib.Logic.Function.Basic
import Thought2Build.Client.SseCore
import Thought2Build.Pipeline.StageCore

/-!
The hook that streams a generation into the editor. A step is what runs between two awaits: a call of `start`, an
answer that one waits for, a callback of its connection, or something that happens around it. Left out is what the
hook shows besides its error (`generation`, `terminal`, `isStopping`).
-/

namespace Thought2Build.Client

open Function (update)
open Pipeline (StageStatus GateStatus)

/-! The store -/

structure GateInfo where
  status : GateStatus
  findings : Option (List String) := none

structure ClientStage where
  id : String
  content : Option String
  status : StageStatus := .draft
  currentVersion : Nat := 0
  qualityGate : Option GateInfo := none
  generationStartedAt : Option String := none
  generationAction : Option String := none

/-- A `GenerationProgress`, of which nothing is read here -/
abbrev StreamProgress := String

structure StageStore where
  stages : String → Option ClientStage := fun _ => none
  streamingContent : String → Option String := fun _ => none
  activeStream : Option String := none
  qualityGate : String → Option GateInfo := fun _ => none
  streamProgress : String → Option StreamProgress := fun _ => none
  pendingReset : String → Bool := fun _ => false

def blockedGate (stage : ClientStage) : Option GateInfo := stage.qualityGate.filter (·.status = .blocked)

namespace StageStore

variable (store : StageStore) (stageId : String)

def setStage (stage : ClientStage) : StageStore :=
  { store with
    stages := update store.stages stage.id (some stage)
    qualityGate := update store.qualityGate stage.id (blockedGate stage) }

def appendToken (token : String) : StageStore :=
  let base := if store.pendingReset stageId then "" else (store.streamingContent stageId).getD ""
  { store with
    streamingContent := update store.streamingContent stageId (some (base ++ token))
    pendingReset := update store.pendingReset stageId false }

def startStream : StageStore :=
  { store with
    activeStream := some stageId
    streamingContent := update store.streamingContent stageId (some "")
    qualityGate := update store.qualityGate stageId none
    streamProgress := update store.streamProgress stageId none
    pendingReset := update store.pendingReset stageId false }

def setStreamProgress (progress : StreamProgress) : StageStore :=
  { store with streamProgress := update store.streamProgress stageId (some progress) }

def clearStreamContent : StageStore :=
  { store with pendingReset := update store.pendingReset stageId true }

def discardStream : StageStore :=
  { store with
    streamingContent := update store.streamingContent stageId none
    streamProgress := update store.streamProgress stageId none
    pendingReset := update store.pendingReset stageId false
    activeStream := if store.activeStream = some stageId then none else store.activeStream }

def setQualityGate (info : GateInfo) : StageStore :=
  { store with qualityGate := update store.qualityGate stageId (some { info with status := .blocked }) }

def keptContent (accumulated content : Option String) : Option String :=
  match accumulated with
  | some text => if text = "" then content else some text
  | none => content

def finaliseStream : StageStore :=
  { store with
    activeStream := none
    streamingContent := update store.streamingContent stageId none
    streamProgress := update store.streamProgress stageId none
    pendingReset := update store.pendingReset stageId false
    stages := match store.stages stageId with
      | some existing => update store.stages stageId
          (some { existing with content := keptContent (store.streamingContent stageId) existing.content })
      | none => store.stages }

end StageStore

/-! The hook -/

inductive StreamAction where
  | generate | regenerate | regenerateGaps | resume
  deriving DecidableEq

inductive StartPhase where
  | requesting
  | streaming (closed : Bool)
  /-- `runDoneTail` of the stage that `done` names -/
  | confirming (settledStageId : String)
  | refetching
  | reconciling (message : String)
  /-- `runDoneTail` after an interruption in which the work landed -/
  | delivering
  | recovering
  | settled
  deriving DecidableEq

structure StreamStart where
  stageId : String
  existing : Option ClientStage
  phase : StartPhase := .requesting

structure StreamErrorState where
  code : String
  message : String

structure AdvisoryPoll where
  stageId : String
  baseline : Nat
  attempts : Nat

def advisoryPollAttempts : Nat := 3

structure StreamHook where
  store : StageStore := {}
  currentStageId : Option String := none
  isStreaming : Bool := false
  error : Option StreamErrorState := none
  streamRef : Option Nat := none
  advisoryPoll : Option AdvisoryPoll := none
  mounted : Bool := true
  /-- The calls of `start` -/
  starts : List StreamStart := []
  requests : List (Nat × StreamAction) := []

inductive HookEvent where
  | start (stageId : Option String) (action : StreamAction)
  | responded (call : Nat)
  | refused (call : Nat) (error : StreamError)
  | token (call : Nat) (token : String)
  | reset (call : Nat)
  | progress (call : Nat) (progress : StreamProgress)
  | gateFailed (call : Nat) (info : GateInfo)
  | done (call : Nat) (settledStageId : String)
  /-- `onError`, or `onAbort` with the error that it makes -/
  | failed (call : Nat) (error : StreamError)
  /-- `getStage` answers, or fails. -/
  | fetched (call : Nat) (answer : Option ClientStage)
  | advisory (answer : Option ClientStage)
  /-- Another component puts a stage into the store that the server sent. -/
  | loaded (fresh : ClientStage)
  | navigate (stageId : Option String)
  | unmount

def streamAborted : StreamError := { code := some "stream_aborted", message := "Generation stream was cancelled." }

def durableCodes : List String :=
  ["generation_cancelled", "generation_timed_out", "generation_failed", "generation_blocked"]

def reconciledCodes : List String := ["stream_interrupted", "generation_in_progress"]

def unconfirmedMessage : String :=
  "We couldn't confirm whether the generation finished. " ++ "Refresh or try again."

def advisoryFindings (stage : ClientStage) : Nat :=
  match stage.qualityGate with
  | some gate => if gate.status = .advisory then (gate.findings.map List.length).getD 0 else 0
  | none => 0

namespace StreamHook

variable (hook : StreamHook)

def setPhase (call : Nat) (phase : StartPhase) : StreamHook :=
  { hook with starts := hook.starts.modify call fun start => { start with phase } }

def closeStream (call : Nat) : StreamHook :=
  { hook with starts := hook.starts.modify call fun start =>
      if start.phase = .streaming false then { start with phase := .streaming true } else start }

def closeCurrent : StreamHook :=
  match hook.streamRef with
  | some call => hook.closeStream call
  | none => hook

def dropConnection (call : Nat) : StreamHook :=
  { hook with streamRef := if hook.streamRef = some call then none else hook.streamRef }

def settle (call : Nat) : StreamHook :=
  { (hook.dropConnection call).setPhase call .settled with isStreaming := false }

def settleError (stageId : String) (state : StreamErrorState) : StreamHook :=
  if hook.currentStageId = some stageId then { hook with error := some state } else hook

def beginStart (stageId : String) (action : StreamAction) : StreamHook :=
  let existing := hook.store.stages stageId
  let shown := match existing with
    | some stage => hook.store.setStage
        { stage with status := .inProgress, generationStartedAt := none, generationAction := none }
    | none => hook.store
  { hook with
    store := shown.startStream stageId
    isStreaming := true
    error := none
    advisoryPoll := none
    starts := hook.starts ++ [{ stageId, existing }]
    requests := hook.requests ++ [(hook.starts.length, action)] }

def connect (call : Nat) : StreamHook :=
  { hook.closeCurrent.setPhase call (.streaming false) with streamRef := some call }

def deliver (stageId : String) (fresh : ClientStage) : StreamHook :=
  { hook with
    store := (hook.store.discardStream stageId).setStage fresh
    advisoryPoll := some { stageId := fresh.id, baseline := advisoryFindings fresh, attempts := advisoryPollAttempts } }

def handleError (call : Nat) (stageId : String) (error : StreamError) : StreamHook :=
  let code := error.code.getD "internal_error"
  if code = "stream_aborted" then hook.settle call
  else if code ∈ durableCodes then
    { hook with store := hook.store.discardStream stageId }.setPhase call .refetching
  else if code ∈ reconciledCodes then hook.setPhase call (.reconciling error.message)
  else
    ({ hook with store := hook.store.finaliseStream stageId }.settleError stageId
      { code, message := error.message }).setPhase call .recovering

def reconcile (call : Nat) (start : StreamStart) (message : String) (fresh : ClientStage) : StreamHook :=
  let existingVersion : Int := (start.existing.map fun stage => (stage.currentVersion : Int)).getD (-1)
  let replaced : StreamHook := { hook with store := (hook.store.discardStream start.stageId).setStage fresh }
  if fresh.status = .inProgress then replaced.settle call
  else if existingVersion < fresh.currentVersion then hook.setPhase call .delivering
  else if fresh.status = .draft ∨ fresh.status = .stale then
    (replaced.settleError start.stageId { code := "stream_interrupted", message }).settle call
  else replaced.settle call

def unconfirmed (call : Nat) (stageId : String) : StreamHook :=
  ({ hook with store := hook.store.discardStream stageId }.settleError stageId
    { code := "stream_interrupted", message := unconfirmedMessage }).settle call

def answer (call : Nat) (start : StreamStart) (fetched : Option ClientStage) : StreamHook :=
  match start.phase, fetched with
  | .confirming settledStageId, some fresh =>
      if fresh.id = settledStageId then (hook.deliver start.stageId fresh).settle call else hook
  | .confirming _, none =>
      { hook with store := hook.store.discardStream start.stageId }.settle call
  | .refetching, some fresh =>
      if fresh.id = start.stageId then { hook with store := hook.store.setStage fresh }.settle call else hook
  | .refetching, none => hook.settle call
  | .reconciling message, some fresh =>
      if fresh.id = start.stageId then hook.reconcile call start message fresh else hook
  | .reconciling _, none => hook.unconfirmed call start.stageId
  | .delivering, some fresh =>
      if fresh.id = start.stageId then (hook.deliver start.stageId fresh).settle call else hook
  | .delivering, none => hook.unconfirmed call start.stageId
  | .recovering, some fresh =>
      if fresh.id = start.stageId then { hook with store := hook.store.setStage fresh }.settle call else hook
  | .recovering, none =>
      match start.existing with
      | some existing => { hook with store := hook.store.setStage existing }.settle call
      | none => hook.settle call
  | _, _ => hook

def poll (poll : AdvisoryPoll) (answer : Option ClientStage) : StreamHook :=
  let next := if poll.attempts ≤ 1 then none else some { poll with attempts := poll.attempts - 1 }
  match answer with
  | some fresh =>
      if fresh.id = poll.stageId then
        { hook with
          store := hook.store.setStage fresh
          advisoryPoll := if poll.baseline < advisoryFindings fresh then none else next }
      else hook
  | none => { hook with advisoryPoll := next }

def unmount : StreamHook :=
  let closed := hook.closeCurrent
  { closed with
    store := match hook.store.activeStream with
      | some active => hook.store.discardStream active
      | none => hook.store
    advisoryPoll := none
    mounted := false }

def ofCall (call : Nat) (start : StreamStart) : HookEvent → StreamHook
  | .responded _ => if start.phase = .requesting then hook.connect call else hook
  | .refused _ error => if start.phase = .requesting then hook.handleError call start.stageId error else hook
  | .token _ token =>
      if start.phase = .streaming false then { hook with store := hook.store.appendToken start.stageId token } else hook
  | .reset _ =>
      if start.phase = .streaming false then { hook with store := hook.store.clearStreamContent start.stageId }
      else hook
  | .progress _ progress =>
      if start.phase = .streaming false then
        { hook with store := hook.store.setStreamProgress start.stageId progress }
      else hook
  | .gateFailed _ info =>
      if start.phase = .streaming false then { hook with store := hook.store.setQualityGate start.stageId info }
      else hook
  | .done _ settledStageId =>
      if start.phase = .streaming false then (hook.dropConnection call).setPhase call (.confirming settledStageId)
      else hook
  | .failed _ error =>
      if start.phase = .streaming false ∨ start.phase = .streaming true then hook.handleError call start.stageId error
      else hook
  | .fetched _ fetched => hook.answer call start fetched
  | _ => hook

end StreamHook

namespace HookEvent

def call : HookEvent → Option Nat
  | responded call | refused call _ | token call _ | reset call | progress call _ | gateFailed call _ | done call _
  | failed call _ | fetched call _ => some call
  | _ => none

def served : HookEvent → Option ClientStage
  | fetched _ answer | advisory answer => answer
  | loaded fresh => some fresh
  | _ => none

end HookEvent

namespace StreamHook

def step (hook : StreamHook) (event : HookEvent) : StreamHook :=
  match event with
  | .start (some stageId) action => hook.beginStart stageId action
  | .start none _ => hook
  | .advisory answer =>
      match hook.advisoryPoll with
      | some poll => hook.poll poll answer
      | none => hook
  | .loaded fresh => { hook with store := hook.store.setStage fresh }
  | .navigate stageId => { hook with currentStageId := stageId, error := none }
  | .unmount => if hook.mounted then hook.unmount else hook
  | event =>
      match event.call with
      | some call =>
          match hook.starts[call]? with
          | some start => hook.ofCall call start event
          | none => hook
      | none => hook

/-! What the editor is promised -/

def Busy (hook : StreamHook) (stageId : String) : Prop :=
  ∃ start ∈ hook.starts, start.stageId = stageId ∧ start.phase ≠ .settled

structure NoneLeft (hook : StreamHook) : Prop where
  buffers : ∀ stageId, ¬hook.Busy stageId → hook.store.streamingContent stageId = none
  requests : ∀ call, (hook.requests.map (·.1)).count call ≤ 1
  flag : (∃ start ∈ hook.starts, start.phase ≠ .settled) → hook.isStreaming = true

def LeavesOthers (hook : StreamHook) (event : HookEvent) : Prop :=
  ∀ call ∈ event.call, ∀ start ∈ hook.starts[call]?, ∀ other ≠ start.stageId,
    (hook.step event).store.streamingContent other = hook.store.streamingContent other ∧
      (hook.store.activeStream = some other → (hook.step event).store.activeStream = some other)

/-- A call starts when the others have settled, only a connection that was closed fails as aborted, and a stage that
cannot be fetched after an error was there when the call started. -/
def Calm (hook : StreamHook) : HookEvent → Prop
  | .start _ _ => ∀ start ∈ hook.starts, start.phase = .settled
  | .refused _ error => error.code ≠ some "stream_aborted"
  | .failed call error => error.code = some "stream_aborted" →
      ∀ start ∈ hook.starts[call]?, start.phase ≠ .streaming false
  | .fetched call none => ∀ start ∈ hook.starts[call]?, start.phase = .recovering → start.existing.isSome
  | _ => True

structure Fresh (hook : StreamHook) : Prop where
  starts : hook.starts = []
  requests : hook.requests = []
  streamRef : hook.streamRef = none
  mounted : hook.mounted = true
  buffers : ∀ stageId, hook.store.streamingContent stageId = none
  active : hook.store.activeStream = none
  keyed : ∀ stageId, ∀ stage ∈ hook.store.stages stageId, stage.id = stageId

end StreamHook

end Thought2Build.Client
