import Thought2Build.Client.SseRequests

/-!
How a streamed generation settles: its caller is called back with one outcome if the server sends nothing but an
evaluation behind its `done`.
-/

namespace Thought2Build.Client

open Histories

def StreamCall.settles : StreamCall → Bool
  | .onDone _ | .onError _ | .onAbort => true
  | _ => false

def Quiet (calls : List StreamCall) : Prop := ∀ call ∈ calls, call.settles = false

theorem Quiet.append {calls : List StreamCall} {call : StreamCall} (quiet : Quiet calls)
    (silent : call.settles = false) : Quiet (calls ++ [call]) := by
  intro other member
  rcases List.mem_append.mp member with old | new
  · exact quiet other old
  · rwa [List.mem_singleton.mp new]

def Settled (calls : List StreamCall) : Prop :=
  ∃ front call back, calls = front ++ call :: back ∧ call.settles = true ∧ Quiet front ∧
    (back = [] ∨ ∃ stageId result, call = .onDone stageId ∧ back = [.onEval result])

namespace Frame

def isDone : Frame → Bool
  | .done _ => true
  | _ => false

def ends : Frame → Bool
  | .generationTerminal _ | .eval _ | .qualityGateFailed _ | .error _ | .noObject => true
  | _ => false

def mayFollow : Frame → Bool
  | .eval _ | .other | .noObject => true
  | _ => false

end Frame

/-- Behind a `done` frame nothing is dispatched but an evaluation. -/
def Orderly : Bool → List Frame → Prop
  | _, [] => True
  | done, frame :: rest =>
      (done = true → frame.mayFollow = true) ∧ (frame.ends = true ∨ Orderly (done || frame.isDone) rest)

instance Orderly.decidable : ∀ done frames, Decidable (Orderly done frames)
  | _, [] => isTrue trivial
  | done, frame :: rest =>
      have : Decidable (Orderly (done || frame.isDone) rest) := Orderly.decidable _ rest
      inferInstanceAs (Decidable ((_ → _) ∧ (_ ∨ _)))

namespace StreamClient

variable {runtime : StreamRuntime} {reacts : Reaction} {client : StreamClient}

@[simp] theorem call_calls (call : StreamCall) : (client.call reacts call).calls = client.calls ++ [call] := rfl

@[simp] theorem call_doneReceived (call : StreamCall) :
    (client.call reacts call).doneReceived = client.doneReceived := rfl

@[simp] theorem finish_phase : (client.finish reacts).phase = .finished :=
  congrArg RequestState.phase (finish_requests reacts client)

def Unsettled (client : StreamClient) : Prop :=
  client.settled = false ∧ client.doneReceived = false ∧ Quiet client.calls

def Done (client : StreamClient) : Prop :=
  client.settled = true ∧ client.doneReceived = true ∧
    ∃ front stageId, client.calls = front ++ [.onDone stageId] ∧ Quiet front

def Live (client : StreamClient) : Prop := client.Unsettled ∨ client.Done

def Over (client : StreamClient) : Prop := client.settled = true ∧ Settled client.calls

theorem Unsettled.call (unsettled : client.Unsettled) {call : StreamCall} (silent : call.settles = false) :
    (client.call reacts call).Unsettled :=
  ⟨unsettled.1, unsettled.2.1, unsettled.2.2.append silent⟩

theorem Unsettled.settleError (unsettled : client.Unsettled) (error : StreamError) :
    (client.settleError reacts error).Over :=
  ⟨rfl, client.calls, .onError error, [], rfl, rfl, unsettled.2.2, Or.inl rfl⟩

theorem Unsettled.settleDone (unsettled : client.Unsettled) (stageId : Option Value) :
    (settleDone reacts { client with doneReceived := true } stageId).Done :=
  ⟨rfl, rfl, client.calls, stageId, rfl, unsettled.2.2⟩

theorem Done.over (done : client.Done) : client.Over := by
  obtain ⟨settled, _, front, stageId, calls, quiet⟩ := done
  exact ⟨settled, front, .onDone stageId, [], calls, rfl, quiet, Or.inl rfl⟩

theorem Done.eval (done : client.Done) (result : Option Value) : (client.call reacts (.onEval result)).Over := by
  obtain ⟨settled, _, front, stageId, calls, quiet⟩ := done
  refine ⟨settled, front, .onDone stageId, [.onEval result], ?_, rfl, quiet, Or.inr ⟨stageId, result, rfl, rfl⟩⟩
  rw [call_calls, calls, List.append_assoc]
  rfl

theorem Over.close (settled : client.Over) : client.close.Over := settled

def Kept (client : StreamClient) : Prop :=
  match client.phase with
  | .finished => Settled client.calls
  | .reading => client.Live
  | _ => client.Unsettled

theorem kept_finish (settles : client.Unsettled ∨ client.Over) : (client.finish reacts).Kept := by
  rw [Kept, finish_phase, finish]
  rcases settles with ⟨settled, _, quiet⟩ | ⟨settled, calls⟩
  · rw [if_neg (by simp [settled])]
    exact ⟨client.calls, .onAbort, [], rfl, rfl, quiet, Or.inl rfl⟩
  · rw [if_pos settled]
    exact calls

theorem Live.finish (live : client.Live) : (client.finish reacts).Kept :=
  StreamClient.kept_finish (live.imp_right Done.over)

theorem Unsettled.retry (unsettled : client.Unsettled) : (client.retry reacts).Kept := by
  rw [StreamClient.retry]
  split
  · exact kept_finish (Or.inl unsettled)
  · split
    · exact unsettled
    · exact kept_finish (Or.inr (unsettled.settleError _))

theorem Live.caught (live : client.Live) (error : StreamError) : (client.caught reacts error).Kept := by
  rw [StreamClient.caught]
  rcases live with unsettled | done
  · have early : ¬client.doneReceived = true := by simp [unsettled.2.1]
    rw [if_neg early, if_neg early]
    split
    · exact kept_finish (Or.inl unsettled)
    · split
      · exact @Unsettled.retry reacts { client with lastError := some error } unsettled
      · exact kept_finish (Or.inr (unsettled.settleError _).close)
  · split
    all_goals
      rw [if_pos done.2.1]
      exact kept_finish (Or.inr (done.eval none))

theorem Live.afterLoop (live : client.Live) : (client.afterLoop reacts).Kept := by
  rw [StreamClient.afterLoop]
  split
  · exact live.finish
  · rcases live with unsettled | done
    · rw [if_neg (by simp [unsettled.2.1])]
      exact kept_finish (Or.inr (unsettled.settleError _).close)
    · rw [if_pos done.2.1]
      exact kept_finish (Or.inr (done.eval none))

theorem Unsettled.respond (unsettled : client.Unsettled) (status : Nat) (hasBody : Bool) :
    (client.respond reacts status hasBody).Kept := by
  rw [StreamClient.respond]
  split
  · exact kept_finish (Or.inr (unsettled.settleError _).close)
  · split
    · exact @Unsettled.retry reacts
        { client with lastError := some (knownError "rate_limit_exceeded") } unsettled
    · split
      · exact kept_finish (Or.inr (unsettled.settleError _).close)
      · split
        · exact Live.afterLoop (Or.inl unsettled)
        · exact Or.inl unsettled

def Lands : StreamClient × Flow → Prop
  | (next, .returned) => next.Unsettled ∨ next.Over
  | (next, _) => next.Live

theorem Live.dispatch (live : client.Live) {frame : Frame}
    (orderly : client.doneReceived = true → frame.mayFollow = true) :
    Lands (client.dispatch runtime reacts frame) := by
  rcases live with unsettled | done
  · cases frame with
    | progress | generationStarted | token => exact Or.inl (unsettled.call rfl)
    | streamReset => exact Or.inl (unsettled.call rfl)
    | generationTerminal info =>
        have called : (client.call reacts (.onGenerationTerminal info)).Unsettled := unsettled.call rfl
        cases info with
        | null => exact Or.inl called
        | bool | number | text | array | object => exact Or.inr (called.settleError _).close
    | eval result => exact Or.inl (@Unsettled.call reacts client unsettled (.onEval (some result)) rfl)
    | done stageId => exact Or.inr (unsettled.settleDone stageId)
    | qualityGateFailed info =>
        have called : (client.call reacts (.onQualityGateFailed info)).Unsettled := unsettled.call rfl
        exact Or.inr (called.settleError _).close
    | error error => exact Or.inr (unsettled.settleError error).close
    | other | noObject => exact Or.inl unsettled
  · cases frame with
    | eval result => exact Or.inr (done.eval (some result)).close
    | other | noObject => exact Or.inr done
    | _ => exact absurd (orderly done.2.1) Bool.false_ne_true

theorem dispatch_goesOn {frame : Frame} {next : StreamClient}
    (goesOn : client.dispatch runtime reacts frame = (next, .goesOn)) :
    frame.ends = false ∧ next.doneReceived = (client.doneReceived || frame.isDone) ∧ next.phase = client.phase := by
  cases frame with
  | generationTerminal info => cases info <;> simp [StreamClient.dispatch] at goesOn
  | done stageId =>
      obtain rfl := (Prod.mk.inj goesOn).1
      exact ⟨rfl, by simp [settleDone, Frame.isDone], rfl⟩
  | eval | qualityGateFailed | error | noObject => simp [StreamClient.dispatch] at goesOn
  | _ =>
      obtain rfl := (Prod.mk.inj goesOn).1
      exact ⟨rfl, by simp [Frame.isDone], rfl⟩

theorem Live.dispatchAll (live : client.Live) {frames : List Frame} (orderly : Orderly client.doneReceived frames) :
    Lands (client.dispatchAll runtime reacts frames) ∧
      ∀ next, client.dispatchAll runtime reacts frames = (next, .goesOn) → next.phase = client.phase := by
  induction frames generalizing client with
  | nil => exact ⟨live, fun next goesOn => congrArg phase (Prod.mk.inj goesOn).1.symm⟩
  | cons frame rest ih =>
      obtain ⟨follows, later⟩ := orderly
      have lands := @Live.dispatch runtime reacts client live frame follows
      rw [StreamClient.dispatchAll]
      split
      · rename_i next goesOn
        rw [goesOn] at lands
        obtain ⟨open', received, phase⟩ := dispatch_goesOn goesOn
        rw [← received] at later
        obtain ⟨landed, same⟩ := ih lands (later.resolve_left (by simp [open']))
        exact ⟨landed, fun last reached => (same last reached).trans phase⟩
      · rename_i next returned
        rw [returned] at lands
        exact ⟨lands, fun last reached => by simp at reached⟩
      · rename_i next threw
        rw [threw] at lands
        exact ⟨lands, fun last reached => by simp at reached⟩

def OrderlyEvent (runtime : StreamRuntime) (client : StreamClient) : StreamEvent → Prop
  | .chunk text =>
      client.phase = .reading → client.closed = false →
        ∀ complete ∈ (splitLast (client.buffer ++ text)).map Prod.fst,
          Orderly client.doneReceived (runtime.frames complete)
  | _ => True

instance (event : StreamEvent) : Decidable (OrderlyEvent runtime client event) :=
  match event with
  | .chunk _ => inferInstanceAs (Decidable (_ → _))
  | .headers _ | .response _ _ | .fetchFails _ | .refreshed _ | .streamEnds | .readFails _ | .timer | .close =>
      isTrue trivial

theorem Live.read (live : client.Live) (reads : client.phase = .reading) {text : List Char}
    (orderly : OrderlyEvent runtime client (.chunk text)) : (client.read runtime reacts text).Kept := by
  have reading : ∀ {other : StreamClient}, other.Live → other.phase = .reading → other.Kept := by
    intro other live phase
    rwa [Kept, phase]
  rw [StreamClient.read]
  split
  · exact live.afterLoop
  · rename_i open'
    split
    · exact reading live reads
    · rename_i complete buffer split'
      have inOrder : Orderly client.doneReceived (runtime.frames complete) :=
        orderly reads (by simpa using open') complete (by simp [split'])
      obtain ⟨lands, same⟩ :=
        @Live.dispatchAll runtime reacts { client with buffer } live (runtime.frames complete) inOrder
      split
      all_goals rename_i next flow; rw [flow] at lands
      · split
        · exact Live.afterLoop lands
        · exact reading lands ((same next flow).trans reads)
      · exact kept_finish lands
      · exact Live.caught lands _

theorem Kept.step (kept : client.Kept) {event : StreamEvent} (orderly : OrderlyEvent runtime client event) :
    (client.step runtime reacts event).Kept := by
  cases event with
  | close => exact kept
  | headers thrown =>
      cases phase : client.phase with
      | headers again =>
          have unsettled : client.Unsettled := by rwa [Kept, phase] at kept
          cases thrown with
          | some error =>
              simp only [StreamClient.step, phase]
              exact Live.caught (Or.inl unsettled) error
          | none =>
              simp only [StreamClient.step, phase]
              split
              · exact Live.caught (Or.inl unsettled) abortError
              · exact unsettled
      | _ => simpa [StreamClient.step, phase] using kept
  | response status hasBody =>
      cases phase : client.phase with
      | fetching again =>
          have unsettled : client.Unsettled := by rwa [Kept, phase] at kept
          simp only [StreamClient.step, phase]
          split
          · exact unsettled
          · exact @Unsettled.respond reacts
              { client with phase := .fetching again, responseReceived := true, posts := some status :: client.posts.tail }
              unsettled status hasBody
      | _ => simpa [StreamClient.step, phase] using kept
  | fetchFails error =>
      cases phase : client.phase with
      | fetching again =>
          have unsettled : client.Unsettled := by rwa [Kept, phase] at kept
          simp only [StreamClient.step, phase]
          exact Live.caught (Or.inl unsettled) error
      | _ => simpa [StreamClient.step, phase] using kept
  | refreshed outcome =>
      cases phase : client.phase with
      | refreshing =>
          have unsettled : client.Unsettled := by rwa [Kept, phase] at kept
          cases outcome with
          | token =>
              simp only [StreamClient.step, phase]
              exact unsettled
          | expired =>
              simp only [StreamClient.step, phase]
              exact kept_finish (Or.inr (unsettled.settleError _).close)
          | nothing =>
              simp only [StreamClient.step, phase]
              exact unsettled.respond 401 false
          | threw error =>
              simp only [StreamClient.step, phase]
              exact Live.caught (Or.inl unsettled) error
      | _ => simpa [StreamClient.step, phase] using kept
  | chunk text =>
      cases phase : client.phase with
      | reading =>
          have live : client.Live := by rwa [Kept, phase] at kept
          simp only [StreamClient.step, phase]
          exact live.read phase orderly
      | _ => simpa [StreamClient.step, phase] using kept
  | streamEnds =>
      cases phase : client.phase with
      | reading =>
          have live : client.Live := by rwa [Kept, phase] at kept
          simp only [StreamClient.step, phase]
          exact live.afterLoop
      | _ => simpa [StreamClient.step, phase] using kept
  | readFails error =>
      cases phase : client.phase with
      | reading =>
          have live : client.Live := by rwa [Kept, phase] at kept
          simp only [StreamClient.step, phase]
          exact live.caught error
      | _ => simpa [StreamClient.step, phase] using kept
  | timer =>
      cases phase : client.phase with
      | waiting =>
          have unsettled : client.Unsettled := by rwa [Kept, phase] at kept
          simp only [StreamClient.step, phase]
          split
          · exact kept_finish (Or.inl unsettled)
          · exact ⟨unsettled.1, rfl, unsettled.2.2⟩
      | _ => simpa [StreamClient.step, phase] using kept

def Pending (calls : List StreamCall) : Prop :=
  Quiet calls ∨ ∃ front stageId, calls = front ++ [.onDone stageId] ∧ Quiet front

theorem Kept.pending (kept : client.Kept) (open' : client.phase ≠ .finished) : Pending client.calls := by
  rw [Kept] at kept
  split at kept
  · rename_i finished
    exact absurd finished open'
  · exact kept.imp (fun unsettled => unsettled.2.2) fun done => done.2.2
  · exact Or.inl kept.2.2

theorem kept_along {events : List StreamEvent}
    (orderly : Along (step runtime reacts) (OrderlyEvent runtime) {} events) :
    (play (step runtime reacts) {} events).Kept :=
  @Along.invariant _ _ _ _ _ _ Kept (fun _ _ kept orderly => kept.step orderly) orderly ⟨rfl, rfl, nofun⟩

/-- Whatever the server sends, a request is repeated only where it may be, and the requests come to an end. If behind
`done` it sends nothing but an evaluation, the caller hears of one outcome. -/
theorem connection_settles (runtime : StreamRuntime) (reacts : Reaction) (events : List StreamEvent) :
    (play (step runtime reacts) {} events).posts.length ≤ 2 * (maxRetries + 1) ∧
    (∀ post ∈ (play (step runtime reacts) {} events).posts.tail, MayRepeat post) ∧
    (patience ≤ answers runtime reacts events → (play (step runtime reacts) {} events).phase = .finished) ∧
    (Along (step runtime reacts) (OrderlyEvent runtime) {} events →
      ((play (step runtime reacts) {} events).phase = .finished →
        Settled (play (step runtime reacts) {} events).calls) ∧
      ((play (step runtime reacts) {} events).phase ≠ .finished →
        Pending (play (step runtime reacts) {} events).calls)) := by
  have sound := @requests_sound runtime reacts events
  refine ⟨?_, sound.earlier, finishes, ?_⟩
  · have count := sound.count
    have most := StreamPhase.sent_le (play (step runtime reacts) {} events).requests.phase
    have attempts := sound.attempts
    have same : (play (step runtime reacts) {} events).requests.posts = (play (step runtime reacts) {} events).posts := rfl
    rw [same] at count
    omega
  · intro orderly
    have kept := kept_along orderly
    refine ⟨fun finished => ?_, kept.pending⟩
    rwa [Kept, finished] at kept

/-! The caller hears of the evaluation behind `done`, so an outcome is not always the last it hears of. -/

def sampleRuntime : StreamRuntime where
  parse text :=
    if text = "\x7b\"done\":true\x7d".toList then some (.object [("done", .bool true)])
    else if text = "\x7b\"eval\":null\x7d".toList then some (.object [("eval", .null)])
    else none
  truthy
    | .bool value => value
    | _ => true
  toText _ := ""

def evaluatedStream : List StreamEvent :=
  [.headers none, .response 200 true,
    .chunk "data: \x7b\"done\":true\x7d\n\ndata: \x7b\"eval\":null\x7d\n\n".toList]

def SettledLast (calls : List StreamCall) : Prop :=
  ∃ front call, calls = front ++ [call] ∧ call.settles = true ∧ Quiet front

theorem SettledLast.getLast {calls : List StreamCall} (last : SettledLast calls) :
    calls.getLast?.map StreamCall.settles = some true := by
  obtain ⟨front, call, rfl, settles, _⟩ := last
  simp [settles]

theorem evaluated_connection :
    (play (step sampleRuntime fun _ => false) {} evaluatedStream).phase = .finished ∧
    ¬ SettledLast (play (step sampleRuntime fun _ => false) {} evaluatedStream).calls := by
  refine ⟨by decide, fun last => ?_⟩
  have settles := last.getLast
  revert settles
  decide

theorem connection_settles_evaluated :
    Along (step sampleRuntime fun _ => false) (OrderlyEvent sampleRuntime) {} evaluatedStream ∧
    Settled (play (step sampleRuntime fun _ => false) {} evaluatedStream).calls := by
  have orderly : Along (step sampleRuntime fun _ => false) (OrderlyEvent sampleRuntime) {} evaluatedStream := by
    decide
  refine ⟨orderly, ?_⟩
  exact ((connection_settles sampleRuntime (fun _ => false) evaluatedStream).2.2.2 orderly).1 (by decide)

end StreamClient

end Thought2Build.Client
