import Thought2Build.Library.JsonText

/-!
The connection of a streamed generation. A step is what runs between two awaits; the caller may close the connection
at any await and in any of its callbacks, which return. How long a retry waits is left out.
-/

namespace Thought2Build.Client

/-- A value of `JSON.parse` -/
abbrev Value := Json String

namespace Value

def fields : Value → Option (List (String × Value))
  | .object members => some members
  | .array _ => some []
  | _ => none

def field (value : Value) (key : String) : Option Value := value.fields.bind (·.lookup key)

end Value

structure StreamRuntime where
  parse : List Char → Option Value
  /-- `Boolean(value)` -/
  truthy : Value → Bool
  /-- `String(value)`, also of `undefined` -/
  toText : Option Value → String

structure StreamError where
  code : Option String
  message : String
  diagnosticCode : Option Value := none

inductive StreamCall where
  | onToken (token : Value)
  | onDone (stageId : Option Value)
  | onError (error : StreamError)
  /-- `none` is `null`. -/
  | onEval (result : Option Value)
  | onQualityGateFailed (info : Value)
  | onProgress (progress : Value)
  | onGenerationStarted (info : Value)
  | onGenerationTerminal (info : Value)
  | onReset
  | onAbort

/-! Errors -/

def streamErrorMessages : List (String × String) := [
  ("stage_not_generatable",
    "This stage is already complete. Use rollback or edit the draft before generating again."),
  ("dependency_not_finalised", "Finish the previous stage before generating this one."),
  ("rate_limit_exceeded", "Generation is temporarily busy. Please try again in a moment."),
  ("security_check_failed", "Generation stopped because the output did not pass safety checks."),
  ("generation_unavailable", "AI generation is temporarily unavailable. Please try again."),
  ("generation_timeout",
    "Generation timed out before this stage finished. Your workspace is safe. Try again; long stages may need another run."),
  ("insufficient_credits", "You need more credits before generating this stage."),
  ("stream_interrupted",
    "The connection dropped before this generation finished. Your credit is safe — try again if it didn't complete."),
  ("generation_in_progress", "This stage is still generating. Reconnecting to it…"),
  ("stage_conflict",
    "The harness changed while this patch was generating. Review the latest version and regenerate the remaining coverage gaps."),
  ("quality_gate_failed",
    "Generation was held back by the quality gate. Review the findings below, then regenerate or override to continue."),
  ("internal_error", "Something went wrong while generating. Please try again.")]

def knownError (code : String) : StreamError :=
  { code := some code, message := (streamErrorMessages.lookup code).getD code }

def sessionExpiredError : StreamError :=
  { code := some "session_expired", message := "Your session has expired. Please sign in again." }

def abortError : StreamError := { code := none, message := "This operation was aborted" }

/-! Frames -/

def isJsSpace (letter : Char) : Bool :=
  let code := letter.toNat
  (9 ≤ code && code ≤ 13) || code = 32 || code = 0xA0 || code = 0x1680 || (0x2000 ≤ code && code ≤ 0x200A) ||
    code = 0x2028 || code = 0x2029 || code = 0x202F || code = 0x205F || code = 0x3000 || code = 0xFEFF

def splitEvents : List Char → List (List Char)
  | [] => [[]]
  | '\n' :: '\n' :: rest => [] :: splitEvents rest
  | letter :: rest =>
      match splitEvents rest with
      | [] => [[letter]]
      | event :: events => (letter :: event) :: events

def parseSSEChunk (chunk : List Char) : List (List Char) :=
  ((splitEvents chunk).map fun event =>
    ['\n'].intercalate (((event.splitOn '\n').filter ("data:".toList.isPrefixOf ·)).map fun line =>
      (line.drop 5).dropWhile isJsSpace)).filter (· ≠ [])

/-- What stands before and behind the last boundary of a buffer, the boundary with what is before it -/
def splitLast : List Char → Option (List Char × List Char)
  | [] => none
  | [_] => none
  | first :: second :: rest =>
      match splitLast (second :: rest) with
      | some (complete, buffer) => some (first :: complete, buffer)
      | none => if first = '\n' ∧ second = '\n' then some ([first, second], rest) else none

inductive Frame where
  | progress (progress : Value)
  | generationStarted (info : Value)
  | generationTerminal (info : Value)
  | streamReset
  | eval (result : Value)
  | done (stageId : Option Value)
  | qualityGateFailed (info : Value)
  | error (error : StreamError)
  | token (token : Value)
  | other
  /-- `in` throws. -/
  | noObject

namespace StreamRuntime

variable (runtime : StreamRuntime)

def applicationError (data : Value) : StreamError :=
  let error := data.field "error"
  let known := error.bind fun
    | .text code => streamErrorMessages.lookup code
    | _ => none
  let detail := (data.field "detail").filter fun
    | .null => false
    | _ => true
  { code := some (runtime.toText error), message := known.getD (runtime.toText (detail.or error)) }

def terminalError (terminal : Value) : StreamError where
  code := some ("generation_" ++ runtime.toText (terminal.field "status"))
  message := match terminal.field "status" with
    | some (.text "cancelled") => "Generation cancelled."
    | some (.text "timed_out") => "Generation reached its processing time limit."
    | _ => "Generation did not complete."
  diagnosticCode := terminal.field "error_code"

def frameOf (data : Value) : Frame :=
  match data.fields with
  | none => .noObject
  | some fields =>
      if let some progress := fields.lookup "progress" then .progress progress
      else if let some info := fields.lookup "generation_started" then .generationStarted info
      else if let some info := fields.lookup "generation_terminal" then .generationTerminal info
      else if (fields.lookup "stream_reset").isSome then .streamReset
      else if let some result := fields.lookup "eval" then .eval result
      else if (fields.lookup "done").any runtime.truthy then .done (fields.lookup "stage_id")
      else if let some info := fields.lookup "quality_gate_failed" then .qualityGateFailed info
      else if (fields.lookup "error").isSome then .error (runtime.applicationError data)
      else if let some token := fields.lookup "token" then .token token
      else .other

def frames (complete : List Char) : List Frame :=
  (parseSSEChunk complete).filterMap fun payload => (runtime.parse payload).map runtime.frameOf

end StreamRuntime

/-! The connection -/

def maxRetries : Nat := 3

inductive StreamPhase where
  /-- `buildStreamHeaders` of the first request or of the one after a refresh -/
  | headers (again : Bool)
  | fetching (again : Bool)
  | refreshing
  | reading
  | waiting
  | finished
  deriving DecidableEq

structure StreamClient where
  attempt : Nat := 0
  phase : StreamPhase := .headers false
  closed : Bool := false
  settled : Bool := false
  doneReceived : Bool := false
  responseReceived : Bool := false
  buffer : List Char := []
  lastError : Option StreamError := none
  posts : List (Option Nat) := []
  calls : List StreamCall := []

inductive Flow where
  | goesOn
  | returned
  | threw

/-- How `refreshAccessToken` ends: with a token, or without one in a session that is known to be dead, or not. -/
inductive Refreshed where
  | token
  | expired
  | nothing
  | threw (error : StreamError)

inductive StreamEvent where
  | headers (thrown : Option StreamError)
  | response (status : Nat) (hasBody : Bool)
  | fetchFails (error : StreamError)
  | refreshed (outcome : Refreshed)
  | chunk (text : List Char)
  | streamEnds
  | readFails (error : StreamError)
  | timer
  | close

namespace StreamClient

abbrev Reaction := List StreamCall → Bool

variable (runtime : StreamRuntime) (reacts : Reaction) (client : StreamClient)

def call (call : StreamCall) : StreamClient :=
  { client with calls := client.calls ++ [call], closed := client.closed || reacts (client.calls ++ [call]) }

def settleDone (stageId : Option Value) : StreamClient := call reacts { client with settled := true } (.onDone stageId)

def settleError (error : StreamError) : StreamClient := call reacts { client with settled := true } (.onError error)

def close : StreamClient := { client with closed := true }

def settleInterrupted : StreamClient := (client.settleError reacts (knownError "stream_interrupted")).close

def dispatch : Frame → StreamClient × Flow
  | .progress progress => (client.call reacts (.onProgress progress), .goesOn)
  | .generationStarted info => (client.call reacts (.onGenerationStarted info), .goesOn)
  | .generationTerminal info =>
      let called := client.call reacts (.onGenerationTerminal info)
      match info with
      | .null => (called, .threw)
      | _ => ((called.settleError reacts (runtime.terminalError info)).close, .returned)
  | .streamReset => (client.call reacts .onReset, .goesOn)
  | .eval result => ((client.call reacts (.onEval (some result))).close, .returned)
  -- the connection is kept open for the eval event that follows
  | .done stageId => (settleDone reacts { client with doneReceived := true } stageId, .goesOn)
  | .qualityGateFailed info =>
      (((client.call reacts (.onQualityGateFailed info)).settleError reacts (knownError "quality_gate_failed")).close,
        .returned)
  | .error error => ((client.settleError reacts error).close, .returned)
  | .token token => (client.call reacts (.onToken token), .goesOn)
  | .other => (client, .goesOn)
  | .noObject => (client, .threw)

def dispatchAll (client : StreamClient) : List Frame → StreamClient × Flow
  | [] => (client, .goesOn)
  | frame :: rest =>
      match client.dispatch runtime reacts frame with
      | (next, .goesOn) => dispatchAll next rest
      | (next, .returned) => (next, .returned)
      | (next, .threw) => (next, .threw)

def finish : StreamClient :=
  if client.settled then { client with phase := .finished }
  else call reacts { client with phase := .finished } .onAbort

def retry : StreamClient :=
  if client.closed then client.finish reacts
  else if client.attempt < maxRetries then { client with phase := .waiting }
  else
    let error := client.lastError.getD { code := none, message := "Stream failed after retries" }
    (client.settleError reacts error).finish reacts

def caught (error : StreamError) : StreamClient :=
  if client.closed then (if client.doneReceived then client.call reacts (.onEval none) else client).finish reacts
  else if client.doneReceived then (client.call reacts (.onEval none)).finish reacts
  else if client.responseReceived = false then retry reacts { client with lastError := some error }
  else (client.settleInterrupted reacts).finish reacts

def afterLoop : StreamClient :=
  if client.closed then client.finish reacts
  else if client.doneReceived then (client.call reacts (.onEval none)).finish reacts
  else (client.settleInterrupted reacts).finish reacts

def respond (status : Nat) (hasBody : Bool) : StreamClient :=
  if status = 402 then ((client.settleError reacts (knownError "insufficient_credits")).close).finish reacts
  else if status = 429 ∨ status = 503 then
    retry reacts { client with lastError := some (knownError "rate_limit_exceeded") }
  else if status < 200 ∨ 300 ≤ status ∨ hasBody = false then (client.settleInterrupted reacts).finish reacts
  else if client.closed then client.afterLoop reacts
  else { client with phase := .reading, buffer := [] }

def read (text : List Char) : StreamClient :=
  if client.closed then client.afterLoop reacts
  else
    match splitLast (client.buffer ++ text) with
    | none => { client with buffer := client.buffer ++ text }
    | some (complete, buffer) =>
        match dispatchAll runtime reacts { client with buffer } (runtime.frames complete) with
        | (next, .goesOn) => if next.closed then next.afterLoop reacts else next
        | (next, .returned) => next.finish reacts
        | (next, .threw) => next.caught reacts { code := none, message := "Cannot use 'in' operator" }

def nextAttempt : StreamClient :=
  { client with
    attempt := client.attempt + 1, phase := .headers false, doneReceived := false, responseReceived := false
    buffer := [] }

def step (event : StreamEvent) : StreamClient :=
  match event, client.phase with
  | .close, _ => client.close
  | .headers (some error), .headers _ => client.caught reacts error
  | .headers none, .headers again =>
      -- a request whose signal is aborted is not sent
      if client.closed then client.caught reacts abortError
      else { client with phase := .fetching again, posts := none :: client.posts }
  | .fetchFails error, .fetching _ => client.caught reacts error
  | .response status hasBody, .fetching again =>
      let answered := { client with responseReceived := true, posts := some status :: client.posts.tail }
      if again = false ∧ status = 401 ∧ client.closed = false then { answered with phase := .refreshing }
      else answered.respond reacts status hasBody
  | .refreshed .token, .refreshing => { client with responseReceived := false, phase := .headers true }
  | .refreshed .expired, .refreshing => ((client.settleError reacts sessionExpiredError).close).finish reacts
  | .refreshed .nothing, .refreshing => client.respond reacts 401 false
  | .refreshed (.threw error), .refreshing => client.caught reacts error
  | .chunk text, .reading => client.read runtime reacts text
  | .streamEnds, .reading => client.afterLoop reacts
  | .readFails error, .reading => client.caught reacts error
  | .timer, .waiting => if client.closed then client.finish reacts else client.nextAttempt
  | _, _ => client

end StreamClient

end Thought2Build.Client
