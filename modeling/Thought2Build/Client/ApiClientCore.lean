import Mathlib.Data.List.Basic

/-!
The API client of one tab: the access token, the shared refresh promise, the latch of an expired session, and the
requests that wait on them. A step is what runs between two awaits. What the headers hold is left out.
-/

namespace Thought2Build.Client

def sessionExpiredCooldownMs : Nat := 60000

inductive Failure where
  | status (code : Nat)
  | transport
  | canceled
  deriving DecidableEq

def Failure.isTransportError : Failure → Bool
  | transport => true
  | _ => false

inductive RefreshAnswer where
  | token (token : Nat)
  | empty
  | failed (failure : Failure)

structure RefreshOutcome where
  token : Option Nat := none
  transportFailure : Bool := false

def RefreshAnswer.outcome : RefreshAnswer → RefreshOutcome
  | token fresh => { token := some fresh }
  | empty => {}
  | failed failure => { transportFailure := failure.isTransportError }

inductive CallPhase where
  | pending
  /-- The answer is in, and `finally` has not run. -/
  | answered
  | finished
  deriving DecidableEq

/-- A call of `/auth/refresh`. The code reads neither `tokensBefore` and `logoutsBefore`, the sign-ins and
sign-outs before it started, nor `latchedAt`, the ones before it marked the session expired. -/
structure RefreshCall where
  generationAtStart : Nat
  phase : CallPhase := .pending
  answer : Option RefreshAnswer := none
  tokensBefore : Nat
  logoutsBefore : Nat
  latchedAt : Option (Nat × Nat) := none

/-- What `refreshAccessTokenOutcome` returns: the shared call, or at once the outcome of a latched session. -/
inductive Waiting where
  | call (call : Nat)
  | latched

inductive Answer where
  | ok
  | failed (failure : Failure)

structure Exchange where
  request : Nat
  prefetch : Bool
  answer : Option Answer := none

/-- What the caller gets: an exchange's response or error, or an error of `getCurrentUser`. -/
inductive Result where
  | resolved (exchange : Nat)
  | rejected (exchange : Nat)
  | transportError
  | notAuthenticated (waiting : Waiting)

inductive RequestPhase where
  /-- `getCurrentUser` without a token -/
  | currentUser (waiting : Waiting)
  | interceptor
  | csrf (exchange : Nat)
  | csrfRefresh (waiting : Waiting)
  | csrfAgain (exchange : Nat)
  | sent (exchange : Nat)
  /-- `handleUnauthorizedResponse` waits with the error of the exchange. -/
  | refreshing (exchange : Nat) (waiting : Waiting)
  | settled (result : Result)

def RequestPhase.awaits : RequestPhase → Option Nat
  | csrf exchange | csrfAgain exchange | sent exchange => some exchange
  | _ => none

/-- A call of `api`; `mutating` is a method that needs a CSRF token, on a path that is not exempt. -/
structure Request where
  mutating : Bool
  retry : Bool := false
  phase : RequestPhase := .interceptor

inductive Clear where
  | exchange (exchange : Nat)
  | refresh (waiting : Waiting)
  | logout

structure ApiClient where
  clock : Nat := 0
  accessToken : Option Nat := none
  refreshPromise : Option Nat := none
  sessionExpiredAt : Option Nat := none
  authGeneration : Nat := 0
  calls : List RefreshCall := []
  exchanges : List Exchange := []
  requests : List Request := []
  /-- The calls of `logout`, and whether each has settled. -/
  logouts : List Bool := []
  tokensSet : Nat := 0
  logoutsBegun : Nat := 0
  signedOut : Bool := false
  clears : List Clear := []

inductive ClientEvent where
  | tick (ms : Nat)
  /-- `setAccessToken` of `AuthCallback` -/
  | login (token : Nat)
  | logout
  /-- The answer of `/auth/logout`, whatever it is. -/
  | logoutAnswer (logout : Nat)
  | request (mutating : Bool)
  | getCurrentUser
  /-- `refreshAccessToken` of another part of the app -/
  | poll
  | resume (request : Nat)
  | answer (exchange : Nat) (answer : Answer)
  | refreshAnswer (call : Nat) (answer : RefreshAnswer)
  | finally (call : Nat)

namespace ApiClient

variable (client : ApiClient)

def setAccessToken (token : Nat) : ApiClient :=
  { client with
    accessToken := some token
    sessionExpiredAt := none
    authGeneration := client.authGeneration + 1
    tokensSet := client.tokensSet + 1 }

def clear (cause : Clear) : ApiClient :=
  { client with accessToken := none, clears := client.clears ++ [cause] }

def isSessionExpired : Bool :=
  client.sessionExpiredAt.any fun expiredAt => client.clock - expiredAt < sessionExpiredCooldownMs

def markSessionExpired : ApiClient :=
  if client.isSessionExpired then client else { client with sessionExpiredAt := some client.clock }

def refreshAccessTokenOutcome : ApiClient × Waiting :=
  if client.isSessionExpired then (client, .latched)
  else match client.refreshPromise with
    | some call => (client, .call call)
    | none =>
        ({ client with
            refreshPromise := some client.calls.length
            calls := client.calls ++ [{
              generationAtStart := client.authGeneration
              tokensBefore := client.tokensSet
              logoutsBefore := client.logoutsBegun }] }, .call client.calls.length)

def outcome : Waiting → Option RefreshOutcome
  | .latched => some {}
  | .call call => client.calls[call]?.bind fun call =>
      if call.phase = .finished then call.answer.map (·.outcome) else none

def update (request : Nat) (change : Request → Request) : ApiClient :=
  { client with requests := client.requests.modify request change }

def setPhase (request : Nat) (phase : RequestPhase) : ApiClient :=
  client.update request fun held => { held with phase }

def push (exchange : Exchange) : ApiClient := { client with exchanges := client.exchanges ++ [exchange] }

def send (request : Nat) : ApiClient :=
  (client.push { request, prefetch := false }).setPhase request (.sent client.exchanges.length)

def prefetch (request : Nat) (phase : Nat → RequestPhase) : ApiClient :=
  (client.push { request, prefetch := true }).setPhase request (phase client.exchanges.length)

/-- `handleUnauthorizedResponse` up to its await; `retry` is the flag of the config of the failed exchange. -/
def handleUnauthorizedResponse (request : Nat) (retry : Bool) (exchange : Nat) (failure : Failure) : ApiClient :=
  if failure = .status 401 ∧ retry = false then
    let (next, waiting) := client.refreshAccessTokenOutcome
    next.update request fun held => { held with retry := true, phase := .refreshing exchange waiting }
  else
    (if failure.isTransportError then client else client.clear (.exchange exchange)).setPhase request
      (.settled (.rejected exchange))

def receive (request : Nat) (retry : Bool) (exchange : Nat) : RequestPhase → Answer → ApiClient
  | .csrf _, .ok => client.send request
  | .csrf _, .failed failure =>
      if failure = .status 401 then
        let (next, waiting) := client.refreshAccessTokenOutcome
        next.setPhase request (.csrfRefresh waiting)
      else client.handleUnauthorizedResponse request false exchange failure
  | .csrfAgain _, _ => client.send request
  | .sent _, .ok => client.setPhase request (.settled (.resolved exchange))
  | .sent _, .failed failure => client.handleUnauthorizedResponse request retry exchange failure
  | _, _ => client

def record (exchange : Nat) (answer : Answer) : ApiClient :=
  { client with exchanges := client.exchanges.modify exchange fun sent => { sent with answer := some answer } }

def answer (exchange : Nat) (answer : Answer) : ApiClient :=
  match client.exchanges[exchange]? with
  | none => client
  | some sent =>
      match client.requests[sent.request]? with
      | none => client
      | some held =>
          if held.phase.awaits = some exchange then
            (client.record exchange answer).receive sent.request held.retry exchange held.phase answer
          else client

/-- What a request does when it runs on: the request interceptor, and the code after each await of a refresh. -/
def resume (request : Nat) : ApiClient :=
  match client.requests[request]? with
  | none => client
  | some held =>
      match held.phase with
      | .interceptor =>
          if held.mutating ∧ client.accessToken.isSome then client.prefetch request .csrf else client.send request
      | .csrfRefresh waiting =>
          match client.outcome waiting with
          | none => client
          | some outcome =>
              if outcome.token.isSome then client.prefetch request .csrfAgain else client.send request
      | .refreshing exchange waiting =>
          match client.outcome waiting with
          | none => client
          | some outcome =>
              if outcome.token.isSome then client.setPhase request .interceptor
              else (if outcome.transportFailure then client else client.clear (.refresh waiting)).setPhase request
                (.settled (.rejected exchange))
      | .currentUser waiting =>
          match client.outcome waiting with
          | none => client
          | some outcome =>
              if outcome.token.isSome then client.setPhase request .interceptor
              else client.setPhase request
                (.settled (if outcome.transportFailure then .transportError else .notAuthenticated waiting))
      | _ => client

def setCall (call : Nat) (change : RefreshCall → RefreshCall) : ApiClient :=
  { client with calls := client.calls.modify call change }

def refreshAnswer (call : Nat) (answer : RefreshAnswer) : ApiClient :=
  match client.calls[call]? with
  | none => client
  | some started =>
      if started.phase = .pending then
        let answered := client.setCall call fun held => { held with phase := .answered, answer := some answer }
        match answer with
        | .token token => answered.setAccessToken token
        | .empty => answered
        | .failed failure =>
            if failure = .status 401 ∧ client.authGeneration = started.generationAtStart then
              (answered.setCall call fun held =>
                { held with latchedAt := some (client.tokensSet, client.logoutsBegun) }).markSessionExpired
            else answered
      else client

def runFinally (call : Nat) : ApiClient :=
  match client.calls[call]? with
  | none => client
  | some held =>
      if held.phase = .answered then
        { client.setCall call fun held => { held with phase := .finished } with refreshPromise := none }
      else client

def step : ClientEvent → ApiClient
  | .tick ms => { client with clock := client.clock + ms }
  | .login token => { client.setAccessToken token with signedOut := false }
  | .logout => { client with
      authGeneration := client.authGeneration + 1
      logouts := client.logouts ++ [false]
      logoutsBegun := client.logoutsBegun + 1 }
  | .logoutAnswer logout =>
      if client.logouts[logout]? = some false then
        { client.clear .logout with logouts := client.logouts.set logout true, signedOut := true }
      else client
  | .request mutating => { client with requests := client.requests ++ [{ mutating }] }
  | .getCurrentUser =>
      if client.accessToken.isSome then { client with requests := client.requests ++ [{ mutating := false }] }
      else
        let (next, waiting) := client.refreshAccessTokenOutcome
        { next with requests := next.requests ++ [{ mutating := false, phase := .currentUser waiting }] }
  | .poll => client.refreshAccessTokenOutcome.1
  | .resume request => client.resume request
  | .answer exchange answer => client.answer exchange answer
  | .refreshAnswer call answer => client.refreshAnswer call answer
  | .finally call => client.runFinally call

def sends (request : Nat) : Nat :=
  client.exchanges.countP fun exchange => exchange.request = request ∧ exchange.prefetch = false

def Denied : Waiting → Prop
  | .latched => True
  | .call call => ∃ held ∈ client.calls[call]?, held.answer.isSome = true ∧
      held.answer ≠ some (.failed .transport)

def Justifies : Clear → Prop
  | .exchange exchange => ∃ sent ∈ client.exchanges[exchange]?, sent.answer.isSome = true ∧
      sent.answer ≠ some (.failed .transport)
  | .refresh waiting => client.Denied waiting
  | .logout => True

def Owns (request exchange : Nat) (answer : Answer) : Prop :=
  client.exchanges[exchange]? = some { request, prefetch := false, answer := some answer }

/-- A caller gets the answer of its own request, or an error that is no answer. -/
def Honest (request : Nat) : Result → Prop
  | .resolved exchange => client.Owns request exchange .ok
  | .rejected exchange => ∃ failure, client.Owns request exchange (.failed failure) ∨
      ((∀ code, failure ≠ .status code) ∧ ∃ sent ∈ client.exchanges[exchange]?, sent.answer = some (.failed failure))
  | .transportError => True
  | .notAuthenticated waiting => client.Denied waiting

structure Safe : Prop where
  singleFlight : ∀ (first second : Nat) (one other : RefreshCall), client.calls[first]? = some one →
    client.calls[second]? = some other → one.phase = .pending → other.phase = .pending → first = second
  replayedOnce : ∀ request, client.sends request ≤ 2
  honest : ∀ (request : Nat) (held : Request) (result : Result), client.requests[request]? = some held →
    held.phase = .settled result → client.Honest request result
  justified : ∀ cause ∈ client.clears, client.Justifies cause
  /-- A call marks the session expired after a 401, if no token was set and no logout began since it started. -/
  latches : ∀ call ∈ client.calls, ∀ moment ∈ call.latchedAt,
    call.answer = some (.failed (.status 401)) ∧ moment = (call.tokensBefore, call.logoutsBefore)
  staysOut : client.signedOut = true → client.accessToken = none

end ApiClient

end Thought2Build.Client
