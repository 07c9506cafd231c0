import Mathlib.Data.List.Basic

/-!
The middleware that limits request bodies. A server is what its `receive` returns call by call; an application is what
it does next after what it has received and sent.
-/

namespace Thought2Build.Middleware

abbrev Bytes := List UInt8

def bytesOf (text : String) : Bytes := text.toList.map fun letter => letter.toNat.toUInt8

structure Scope where
  type : String
  headers : List (Bytes × Bytes) := []

structure Message where
  type : String
  body : Option Bytes := none
  moreBody : Option Bool := none
  deriving DecidableEq

abbrev Receive := Nat → Option Message

inductive Sent where
  | responseStart (status : Nat) (headers : List (Bytes × Bytes))
  | responseBody (body : Bytes)
  | other (type : String)
  deriving DecidableEq

inductive AppEvent where
  | received (message : Message)
  | sent (message : Sent)
  deriving DecidableEq

inductive AppAction where
  | receives
  | sends (message : Sent)
  | returns

abbrev ASGIApp := List AppEvent → AppAction

def receivedOf (events : List AppEvent) : List Message :=
  events.filterMap fun
    | .received message => some message
    | .sent _ => none

namespace ASGIApp

variable (app : ASGIApp) (receive : Receive)

def step (events : List AppEvent) : List AppEvent :=
  match app events with
  | .receives =>
      match receive (receivedOf events).length with
      | some message => events ++ [.received message]
      | none => events
  | .sends message => events ++ [.sent message]
  | .returns => events

def run : Nat → List AppEvent
  | 0 => []
  | steps + 1 => app.step receive (run steps)

end ASGIApp

section

-- `int(raw_value)`; no value is a `ValueError`.
variable (int : Bytes → Option Int)

def lowerByte (byte : UInt8) : UInt8 := if 65 ≤ byte ∧ byte ≤ 90 then byte + 32 else byte

def isContentLength (header : Bytes × Bytes) : Bool := header.1.map lowerByte = bytesOf "content-length"

def contentLength (scope : Scope) : Option Int := (scope.headers.find? isContentLength).bind fun header => int header.2

def replay (messages : List Message) : Receive := fun call => messages[call]?

def tooLargeBody : Bytes := bytesOf "\x7b\"detail\": \"Request body too large\"\x7d"

def sendTooLarge : List Sent := [
  .responseStart 413 [
    (bytesOf "content-type", bytesOf "application/json"),
    (bytesOf "content-length", bytesOf (toString tooLargeBody.length))],
  .responseBody tooLargeBody]

inductive Drained where
  | reading
  | tooLarge
  | replays (message : Message)

/-- The loop over the messages of the body: how many more it reads, and how many it has read -/
def drain (maxBodyBytes : Int) (receive : Receive) : Nat → Nat → Bytes → Drained
  | 0, _, _ => .reading
  | reads + 1, call, body =>
      match receive call with
      | none => .reading
      | some message =>
          if message.type ≠ "http.request" then .replays message
          else
            let body := body ++ message.body.getD []
            if maxBodyBytes < body.length then .tooLarge
            else if message.moreBody.getD false then drain maxBodyBytes receive reads (call + 1) body
            else .replays { type := "http.request", body := some body, moreBody := some false }

inductive Handling where
  | reading
  | refused (sent : List Sent)
  | called (receive : Receive)

def Drained.handle : Drained → Handling
  | .reading => .reading
  | .tooLarge => .refused sendTooLarge
  | .replays message => .called (replay [message])

/-- `BodySizeLimitMiddleware.__call__`, within so many reads of the body -/
def bodySizeLimit (maxBodyBytes : Int) (scope : Scope) (receive : Receive) (reads : Nat) : Handling :=
  if scope.type ≠ "http" then .called receive
  else if (contentLength int scope).any (maxBodyBytes < ·) then .refused sendTooLarge
  else (drain maxBodyBytes receive reads 0 []).handle

end

def Handling.events (app : ASGIApp) (steps : Nat) : Handling → List AppEvent
  | .reading => []
  | .refused sent => sent.map .sent
  | .called receive => app.run receive steps

end Thought2Build.Middleware
