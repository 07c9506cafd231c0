import Mathlib.Data.List.Basic

/-!
The refresh sessions of one user, one Redis command a step. Requests run side by side and may stop between
any two commands; a token may be presented as soon as it is minted.
-/

namespace Thought2Build.Auth

def refreshTokenSeconds : Nat := 7 * 24 * 60 * 60

def refreshReplayGraceSeconds : Nat := 30

/-- A minted token with the keys of its jti. No command reads `lineage` and `rotatedAt`. -/
structure RefreshToken where
  expiresAt : Nat
  /-- The deadline of `session:{jti}`. -/
  session : Option Nat
  /-- The token in `session_consumed:{jti}`, and the deadline of the key. -/
  consumed : Option (Nat × Nat) := none
  lineage : List Nat
  rotatedAt : Option Nat := none

/-- The command a request sends next. Tokens have the numbers of their places, and a jti is such a number. -/
inductive Command where
  | getSession (jti : Nat)
  | deleteSession (jti : Nat)
  | removeMember (jti : Nat)
  /-- Mints a token, for a sign-in or from another token, and sets its session. -/
  | storeSession (origin : Option Nat)
  | addMember (origin : Option Nat) (jti : Nat)
  | expireMembers (origin : Option Nat) (jti : Nat)
  | storeConsumed (old new : Nat)
  | getConsumed (jti : Nat)
  | getSuccessor (jti successor : Nat)
  /-- `smembers`, after a refresh has found no session at the given time. -/
  | listSessions (jti since : Nat)
  | deleteListed (jtis : List Nat)
  | deleteList
  | logoutSession (jti : Nat)
  | logoutMember (jti : Nat)
  | done
  deriving DecidableEq

structure SessionStore where
  clock : Nat := 0
  tokens : List RefreshToken := []
  /-- `user_sessions:{user_id}` and its deadline. -/
  members : List Nat := []
  membersUntil : Option Nat := none
  requests : List Command := []
  revoked : Nat := 0
  loggedOut : List Nat := []

inductive SessionEvent where
  | tick (seconds : Nat)
  | login
  | refresh (jti : Nat)
  | logout (jti : Nat)
  | act (request : Nat)
  | stop (request : Nat)

namespace SessionStore

variable (store : SessionStore)

def Live (jti : Nat) : Prop := ∃ token ∈ store.tokens[jti]?, ∃ deadline ∈ token.session, store.clock < deadline

def Valid (jti : Nat) : Prop := ∃ token ∈ store.tokens[jti]?, store.clock < token.expiresAt

instance (jti : Nat) : Decidable (store.Live jti) :=
  inferInstanceAs (Decidable (∃ token ∈ store.tokens[jti]?, _))

instance (jti : Nat) : Decidable (store.Valid jti) :=
  inferInstanceAs (Decidable (∃ token ∈ store.tokens[jti]?, _))

def marker (jti : Nat) : Option Nat :=
  ((store.tokens[jti]?.bind (·.consumed)).filter fun entry => store.clock < entry.2).map (·.1)

def listed : List Nat := if store.membersUntil.any (· ≤ store.clock) then [] else store.members

def lineageOf (jti : Nat) : List Nat := (store.tokens[jti]?.map (·.lineage)).getD []

def rotatedAt (jti : Nat) : Option Nat := store.tokens[jti]?.bind (·.rotatedAt)

def proceed (request : Nat) (next : Command) : SessionStore :=
  { store with requests := store.requests.set request next }

def dropSessions (jtis : List Nat) : SessionStore :=
  { store with tokens := store.tokens.mapIdx fun jti token => if jti ∈ jtis then { token with session := none } else token }

def rotate (jti : Nat) : SessionStore :=
  { store with tokens := store.tokens.modify jti fun token =>
      { token with session := none, rotatedAt := some store.clock } }

def mint (origin : Option Nat) : SessionStore :=
  { store with tokens := store.tokens ++ [{
      expiresAt := store.clock + refreshTokenSeconds
      session := some (store.clock + refreshTokenSeconds)
      lineage := origin.toList ++ (origin.map store.lineageOf).getD [] }] }

def srem (jti : Nat) : SessionStore := { store with members := store.listed.filter (· ≠ jti) }

def sadd (jti : Nat) : SessionStore :=
  { store with
    members := store.listed ++ [jti]
    membersUntil := if store.listed = [] then none else store.membersUntil }

def expire : SessionStore :=
  { store with
    members := store.listed
    membersUntil := if store.listed = [] then none else some (store.clock + refreshTokenSeconds) }

def storeMarker (old new : Nat) : SessionStore :=
  { store with tokens := store.tokens.modify old fun token =>
      { token with consumed := some (new, store.clock + refreshReplayGraceSeconds) } }

/-- `refresh_tokens`, `revoke`, `_revoke_all_user_sessions` and `_store_refresh_session`, command by command. The
marker of one user holds that user's token, so it is refused only when the token in it no longer decodes. -/
def perform (request : Nat) : Command → SessionStore
  | .getSession jti => store.proceed request (if store.Live jti then .deleteSession jti else .getConsumed jti)
  | .deleteSession jti => (store.rotate jti).proceed request (.removeMember jti)
  | .removeMember jti => (store.srem jti).proceed request (.storeSession (some jti))
  | .storeSession origin => (store.mint origin).proceed request (.addMember origin store.tokens.length)
  | .addMember origin jti => (store.sadd jti).proceed request (.expireMembers origin jti)
  | .expireMembers none _ => store.expire.proceed request .done
  | .expireMembers (some old) jti => store.expire.proceed request (.storeConsumed old jti)
  | .storeConsumed old new => (store.storeMarker old new).proceed request .done
  | .getConsumed jti =>
      match store.marker jti with
      | none => store.proceed request (.listSessions jti store.clock)
      | some successor =>
          store.proceed request (if store.Valid successor then .getSuccessor jti successor else .done)
  | .getSuccessor jti successor =>
      store.proceed request (if store.Live successor then .done else .listSessions jti store.clock)
  | .listSessions _ _ =>
      store.proceed request (if store.listed = [] then .deleteList else .deleteListed store.listed)
  | .deleteListed jtis => (store.dropSessions jtis).proceed request .deleteList
  | .deleteList =>
      { store.proceed request .done with members := [], membersUntil := none, revoked := store.tokens.length }
  | .logoutSession jti => (store.dropSessions [jti]).proceed request (.logoutMember jti)
  | .logoutMember jti => { (store.srem jti).proceed request .done with loggedOut := store.loggedOut ++ [jti] }
  | .done => store

def step : SessionEvent → SessionStore
  | .tick seconds => { store with clock := store.clock + seconds }
  | .login => { store with requests := store.requests ++ [.storeSession none] }
  | .refresh jti =>
      if store.Valid jti then { store with requests := store.requests ++ [.getSession jti] } else store
  | .logout jti =>
      if store.Valid jti then { store with requests := store.requests ++ [.logoutSession jti] } else store
  | .act request =>
      match store.requests[request]? with
      | none => store
      | some command => store.perform request command
  | .stop request => store.proceed request .done

def Descends (jti origin : Nat) : Prop := jti = origin ∨ origin ∈ store.lineageOf jti

instance (jti origin : Nat) : Decidable (store.Descends jti origin) := inferInstanceAs (Decidable (_ ∨ _))

structure Safe : Prop where
  single : ∀ first second origin, (store.lineageOf first).head? = some origin →
    (store.lineageOf second).head? = some origin → first = second
  tolerant : ∀ jti since, Command.listSessions jti since ∈ store.requests →
    ∀ rotated ∈ store.rotatedAt jti, rotated ≤ since → rotated + refreshReplayGraceSeconds ≤ since
  revokes : ∀ jti < store.revoked, ¬store.Live jti
  signsOut : ∀ origin ∈ store.loggedOut, ∀ jti, store.Descends jti origin → ¬store.Live jti

end SessionStore

end Thought2Build.Auth
