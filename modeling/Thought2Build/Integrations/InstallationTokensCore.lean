import Mathlib.Algebra.Order.Field.Rat
import Mathlib.Data.Rat.Floor

/-!
The tokens of one GitHub installation and their cache in Redis, one command or one end of a mint a step. A task is one
request of the API client with its retry, or a refresh on its own; it may stop between any two steps. Tokens have the
numbers of their mints. There is one clock, in seconds.
-/

namespace Thought2Build.Integrations

def refreshAheadSeconds : Int := 300

def wholeSeconds (seconds : Rat) : Int := if 0 ≤ seconds then ⌊seconds⌋ else ⌈seconds⌉

def cacheTtl (expiresAt now : Rat) : Int := wholeSeconds (expiresAt - now) - refreshAheadSeconds

structure CachedToken where
  token : Nat
  expiresAt : Rat
  deadline : Rat
  deriving DecidableEq

inductive TokenUse where
  | first
  | refreshing (since : Nat)
  | again
  deriving DecidableEq

inductive TokenPhase where
  | idle
  | invalidates
  | reads
  | mints
  | minting (token : Nat)
  | stores (token : Nat) (expiresAt mintedAt : Rat)
  | sent (token : Nat)
  deriving DecidableEq

structure TokenTask where
  use : TokenUse := .first
  phase : TokenPhase := .idle
  rejected : Option Nat := none

/-- `get` returns: the request is sent, or the refresh is over, and after a 401 the request is tried again. -/
def TokenTask.obtain (task : TokenTask) (token : Nat) : TokenTask :=
  match task.use with
  | .first | .again => { task with phase := .sent token }
  | .refreshing _ => if task.rejected.isSome then { task with use := .again, phase := .reads } else {}

structure TokenStore where
  cached : Option CachedToken := none
  mints : Nat := 0
  tasks : List TokenTask := []

inductive TokenAction where
  | request
  | refresh
  | invalidate (fails : Bool)
  | read (fails : Bool)
  | beginMint
  | endMint (expiresAt : Rat)
  | store (fails : Bool)
  | unauthorized
  | stop
  deriving DecidableEq

structure TokenEvent where
  task : Nat
  action : TokenAction
  now : Rat

namespace TokenStore

variable (store : TokenStore)

def task (place : Nat) : TokenTask := store.tasks.getD place {}

def setTask (place : Nat) (task : TokenTask) : TokenStore := { store with tasks := store.tasks.set place task }

def start (task : TokenTask) : TokenStore := { store with tasks := store.tasks ++ [task] }

def live (now : Rat) : Option CachedToken := store.cached.filter (now < ·.deadline)

def write (fails : Bool) (cached : Option CachedToken) : TokenStore :=
  if fails then store else { store with cached }

def step (event : TokenEvent) : TokenStore :=
  let task := store.task event.task
  match event.action, task.phase with
  | .request, _ => store.start { phase := .reads }
  | .refresh, _ => store.start { use := .refreshing store.mints, phase := .invalidates }
  | .invalidate fails, .invalidates => (store.write fails none).setTask event.task { task with phase := .reads }
  | .read fails, .reads =>
      match (store.live event.now).filter fun _ => !fails with
      | some cached => store.setTask event.task (task.obtain cached.token)
      | none => store.setTask event.task { task with phase := .mints }
  | .beginMint, .mints =>
      { store with mints := store.mints + 1 }.setTask event.task { task with phase := .minting store.mints }
  | .endMint expiresAt, .minting token =>
      if 0 < cacheTtl expiresAt event.now then
        store.setTask event.task { task with phase := .stores token expiresAt event.now }
      else store.setTask event.task (task.obtain token)
  | .store fails, .stores token expiresAt mintedAt =>
      (store.write fails (some { token, expiresAt, deadline := event.now + cacheTtl expiresAt mintedAt })).setTask
        event.task (task.obtain token)
  | .unauthorized, .sent token =>
      match task.use with
      | .first =>
          store.setTask event.task
            { use := .refreshing store.mints, phase := .invalidates, rejected := some token }
      | _ => store.setTask event.task {}
  | .stop, _ => store.setTask event.task {}
  | _, _ => store

end TokenStore

end Thought2Build.Integrations
