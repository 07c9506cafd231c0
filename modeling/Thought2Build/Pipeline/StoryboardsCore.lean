import Mathlib.Data.List.Basic
import Thought2Build.Pipeline.RecoverySweepCore

/-!
The storyboards of workspaces. A request reserves a version and charges for it, a background run finishes it, and
the recovery sweep fails and refunds the rows that take too long. Each step is one committed transaction.
-/

namespace Thought2Build.Pipeline

inductive StoryboardAction where
  | generate | regenerate | regenerateSection
  deriving DecidableEq

def StoryboardAction.cost : StoryboardAction → Int
  | generate => 25
  | regenerate => 25
  | regenerateSection => 5

inductive StoryboardReason where
  | charge (action : StoryboardAction) (storyboard : Nat)
  | refund (entry : Nat)
  deriving DecidableEq

structure StoryboardEntry where
  user : Nat
  amount : Int
  reason : StoryboardReason

structure StoryboardRow where
  workspace : Nat
  user : Nat
  version : Nat
  status : StoryboardStatus := .generating
  updatedAt : Int
  creditLedgerId : Nat
  deriving DecidableEq

inductive StoryboardRun where
  | generating
  | committed
  /-- An unexpected error is on its way to `_background_run`. -/
  | raised
  | ended
  deriving DecidableEq

structure StoryboardStore where
  clock : Int := 0
  owners : List Nat := []
  rows : List StoryboardRow := []
  runs : List StoryboardRun := []
  ledger : List StoryboardEntry := []

inductive StoryboardEvent where
  | tick (seconds : Nat)
  /-- A request of a user; `affordable` is whether the balance covers the cost. -/
  | generate (workspace user : Nat) (affordable : Bool)
  | regenerate (base user : Nat) (affordable : Bool)
  | regenerateSection (base user : Nat) (affordable : Bool)
  | finaliseReady (storyboard : Nat)
  | failAndRefund (storyboard : Nat)
  | raise (storyboard : Nat)
  /-- The handler of `_background_run`; its own transaction may be lost. -/
  | forceFail (storyboard : Nat) (lost : Bool)
  | crash (storyboard : Nat)
  | markStale (workspace : Nat)
  | recover

/-- `credit_service.refund`: an entry is refunded once, and only if it is a deduction of the user. -/
def refundEntry (ledger : List StoryboardEntry) (entry user : Nat) : List StoryboardEntry :=
  match ledger[entry]? with
  | none => ledger
  | some original =>
      if 0 ≤ original.amount ∨ original.user ≠ user ∨
          ledger.any (fun other => other.user = original.user ∧ other.reason = .refund entry) then ledger
      else ledger ++ [{ user, amount := -original.amount, reason := .refund entry }]

namespace StoryboardStore

variable (store : StoryboardStore)

def inFlight (workspace user : Nat) : Bool :=
  store.rows.any fun row => row.workspace = workspace ∧ row.user = user ∧ row.status = .generating

def nextVersion (workspace : Nat) : Nat :=
  ((store.rows.filter (·.workspace = workspace)).map (·.version)).foldl max 0 + 1

def reserve (workspace user : Nat) (action : StoryboardAction) (affordable : Bool) : StoryboardStore :=
  if store.owners[workspace]? ≠ some user ∨ store.inFlight workspace user ∨ affordable = false then store
  else { store with
    rows := store.rows ++ [{
      workspace, user, version := store.nextVersion workspace, updatedAt := store.clock
      creditLedgerId := store.ledger.length }]
    runs := store.runs ++ [.generating]
    ledger := store.ledger ++ [{ user, amount := -action.cost, reason := .charge action store.rows.length }] }

def setStatus (storyboard : Nat) (status : StoryboardStatus) : StoryboardStore :=
  { store with rows := store.rows.modify storyboard fun row => { row with status, updatedAt := store.clock } }

def setRun (storyboard : Nat) (run : StoryboardRun) : StoryboardStore :=
  { store with runs := store.runs.modify storyboard fun _ => run }

def failRow (storyboard : Nat) : StoryboardStore :=
  match store.rows[storyboard]? with
  | none => store
  | some row => { store.setStatus storyboard .failed with
      ledger := refundEntry store.ledger row.creditLedgerId row.user }

def finaliseReady (storyboard : Nat) : StoryboardStore :=
  if store.runs[storyboard]? = some .generating then
    (store.setStatus storyboard .ready).setRun storyboard .committed
  else store

def failAndRefund (storyboard : Nat) : StoryboardStore :=
  if store.runs[storyboard]? = some .generating then (store.failRow storyboard).setRun storyboard .ended
  else store

/-- An error other than `StoryboardGenerationError`, before or after the commit of the ready row. -/
def raise (storyboard : Nat) : StoryboardStore :=
  if store.runs[storyboard]? = some .generating ∨ store.runs[storyboard]? = some .committed then
    store.setRun storyboard .raised
  else store

def forceFail (storyboard : Nat) (lost : Bool) : StoryboardStore :=
  if store.runs[storyboard]? = some .raised then
    (if lost then store else store.failRow storyboard).setRun storyboard .ended
  else store

def markStale (workspace : Nat) : StoryboardStore :=
  { store with rows := store.rows.map fun row =>
      if row.workspace = workspace ∧ row.status = .ready then { row with status := .stale, updatedAt := store.clock }
      else row }

def stuck : List Nat :=
  (List.range store.rows.length).filter fun storyboard => store.rows[storyboard]?.any fun row =>
    row.status = .generating ∧ row.updatedAt < store.clock - storyboardThreshold

def recover : StoryboardStore := store.stuck.foldl failRow store

def step : StoryboardEvent → StoryboardStore
  | .tick seconds => { store with clock := store.clock + seconds }
  | .generate workspace user affordable => store.reserve workspace user .generate affordable
  | .regenerate base user affordable =>
      match store.rows[base]? with
      | none => store
      | some row => if row.user = user then store.reserve row.workspace user .regenerate affordable else store
  | .regenerateSection base user affordable =>
      match store.rows[base]? with
      | none => store
      | some row =>
          if row.user = user ∧ (row.status = .ready ∨ row.status = .stale) then
            store.reserve row.workspace user .regenerateSection affordable
          else store
  | .finaliseReady storyboard => store.finaliseReady storyboard
  | .failAndRefund storyboard => store.failAndRefund storyboard
  | .raise storyboard => store.raise storyboard
  | .forceFail storyboard lost => store.forceFail storyboard lost
  | .crash storyboard => store.setRun storyboard .ended
  | .markStale workspace => store.markStale workspace
  | .recover => store.recover

end StoryboardStore

end Thought2Build.Pipeline
