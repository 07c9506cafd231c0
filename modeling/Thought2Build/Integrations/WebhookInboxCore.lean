import Thought2Build.Integrations.TaskEvents
import Thought2Build.Library.Workers

/-!
The inbox of GitHub deliveries: the ingress that records and queues them, the jobs that dispatch them, and the
sweep that queues them again. The repository's live pushes, with their workspaces and tasks, stay the same.
-/

namespace Thought2Build.Integrations

/-- A verified delivery whose body is a JSON object; other events than `delivery` touch neither tasks nor ideas. -/
structure WebhookRequest where
  deliveryId : Nat
  delivery : Option Delivery
  labels : List String := []
  title : String := ""
  deriving DecidableEq

def ideaActions : List String := ["opened", "reopened", "labeled", "edited"]

def ideaLabels : List String := ["idea", "enhancement"]

namespace WebhookRequest

variable (webhook : WebhookRequest)

/-- The issue and the text of the idea that `_capture_idea` takes from a delivery. -/
def capturedIdea : Option (Nat × String) :=
  match webhook.delivery with
  | some (.issues action (some number) _) =>
      if action ∈ ideaActions ∧ webhook.labels.any (· ∈ ideaLabels) then
        some (number, if webhook.title = "" then s!"GitHub issue #{number}" else webhook.title)
      else none
  | _ => none

def eventsFor (texts : Texts) (number : Nat) : List TaskEvent :=
  (webhook.delivery.map (·.eventsFor texts number)).getD []

def dispatch (texts : Texts) (now : Int) (tasks : List TrackedTask) : List TrackedTask :=
  match webhook.delivery with
  | some delivery => delivery.dispatch texts now tasks
  | none => tasks

end WebhookRequest

structure Idea where
  workspace : Nat
  issue : Nat
  text : String
  deriving DecidableEq

structure InboxRow where
  deliveryId : Nat
  receivedAt : Int
  payload : Option WebhookRequest
  processedAt : Option Int := none
  replayCount : Nat := 0

def replayAfterSeconds : Int := 3600

def replayBatch : Nat := 100

def maxReplayAttempts : Nat := 3

def InboxRow.IsReplayable (row : InboxRow) : Prop :=
  row.processedAt = none ∧ row.payload ≠ none ∧ row.replayCount < maxReplayAttempts

instance (row : InboxRow) : Decidable row.IsReplayable := inferInstanceAs (Decidable (_ ∧ _ ∧ _))

inductive InboxPoint where
  | recorded (webhook : WebhookRequest) (receivedAt : Int)
  | handed (webhook : WebhookRequest) (receivedAt : Int)
  | dispatching (webhook : WebhookRequest) (tasks : List TaskSync) (ideas : List Idea)
  | sweeping (waiting : List InboxRow) (replayed : List (Nat × Nat))

structure WebhookInbox where
  workspaces : List Nat
  tasks : List TrackedTask
  ideas : List Idea := []
  inbox : List InboxRow := []
  queued : List WebhookRequest := []
  workers : Workers InboxPoint := ∅
  acknowledged : List WebhookRequest := []
  dispatched : List WebhookRequest := []
  clock : Int := 0

/-- Steps of requests, jobs and sweeps; `fail` is an exception, a lost worker or a queue that is down. -/
inductive InboxEvent where
  | record (key : Nat) (webhook : WebhookRequest)
  | hand (key : Nat)
  | acknowledge (key : Nat)
  | load (key : Nat) (webhook : WebhookRequest)
  | dispatch (key : Nat)
  | sweep (key : Nat)
  | replay (key : Nat)
  | endSweep (key : Nat)
  | fail (key : Nat)
  | wait (seconds : Nat)

def TaskSync.merge (loaded written current : TaskSync) : TaskSync where
  state := if written.state = loaded.state then current.state else written.state
  doneAt := if written.doneAt = loaded.doneAt then current.doneAt else written.doneAt
  doneVia := if written.doneVia = loaded.doneVia then current.doneVia else written.doneVia
  syncedAt := if written.syncedAt = loaded.syncedAt then current.syncedAt else written.syncedAt

namespace WebhookInbox

variable (texts : Texts) (inbox : WebhookInbox) (key : Nat)

def move (point : InboxPoint) : WebhookInbox := { inbox with workers := inbox.workers.insert key point }

def leave : WebhookInbox := { inbox with workers := inbox.workers.erase key }

/-! `github_webhook` -/

def Records (deliveryId : Nat) : InboxPoint → Prop
  | .recorded webhook _ | .handed webhook _ => webhook.deliveryId = deliveryId
  | _ => False

instance (deliveryId : Nat) (point : InboxPoint) : Decidable (Records deliveryId point) := by
  unfold Records
  split <;> infer_instance

/-- The insert finds the row of a delivery it has had, or waits for another request that inserts it. -/
def record (webhook : WebhookRequest) : WebhookInbox :=
  if key ∈ inbox.workers then inbox
  else if ∃ row ∈ inbox.inbox, row.deliveryId = webhook.deliveryId then
    { inbox with acknowledged := inbox.acknowledged ++ [webhook] }
  else if ¬inbox.workers.All fun _ point => ¬Records webhook.deliveryId point then inbox
  else inbox.move key (.recorded webhook inbox.clock)

def hand : WebhookInbox :=
  match inbox.workers.lookup key with
  | some (.recorded webhook receivedAt) =>
      { inbox.move key (.handed webhook receivedAt) with queued := inbox.queued ++ [webhook] }
  | _ => inbox

def acknowledge : WebhookInbox :=
  match inbox.workers.lookup key with
  | some (.handed webhook receivedAt) =>
      { inbox.leave key with
        inbox := inbox.inbox ++ [{ deliveryId := webhook.deliveryId, receivedAt, payload := some webhook }]
        acknowledged := inbox.acknowledged ++ [webhook] }
  | _ => inbox

/-! `reconcile_event` -/

def ideasOf (ideas : List Idea) (workspace issue : Nat) : List Idea :=
  ideas.filter fun idea => idea.workspace = workspace ∧ idea.issue = issue

def load (webhook : WebhookRequest) : WebhookInbox :=
  if key ∈ inbox.workers ∨ webhook ∉ inbox.queued then inbox
  else if ∃ idea ∈ webhook.capturedIdea, ∃ workspace ∈ inbox.workspaces,
      1 < (ideasOf inbox.ideas workspace idea.1).length then inbox
  else inbox.move key (.dispatching webhook (inbox.tasks.map (·.sync)) inbox.ideas)

def restore (tasks : List TrackedTask) (loaded : List TaskSync) : List TrackedTask :=
  tasks.zipWith (fun task sync => { task with sync }) loaded

def writeTasks (tasks : List TrackedTask) (loaded : List TaskSync) (written : List TrackedTask) : List TrackedTask :=
  (tasks.zip (loaded.zip written)).map fun (task, sync, after) =>
    { task with sync := sync.merge after.sync task.sync }

def captured (webhook : WebhookRequest) (loaded : List Idea) : List Idea :=
  match webhook.capturedIdea with
  | none => []
  | some (issue, text) =>
      (inbox.workspaces.dedup.filter fun workspace => ideasOf loaded workspace issue = []).map fun workspace =>
        { workspace, issue, text }

def markProcessed (deliveryId : Nat) : List InboxRow :=
  inbox.inbox.map fun row =>
    if row.deliveryId = deliveryId then { row with processedAt := some inbox.clock, payload := none } else row

def dispatch : WebhookInbox :=
  match inbox.workers.lookup key with
  | some (.dispatching webhook tasks ideas) =>
      { inbox.leave key with
        tasks := writeTasks inbox.tasks tasks (webhook.dispatch texts inbox.clock (restore inbox.tasks tasks))
        ideas := inbox.ideas ++ inbox.captured webhook ideas
        inbox := inbox.markProcessed webhook.deliveryId
        dispatched := inbox.dispatched ++ [webhook] }
  | _ => inbox

/-! `_replay_unprocessed_deliveries` -/

def due : List InboxRow :=
  ((inbox.inbox.filter fun row => row.IsReplayable ∧ row.receivedAt < inbox.clock - replayAfterSeconds)
    |>.insertionSort (·.receivedAt ≤ ·.receivedAt)).take replayBatch

def sweep : WebhookInbox :=
  if key ∈ inbox.workers then inbox else inbox.move key (.sweeping inbox.due [])

def replay : WebhookInbox :=
  match inbox.workers.lookup key with
  | some (.sweeping (row :: rest) replayed) =>
      { inbox.move key (.sweeping rest (replayed ++ [(row.deliveryId, row.replayCount + 1)])) with
        queued := inbox.queued ++ row.payload.toList }
  | _ => inbox

def endSweep : WebhookInbox :=
  match inbox.workers.lookup key with
  | some (.sweeping [] replayed) =>
      { inbox.leave key with
        inbox := inbox.inbox.map fun row =>
          match replayed.lookup row.deliveryId with
          | some replayCount => { row with replayCount }
          | none => row }
  | _ => inbox

def step : InboxEvent → WebhookInbox
  | .record key webhook => inbox.record key webhook
  | .hand key => inbox.hand key
  | .acknowledge key => inbox.acknowledge key
  | .load key webhook => inbox.load key webhook
  | .dispatch key => inbox.dispatch texts key
  | .sweep key => inbox.sweep key
  | .replay key => inbox.replay key
  | .endSweep key => inbox.endSweep key
  | .fail key => inbox.leave key
  | .wait seconds => { inbox with clock := inbox.clock + seconds }

end WebhookInbox

end Thought2Build.Integrations
