import Thought2Build.Integrations.TaskEventsCore
import Thought2Build.Integrations.TaskIssuesCore

/-!
The backfill of a push: a sweep reads the repository's issues page by page, applies them to the rows it has
loaded and moves the cursor from which the next sweep reads.
-/

namespace Thought2Build.Integrations

structure RepositoryIssue where
  number : Nat
  closed : Bool := false
  /-- The row carries a `pull_request` key. -/
  pull : Bool := false
  updatedAt : Int

namespace RepositoryIssue

def state (issue : RepositoryIssue) : TaskState := if issue.closed then .done else .open

def event (issue : RepositoryIssue) : TaskEvent :=
  ⟨if issue.closed then .closed else .reopened, issue.updatedAt⟩

end RepositoryIssue

structure Webhook where
  number : Nat
  event : TaskEvent
  deriving DecidableEq

def issuesFetchCap : Nat := issuesPageSize * issuesMaxPages

structure Backfill where
  loaded : List TrackedTask
  sweepStartedAt : Int
  since : Option Int
  listed : List RepositoryIssue := []
  /-- The pages that `list_issues` has requested. -/
  pages : Nat := 0
  complete : Bool := false

structure Inbound where
  clock : Int := 0
  issues : List RepositoryIssue := []
  webhooks : List Webhook := []
  rows : List TrackedTask := []
  lastFullBackfillAt : Option Int := none
  backfill : Option Backfill := none

inductive InboundEvent where
  | tick (seconds : Nat)
  | openIssue (number : Nat) (pull : Bool)
  /-- The issue is closed by hand, or by a pull request merged at the given time. -/
  | closeIssue (number : Nat) (mergedAt : Option Int)
  | reopenIssue (number : Nat)
  | editIssue (number : Nat)
  | deliver (webhook : Webhook)
  | track (number : Nat)
  | start
  | fetchPage
  | commit
  | abort
  deriving DecidableEq

def onLast (number : Nat) (change : TaskSync → TaskSync) : List TrackedTask → List TrackedTask
  | [] => []
  | task :: rest =>
      if task.externalIssueNumber = number ∧ rest.all (·.externalIssueNumber ≠ number) then
        { task with sync := change task.sync } :: rest
      else task :: onLast number change rest

def applyListed (now : Int) (loaded : List TrackedTask) (listed : List RepositoryIssue) : List TrackedTask :=
  listed.foldl (fun tasks issue =>
    if issue.pull then tasks else onLast issue.number (·.apply now issue.event) tasks) loaded

def resolvedWatermark (listed : List RepositoryIssue) (sweepStartedAt : Int) (previousWatermark : Option Int) :
    Int :=
  if listed.length < issuesFetchCap then sweepStartedAt
  else match (listed.map (·.updatedAt)).max? with
    | none => sweepStartedAt
    | some newest => if previousWatermark.all (· < newest) then newest else sweepStartedAt

def TaskSync.flush (loaded written row : TaskSync) : TaskSync where
  state := if written.state ≠ loaded.state then written.state else row.state
  doneAt := if written.doneAt ≠ loaded.doneAt then written.doneAt else row.doneAt
  doneVia := if written.doneVia ≠ loaded.doneVia then written.doneVia else row.doneVia
  syncedAt := if written.syncedAt ≠ loaded.syncedAt then written.syncedAt else row.syncedAt

def flushRows : List TrackedTask → List TrackedTask → List TrackedTask → List TrackedTask
  | before :: loaded, after :: written, row :: rows =>
      { row with sync := before.sync.flush after.sync row.sync } :: flushRows loaded written rows
  | _, _, rows => rows

namespace Inbound

variable (inbound : Inbound)

def update (number : Nat) (change : RepositoryIssue → RepositoryIssue) : Inbound :=
  match inbound.issues.find? (·.number = number) with
  | none => inbound
  | some issue => { inbound with
      issues := inbound.issues.filter (·.number ≠ number) ++
        [{ change issue with number, updatedAt := inbound.clock }] }

def openIssue (number : Nat) (pull : Bool) : Inbound :=
  if inbound.issues.any (·.number = number) then inbound
  else { inbound with issues := inbound.issues ++ [{ number, pull, updatedAt := inbound.clock }] }

def closeIssue (number : Nat) (mergedAt : Option Int) : Inbound :=
  if inbound.issues.any (fun issue => issue.number = number && !issue.closed) &&
      mergedAt.all (· ≤ inbound.clock) then
    { inbound.update number ({ · with closed := true }) with
      webhooks := inbound.webhooks ++ [⟨number, ⟨.closed, inbound.clock⟩⟩] ++
        (mergedAt.map fun merged => ⟨number, ⟨.merged, merged⟩⟩).toList }
  else inbound

def reopenIssue (number : Nat) : Inbound :=
  if inbound.issues.any fun issue => issue.number = number && issue.closed then
    { inbound.update number ({ · with closed := false }) with
      webhooks := inbound.webhooks ++ [⟨number, ⟨.reopened, inbound.clock⟩⟩] }
  else inbound

def deliver (webhook : Webhook) : Inbound :=
  if webhook ∈ inbound.webhooks then
    { inbound with rows := Delivery.onMatched inbound.rows webhook.number (·.apply inbound.clock webhook.event) }
  else inbound

def track (number : Nat) : Inbound :=
  if inbound.issues.any fun issue => issue.number = number && !issue.pull then
    { inbound with rows := inbound.rows ++ [{ externalIssueNumber := number }] }
  else inbound

def start : Inbound :=
  if inbound.backfill.isSome then inbound
  else if inbound.rows = [] then { inbound with lastFullBackfillAt := some inbound.clock }
  else { inbound with backfill := some {
    loaded := inbound.rows, sweepStartedAt := inbound.clock, since := inbound.lastFullBackfillAt } }

def listing (since : Option Int) : List RepositoryIssue :=
  inbound.issues.filter fun issue => since.all (· ≤ issue.updatedAt)

def fetchPage : Inbound :=
  match inbound.backfill with
  | none => inbound
  | some backfill =>
      if backfill.complete then inbound
      else
        let batch := ((inbound.listing backfill.since).drop (issuesPageSize * backfill.pages)).take issuesPageSize
        { inbound with backfill := some { backfill with
          listed := backfill.listed ++ batch
          pages := backfill.pages + 1
          complete := batch.length < issuesPageSize || backfill.pages + 1 = issuesMaxPages } }

def commit : Inbound :=
  match inbound.backfill with
  | none => inbound
  | some backfill =>
      if backfill.complete then { inbound with
        rows := flushRows backfill.loaded (applyListed inbound.clock backfill.loaded backfill.listed) inbound.rows
        lastFullBackfillAt := some
          (resolvedWatermark backfill.listed backfill.sweepStartedAt backfill.since)
        backfill := none }
      else inbound

def step : InboundEvent → Inbound
  | .tick seconds => { inbound with clock := inbound.clock + seconds }
  | .openIssue number pull => inbound.openIssue number pull
  | .closeIssue number mergedAt => inbound.closeIssue number mergedAt
  | .reopenIssue number => inbound.reopenIssue number
  | .editIssue number => inbound.update number id
  | .deliver webhook => inbound.deliver webhook
  | .track number => inbound.track number
  | .start => inbound.start
  | .fetchPage => inbound.fetchPage
  | .commit => inbound.commit
  | .abort => { inbound with backfill := none }

end Inbound

end Thought2Build.Integrations
