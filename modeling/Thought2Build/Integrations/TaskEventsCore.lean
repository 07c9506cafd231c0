import Mathlib.Data.List.Sort
import Thought2Build.Integrations.TaskParserCore

/-!
The webhook deliveries that change the state of tracked tasks: issues that close or open again and pull
requests that close issues when they merge. Deliveries come in any order and more than once.
-/

namespace Thought2Build.Integrations

inductive TaskState where
  | «open» | done
  deriving DecidableEq

inductive DoneVia where
  | prMerge | manual
  deriving DecidableEq

structure TaskSync where
  state : TaskState := .open
  doneAt : Option Int := none
  doneVia : Option DoneVia := none
  syncedAt : Option Int := none
  deriving DecidableEq

namespace TaskSync

variable (now : Int) (task : TaskSync)

def stale (eventTs : Int) : Bool := task.syncedAt.any (eventTs < ·)

def upgraded (doneVia : DoneVia) : TaskSync :=
  if doneVia = .prMerge ∧ task.state = .done ∧ task.doneVia ≠ some .prMerge then
    { task with doneVia := some .prMerge }
  else task

def applyDone (doneVia : DoneVia) (eventTs : Int) : TaskSync × Bool :=
  let task := task.upgraded doneVia
  if task.stale eventTs then (task, false)
  else if task.state ≠ .done then
    ({ state := .done, doneAt := some now, doneVia := some doneVia, syncedAt := some eventTs }, true)
  else ({ task with syncedAt := some eventTs }, false)

def applyReopen (eventTs : Int) : TaskSync × Bool :=
  if task.stale eventTs then (task, false)
  else if task.state = .done then ({ syncedAt := some eventTs }, true)
  else ({ task with syncedAt := some eventTs }, false)

end TaskSync

inductive TaskEventKind where
  | closed | reopened | merged
  deriving DecidableEq

structure TaskEvent where
  kind : TaskEventKind
  timestamp : Int
  deriving DecidableEq

def TaskSync.apply (now : Int) (task : TaskSync) (event : TaskEvent) : TaskSync :=
  match event.kind with
  | .closed => (task.applyDone now .manual event.timestamp).1
  | .merged => (task.applyDone now .prMerge event.timestamp).1
  | .reopened => (task.applyReopen event.timestamp).1

structure TrackedTask where
  externalIssueNumber : Nat
  sync : TaskSync := {}

/-- What `reconcile_event` reads of a payload; `timestamp` is none where `_parse_ts` gives none. -/
inductive Delivery where
  | issues (action : String) (number : Option Nat) (timestamp : Option Int)
  | pullRequest (action : String) (merged : Bool) (body : Option String) (timestamp : Option Int)
  deriving DecidableEq

namespace Delivery

variable (texts : Texts) (now : Int) (tasks : List TrackedTask)

def onMatched (number : Nat) (change : TaskSync → TaskSync) : List TrackedTask :=
  tasks.map fun task => if task.externalIssueNumber = number then { task with sync := change task.sync } else task

def reconcileIssue (action : String) (number : Option Nat) (timestamp : Option Int) : List TrackedTask :=
  match number, timestamp with
  | some number, some eventTs =>
      if action = "edited" then tasks
      else onMatched tasks number fun task =>
        if action = "reopened" then (task.applyReopen eventTs).1
        else if action = "closed" then (task.applyDone now .manual eventTs).1
        else task
  | _, _ => tasks

def reconcileMergedPr (body : Option String) (timestamp : Option Int) : List TrackedTask :=
  match timestamp with
  | some eventTs => (texts.closedIssues (body.getD "")).foldl
      (fun tasks number => onMatched tasks number fun task => (task.applyDone now .prMerge eventTs).1) tasks
  | none => tasks

def dispatch : Delivery → List TrackedTask
  | issues action number timestamp =>
      if action = "closed" ∨ action = "reopened" ∨ action = "edited" then
        reconcileIssue now tasks action number timestamp
      else tasks
  | pullRequest action merged body timestamp =>
      if action = "closed" ∧ merged then reconcileMergedPr texts now tasks body timestamp else tasks

end Delivery

end Thought2Build.Integrations
