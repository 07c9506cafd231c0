import Mathlib.Data.List.Sort
import Thought2Build.Integrations.TaskParserCore
import Thought2Build.Library.Dictionaries
import Thought2Build.Library.FirstFit
import Thought2Build.Library.Paging

/-!
The issues that track the tasks of an export: their rows, the migration of legacy references, the loop that
creates and updates issues, and the issues of removed tasks. What a pull request is judged against.
-/

namespace Thought2Build.Integrations

open Patterns Pattern
open Pipeline (strip)

structure IntegrationPushTask where
  taskRef : String
  externalIssueNumber : Nat
  deriving DecidableEq

structure GitHubIssue where
  number : Nat
  title : String
  closed : Bool := false
  /-- The row carries a `pull_request` key. -/
  pull : Bool := false
  deriving DecidableEq

structure IssueTracker where
  rows : List IntegrationPushTask := []
  issues : List GitHubIssue := []
  next : Nat := 1
  deriving DecidableEq

def issuesPageSize : Nat := 100

def issuesMaxPages : Nat := 20

def maxTitleOccurrences : Nat := 1000

namespace Texts

variable (texts : Texts)

def isLegacyTaskRef (taskRef : String) : Bool :=
  (matchStart (sequence [literal "T-", some texts.isDigit, textEnd]) taskRef.toList).isSome

def nextFreeRef (title : String) (taken : List String) : Option String :=
  (FirstFit.lowest (texts.computeTaskRef title) maxTitleOccurrences taken).map (texts.computeTaskRef title)

end Texts

namespace IssueTracker

variable (texts : Texts) (tracker : IssueTracker)

def listIssues : List GitHubIssue :=
  (List.range issuesMaxPages).flatMap fun page => (tracker.issues.drop (page * issuesPageSize)).take issuesPageSize

def titleByNumber (number : Nat) : Option String :=
  (tracker.listIssues.reverse.find? fun issue => !issue.pull && issue.number = number).map (·.title)

def legacyRows : List IntegrationPushTask :=
  (tracker.rows.filter fun row => texts.isLegacyTaskRef row.taskRef).insertionSort
    (·.externalIssueNumber ≤ ·.externalIssueNumber)

def stableRefs : List String :=
  (tracker.rows.filter fun row => !texts.isLegacyTaskRef row.taskRef).map (·.taskRef)

def repoint (taken : List String) : List IntegrationPushTask → List (String × String)
  | [] => []
  | row :: rest =>
      match (tracker.titleByNumber row.externalIssueNumber).filter (· ≠ "") with
      | none => repoint taken rest
      | .some title =>
          match texts.nextFreeRef title taken with
          | none => repoint taken rest
          | .some stable => (row.taskRef, stable) :: repoint (stable :: taken) rest

def migrateLegacyTaskRefs : IssueTracker :=
  let moves := tracker.repoint texts (tracker.stableRefs texts) (tracker.legacyRows texts)
  { tracker with rows := tracker.rows.map fun row =>
      { row with taskRef := (moves.lookup row.taskRef).getD row.taskRef } }

def updateIssue (number : Nat) (title : String) : Option IssueTracker :=
  if tracker.issues.any (·.number = number) then
    .some { tracker with issues := tracker.issues.map fun issue =>
      if issue.number = number then { issue with title } else issue }
  else none

def createIssue (task : ParsedTask) : IssueTracker where
  rows := tracker.rows ++ [{ taskRef := task.taskRef, externalIssueNumber := tracker.next }]
  issues := tracker.issues ++ [{ number := tracker.next, title := task.title }]
  next := tracker.next + 1

def numberOf (taskRef : String) : Option Nat :=
  (tracker.rows.find? (·.taskRef = taskRef)).map (·.externalIssueNumber)

def syncTask (tracker : IssueTracker) (task : ParsedTask) : Option IssueTracker :=
  match tracker.numberOf task.taskRef with
  | .some number => tracker.updateIssue number task.title
  | none => .some (tracker.createIssue task)

def retireObsolete (currentRefs : List String) : IssueTracker :=
  let obsolete := tracker.rows.filter (·.taskRef ∉ currentRefs)
  { tracker with
    rows := tracker.rows.filter (·.taskRef ∈ currentRefs)
    issues := tracker.issues.map fun issue =>
      if obsolete.any (·.externalIssueNumber = issue.number) then { issue with closed := true } else issue }

def syncIssues (tasks : List ParsedTask) : Option IssueTracker := do
  let synced ← tasks.foldlM syncTask (tracker.migrateLegacyTaskRefs texts)
  return synced.retireObsolete (tasks.map (·.taskRef))

end IssueTracker

/-! Acceptance criteria -/

def ParsedTask.criterion (task : ParsedTask) : String :=
  strip (task.ref ++ ": " ++ task.title ++ "\n" ++ task.rawBody)

/-- `_resolve_acceptance_criteria` over the rows of the push and the content of the tasks stage. -/
def Texts.resolveAcceptanceCriteria (texts : Texts) (rows : List IntegrationPushTask) (content body : Option String) :
    List (String × String) :=
  let closed := texts.closedIssues (body.getD "")
  let wanted := (rows.filter (·.externalIssueNumber ∈ closed)).map (·.taskRef)
  if wanted = [] then []
  else (texts.parseTasks (content.getD "")).foldl (fun criteria (task : ParsedTask) =>
      if task.ref ∈ wanted then Dictionaries.put task.ref task.criterion criteria else criteria) []

end Thought2Build.Integrations
