import Thought2Build.Integrations.TaskParserCore
import Thought2Build.Pipeline.RecoverySweepCore
import Thought2Build.Pipeline.WorkspaceCore

/-!
The increments of a finalised workspace. A request charges, asks the model for new tasks and appends them to
TASKS as it has read it; the recovery sweep gives back the charges of increments that take too long.
-/

namespace Thought2Build.Integrations.Texts

open Patterns Pattern
open Pipeline (isSpace strip)

variable (texts : Texts)

def rstrip (text : String) : String := String.ofList (text.toList.rdropWhile isSpace)

def isLineBreak (letter : Char) : Bool :=
  let code := letter.toNat
  (10 ≤ code && code ≤ 13) || (28 ≤ code && code ≤ 30) || code = 0x85 || code = 0x2028 || code = 0x2029

def splitlines (line : List Char) : List Char → List (List Char)
  | [] => if line = [] then [] else [line.reverse]
  | '\r' :: '\n' :: rest => line.reverse :: splitlines [] rest
  | letter :: rest =>
      if isLineBreak letter then line.reverse :: splitlines [] rest else splitlines (letter :: line) rest

def incrementCompletionSentinel : String := "<!-- THOUGHT2BUILD_INCREMENT_COMPLETE:v1 -->"

def stripIncrementSentinel (completion : String) : String × Bool :=
  let lines := splitlines [] (rstrip completion).toList
  if lines ≠ [] ∧ strip (String.ofList (lines.getLastD [])) = incrementCompletionSentinel then
    (rstrip (String.ofList (List.intercalate ['\n'] lines.dropLast)), true)
  else (completion, false)

def numberedHeading : Pattern := Pattern.sequence [
  lineStart, literal "###", some isSpace, literal "T-", group (some texts.isDigit), one (· = ':')]

def highestTaskNumber (tasksMd : String) : Nat :=
  (findIter texts.numberedHeading tasksMd.toList).foldl
    (fun highest found => max highest (texts.int (found.2.groups.headD []))) 0

structure IncrementTask where
  humanRef : String
  taskRef : String
  title : String
  rawBody : String

def humanRef (number : Nat) : String :=
  let digits := (toString number).toList
  String.ofList ("T-".toList ++ List.replicate (3 - digits.length) '0' ++ digits)

/-- `_reconcile_delta`, with the references seen and the number given last. -/
def reconcileFrom (pinned seen : List String) (number : Nat) : List ParsedTask → List IncrementTask
  | [] => []
  | task :: rest =>
      -- a title repeated in the delta is dropped, so the reference is that of its first occurrence
      let ref := texts.computeTaskRef task.title 0
      if ref ∈ pinned ∨ ref ∈ seen then reconcileFrom pinned seen number rest
      else
        { humanRef := humanRef (number + 1), taskRef := ref, title := task.title, rawBody := task.rawBody } ::
          reconcileFrom pinned (ref :: seen) (number + 1) rest

def reconcileDelta (completion : String) (pinned : List String) (baselineMax : Nat) : List IncrementTask :=
  texts.reconcileFrom pinned [] baselineMax (texts.parseTasks completion)

def renderTaskSection (task : IncrementTask) : String :=
  let heading := "### " ++ task.humanRef ++ ": " ++ task.title
  let body := strip task.rawBody
  if body = "" then heading else heading ++ "\n\n" ++ body

def growTasksMarkdown (baseline : String) (newTasks : List IncrementTask) : String :=
  let appended := "\n\n".intercalate (newTasks.map renderTaskSection)
  let base := rstrip baseline
  if base = "" then appended ++ "\n" else base ++ "\n\n" ++ appended ++ "\n"

def fenceLine : Pattern :=
  let blank := optional (one fun letter => letter = ' ' || letter = '\t')
  Pattern.sequence [lineStart, blank, blank, blank,
    either (andThen (literal "``") (some (· = '`'))) (andThen (literal "~~") (some (· = '~')))]

def markdownFencesBalanced (content : String) : Bool := (findIter fenceLine content.toList).length % 2 = 0

/-- `new_tasks_md` of `generate_increment`, or none where the completion is refused. -/
def newTasksMd (checks : Pipeline.Checks) (baseline completion : String) : Option String :=
  let completion := (stripIncrementSentinel completion).1
  let pinned := (texts.parseTasks baseline).map fun task => texts.computeTaskRef task.title 0
  let newTasks := texts.reconcileDelta completion pinned (texts.highestTaskNumber baseline)
  let grown := growTasksMarkdown baseline newTasks
  if checks.safe completion ∧ newTasks ≠ [] ∧ markdownFencesBalanced grown then .some grown else none

end Thought2Build.Integrations.Texts

namespace Thought2Build.Pipeline

open Integrations (Texts)

def incrementCreditCost : Nat := 5

inductive RequestPhase where
  | loaded
  | generating (increment : Nat)
  | ended

/-- A call of `generate_increment`, with the tasks stage as it has read it. -/
structure IncrementRequest where
  tasksVersion : Nat
  tasksContent : String
  phase : RequestPhase

/-- A workspace, its increments and their charges in the ledger, and the calls that are under way: requests,
sweeps with the rows they have found stuck, and pushes of rows they have found ready. -/
structure Timeline where
  workspace : Workspace
  increments : List Increment := []
  requests : List IncrementRequest := []
  charges : List Nat := []
  refunds : List Nat := []
  sweeps : List (List Nat) := []
  pushes : List Nat := []

/-- The transactions of users, runs and checks, which neither append an increment nor purge versions. -/
def Operation.EditsStage : Operation → Prop
  | .loadIncrement => False
  | .appendTasksVersion _ _ => False
  | .purgeVersions _ => False
  | _ => True

instance (operation : Operation) : Decidable operation.EditsStage := by
  cases operation <;> unfold Operation.EditsStage <;> infer_instance

inductive TimelineEvent where
  | edit (event : Event) (edits : event.operation.EditsStage)
  | load (now : Int)
  | reserve (request : Nat) (now : Int)
  | complete (request : Nat) (completion : String) (now : Int)
  | fail (request : Nat) (now : Int)
  | readStuck (now : Int)
  | recover (stuck : List Nat) (now : Int)
  | readReady (increment : Nat)
  | push (increment : Nat) (now : Int)

namespace Timeline

variable (texts : Texts) (checks : Checks) (timeline : Timeline)

def fresh (inputs : WorkspaceInputs) (now : Int) : Timeline where
  workspace := Workspace.fresh inputs now

/-- `_load_workspace` and `_load_finalised_stages`, which take no lock -/
def load (now : Int) : Timeline :=
  match timeline.workspace.transact checks { type := .tasks, operation := .loadIncrement, now } with
  | .error _ => timeline
  | .ok committed =>
      let stage := (timeline.workspace.record .tasks).stage
      { timeline with
        workspace := timeline.workspace.commit .tasks committed now
        requests := timeline.requests ++ [{
          tasksVersion := stage.currentVersion, tasksContent := stage.text, phase := .loaded }] }

def withPhase (position : Nat) (phase : RequestPhase) : Timeline :=
  { timeline with requests := timeline.requests.modify position fun request => { request with phase } }

def reserve (position : Nat) (now : Int) : Timeline :=
  match timeline.requests[position]? with
  | some { phase := .loaded, .. } =>
      { timeline.withPhase position (.generating timeline.increments.length) with
        increments := timeline.increments ++ [{
          status := .generating, deduction := some timeline.charges.length, updatedAt := now }]
        charges := timeline.charges ++ [incrementCreditCost] }
  | _ => timeline

def refund (deduction : Option Nat) : List Nat :=
  deduction.elim timeline.refunds fun deduction =>
    if deduction ∈ timeline.refunds then timeline.refunds else timeline.refunds ++ [deduction]

/-- `_refund_and_mark_draft`, and what `recover_stuck_increments` does with a row -/
def refundAndMarkDraft (now : Int) (increment : Nat) : Timeline :=
  match timeline.increments[increment]? with
  | none => timeline
  | some row => { timeline with
      refunds := timeline.refund row.deduction
      increments := timeline.increments.set increment { row with status := .draft, updatedAt := now } }

/-- `_finalise_increment`, or none where it raises and its transaction rolls back. -/
def finaliseIncrement (increment tasksVersion : Nat) (newTasksMd : String) (now : Int) : Option Timeline :=
  match timeline.increments[increment]? with
  | none => none
  | some locked =>
      if locked.status ≠ .generating then none
      else match timeline.workspace.transact checks {
          type := .tasks, operation := .appendTasksVersion tasksVersion newTasksMd, now } with
        | .error _ => none
        | .ok committed => some { timeline with
            workspace := timeline.workspace.commit .tasks committed now
            increments := timeline.increments.set increment { locked with status := .ready, updatedAt := now } }

def complete (position : Nat) (completion : String) (now : Int) : Timeline :=
  match timeline.requests[position]? with
  | some { tasksVersion, tasksContent, phase := .generating increment } =>
      let after := match texts.newTasksMd checks tasksContent completion with
        | none => timeline.refundAndMarkDraft now increment
        | some newTasksMd =>
            (timeline.finaliseIncrement checks increment tasksVersion newTasksMd now).getD timeline
      after.withPhase position .ended
  | _ => timeline

def fail (position : Nat) (now : Int) : Timeline :=
  match timeline.requests[position]? with
  | some { phase := .generating increment, .. } =>
      (timeline.refundAndMarkDraft now increment).withPhase position .ended
  | _ => timeline

def readStuck (now : Int) : Timeline :=
  { timeline with sweeps := timeline.sweeps ++ [positions timeline.increments (·.Stuck now)] }

def recover (stuck : List Nat) (now : Int) : Timeline :=
  if stuck ∈ timeline.sweeps then
    { stuck.foldl (·.refundAndMarkDraft now) timeline with sweeps := timeline.sweeps.erase stuck }
  else timeline

def readReady (increment : Nat) : Timeline :=
  if timeline.increments[increment]?.any fun row => row.status = .ready || row.status = .pushed then
    { timeline with pushes := timeline.pushes ++ [increment] }
  else timeline

def push (increment : Nat) (now : Int) : Timeline :=
  if increment ∈ timeline.pushes then
    { timeline with
      pushes := timeline.pushes.erase increment
      increments := timeline.increments.modify increment fun row =>
        { row with status := .pushed, updatedAt := now } }
  else timeline

def step : TimelineEvent → Timeline
  | .edit event _ => { timeline with workspace := timeline.workspace.step checks event }
  | .load now => timeline.load checks now
  | .reserve request now => timeline.reserve request now
  | .complete request completion now => timeline.complete texts checks request completion now
  | .fail request now => timeline.fail request now
  | .readStuck now => timeline.readStuck now
  | .recover stuck now => timeline.recover stuck now
  | .readReady increment => timeline.readReady increment
  | .push increment now => timeline.push increment now

end Timeline

end Thought2Build.Pipeline
