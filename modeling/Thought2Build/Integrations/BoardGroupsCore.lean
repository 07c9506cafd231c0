import Thought2Build.Integrations.TaskParserCore

/-! The tasks of a TASKS document by phase, and the milestones and the board that are synced from them. -/

namespace Thought2Build.Integrations

open Patterns Pattern
open Pipeline (isSpace strip)

namespace Texts

variable (texts : Texts)

def phaseHeading : Pattern := sequence [
  lineStart, literal "##", some isSpace,
  group (sequence [literal "Phase", boundary texts.isWord, few (· ≠ '\n')]), many isSpace, lineEnd]

def phaseTitle (heading : Cursor × Cursor) : String := strip (String.ofList (heading.2.groups.headD []))

/-- The segments of the headings: each reaches to the next heading, the last one to the end. -/
def phaseSegments (length : Nat) : List (Cursor × Cursor) → List (Option String × List Char)
  | [] => []
  | heading :: rest =>
      let start := heading.1.before.length
      let stop := (rest.head?.map fun next => next.1.before.length).getD length
      (.some (phaseTitle heading), heading.1.ahead.take (stop - start)) :: phaseSegments length rest

def groupTasksByPhase (content : String) : List (Option String × List ParsedTask) :=
  match findIter texts.phaseHeading content.toList with
  | [] =>
      let tasks := texts.parseTasks content
      if tasks.isEmpty then [] else [(none, tasks)]
  | first :: rest =>
      let start := first.1.before.length
      let front := if 0 < start then [(none, content.toList.take start)] else []
      let segments := front ++ phaseSegments content.toList.length (first :: rest)
      (segments.map fun segment => (segment.1, texts.parseTasks (String.ofList segment.2))).filter
        fun group => !group.2.isEmpty

end Texts

structure TaskRow where
  externalIssueNumber : Nat
  state : String

/-- `_sync_milestones`: each issue that gets a milestone, with the milestone's number -/
def syncMilestones (ensureMilestone : String → Option Nat) (taskRows : String → Option TaskRow)
    (phased : List (Option String × List ParsedTask)) : List (Nat × Nat) :=
  phased.flatMap fun (title, tasks) =>
    match title.bind ensureMilestone with
    | none => []
    | .some number =>
        tasks.filterMap fun task => (taskRows task.taskRef).map fun row => (row.externalIssueNumber, number)

structure BoardClient where
  project : Option String
  statusField : Option (String × List (String × String))
  issueNodeId : Nat → Option String
  addItem : String → Option String
  lower : String → String

def stateToColumn : String → Option String
  | "done" => some "Done"
  | "open" => some "Todo"
  | _ => none

namespace BoardClient

variable (client : BoardClient)

def resolveStatusOption (state : String) (options : List (String × String)) : Option String :=
  (stateToColumn state).bind fun wanted =>
    (options.reverse.find? fun option => client.lower option.1 = client.lower wanted).map (·.2)

def card (row : TaskRow) : Option (String × Option String) :=
  (client.issueNodeId row.externalIssueNumber).map fun content =>
    (content, (client.addItem content).bind fun _ =>
      client.statusField.bind fun field => client.resolveStatusOption row.state field.2)

def syncProjectBoard (taskRows : String → Option TaskRow) (phased : List (Option String × List ParsedTask)) :
    List (String × Option String) :=
  if client.project.isNone then []
  else phased.flatMap fun group => group.2.filterMap fun task => (taskRows task.taskRef).bind client.card

end BoardClient

end Thought2Build.Integrations
