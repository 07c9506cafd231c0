import Mathlib.Data.List.Dedup
import Mathlib.Data.List.Sort
import Thought2Build.Integrations.TaskReadersCore
import Thought2Build.Library.Dictionaries
import Thought2Build.Library.Peeling
import Thought2Build.Pipeline.HarnessIndexCore
import Thought2Build.Pipeline.IncrementsCore

/-!
The dependencies between the tasks of a TASKS document: the fields of a task block, the check for circular
dependencies, and the layout in which the prompt wants the fields.
-/

namespace Thought2Build.Pipeline

open Patterns Pattern Dictionaries Peeling
open Integrations (Texts)
open Integrations.Texts (splitlines)

structure CompletenessIssue where
  code : String
  detail : String
  reference : Option String := none

/-! Fields -/

def taskField : Pattern := sequence [
  lineStart, literal "**", group (some (· ≠ '*')), literal ":**", many isSpace, group (many (· ≠ '\n')), textEnd]

/-- `str.lower`, which maps no other character to a letter of one of the names that are looked for. -/
def lower (text : DocText) : DocText := text.map Char.toLower

def fieldOf (line : DocText) : Option (DocText × DocText) :=
  (matchStart taskField line.strip).bind fun finish =>
    match finish.groups with
    | value :: field :: _ => .some (DocText.strip field, DocText.strip value)
    | _ => none

def taskFieldValue (block : DocText) (fieldName : String) : Option DocText :=
  (splitlines [] block).findSome? fun line =>
    (fieldOf line).bind fun field => if lower field.1 = lower fieldName.toList then .some field.2 else none

/-! Blocks -/

def cutBlocks : List (Cursor × Cursor) → List ((Cursor × Cursor) × DocText)
  | [] => []
  | [heading] => [(heading, heading.1.ahead)]
  | heading :: next :: rest =>
      (heading, heading.1.ahead.take (next.1.before.length - heading.1.before.length)) :: cutBlocks (next :: rest)

variable (texts : Texts)

def taskNum (heading : Cursor × Cursor) : Nat :=
  texts.int ((((heading.1.read heading.2).splitOn '-').getD 1 []).splitOn ':' |>.headD [])

def taskBlocks (artifactMd : DocText) : List (Nat × DocText) :=
  (cutBlocks (findIter texts.taskHeader artifactMd)).map fun block => (taskNum texts block.1, block.2)

def taskDeps (text : DocText) : List Nat :=
  ((findIter texts.taskDep text).filterMap fun found => found.2.groups.head?.map texts.int).dedup

def putDeps (adjacency : List (Nat × List Nat)) (block : Nat × DocText) : List (Nat × List Nat) :=
  put block.1 (taskDeps texts ((taskFieldValue block.2 "Dependencies").getD [])) adjacency

def depAdjacency (artifactMd : DocText) : List (Nat × List Nat) :=
  (taskBlocks texts artifactMd).foldl (putDeps texts) []

/-! Cycles -/

def taskRef (num : Nat) : String :=
  String.ofList ("T-".toList ++ ((toString num).toList.leftpad 3 '0'))

def taskRefs (nums : List Nat) : String := ", ".intercalate (nums.map taskRef)

def definedEdges (adjacency : List (Nat × List Nat)) (num : Nat) : List Nat :=
  ((adjacency.lookup num).getD []).filter fun dep => dep ∈ adjacency.map (·.1)

def startPeel (adjacency : List (Nat × List Nat)) : Peel Nat :=
  let defined := adjacency.map (·.1)
  let indegree (num : Nat) : Int := (defined.flatMap (definedEdges adjacency)).count num
  { queue := (defined.filter fun num => indegree num = 0).reverse, indegree, removed := 0 }

def taskDependencyCycleIssues (adjacency : List (Nat × List Nat)) : List CompletenessIssue :=
  let defined := adjacency.map (·.1)
  let peel := (startPeel adjacency).run (definedEdges adjacency) defined.length
  if peel.removed = defined.length then []
  else
    let cyclic := (defined.filter fun num => 0 < peel.indegree num).insertionSort (· ≤ ·)
    let named := taskRefs (cyclic.take 10)
    [{ code := "invalid_task_dependency_order"
       detail := "TASKS.md has a circular task dependency among: " ++ named ++ "."
       reference := .some named }]

def dependencyIssues (artifactMd : DocText) : List CompletenessIssue :=
  taskDependencyCycleIssues (depAdjacency texts artifactMd)

/-! The layout of the prompt -/

inductive FieldMark where
  | inline (name : String)
  | label (name : String)

def FieldMark.meets (line : DocText) : FieldMark → Bool
  | .inline name => ("**".toList ++ (name.toList ++ ":**".toList)).isPrefixOf line.strip
  | .label name => line.strip = "**".toList ++ (name.toList ++ "**".toList)

def mandatedMarks : List FieldMark := [
  .inline "Phase", .inline "Spec refs", .inline "Plan refs", .inline "Harness refs", .inline "Priority",
  .inline "Estimate", .label "Steps", .label "Acceptance Criteria", .label "Dependencies"]

def isMarked (line : DocText) : Bool := "**".toList.isPrefixOf line.strip

def Mandated (block : DocText) : Prop :=
  ((splitlines [] block).filter isMarked).length = mandatedMarks.length ∧
    ∀ pair ∈ ((splitlines [] block).filter isMarked).zip mandatedMarks, pair.2.meets pair.1

instance (block : DocText) : Decidable (Mandated block) :=
  inferInstanceAs (Decidable (_ ∧ _))

def dependencyLines (block : DocText) : List DocText :=
  (((splitlines [] block).dropWhile fun line => DocText.strip line ≠ "**Dependencies**".toList).drop 1).takeWhile fun line =>
    DocText.strip line ≠ [] ∧ line.head? ≠ .some '#'

def DependsOn (artifactMd : DocText) (num dep : Nat) : Prop :=
  ∃ block ∈ taskBlocks texts artifactMd, block.1 = num ∧
    ∃ line ∈ dependencyLines block.2, dep ∈ taskDeps texts line

instance (artifactMd : DocText) (num dep : Nat) : Decidable (DependsOn texts artifactMd num dep) :=
  inferInstanceAs (Decidable (∃ block ∈ _, _))

def Circular (artifactMd : DocText) (num : Nat) : Prop := Relation.TransGen (DependsOn texts artifactMd) num num

/-- Circular dependencies are reported if and only if there are some, and the report names the tasks on a cycle. -/
structure FindsCycles (artifactMd : DocText) : Prop where
  reported : (∃ issue ∈ dependencyIssues texts artifactMd, issue.code = "invalid_task_dependency_order") ↔
    ∃ num, Circular texts artifactMd num
  named : ∀ issue ∈ dependencyIssues texts artifactMd, issue.code = "invalid_task_dependency_order" →
    ∃ nums, issue.reference = .some (taskRefs nums) ∧ ∀ num, num ∈ nums ↔ Circular texts artifactMd num

end Thought2Build.Pipeline
