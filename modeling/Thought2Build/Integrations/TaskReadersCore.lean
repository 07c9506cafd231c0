import Thought2Build.Integrations.TaskParserCore
import Thought2Build.Library.PatternPlaces

/-!
Four readers of a TASKS document: the exporter, the construction linter, the reconciliation of the effort summary and
the evaluation. Each has its own expression for the heading of a task.
-/

namespace Thought2Build.Integrations

open Patterns Pattern
open Pipeline (isSpace)

structure TaskBlock where
  number : Nat
  start : Nat
  stop : Nat
  deriving DecidableEq

def blocksOf (length : Nat) : List (Nat × Option Nat) → List TaskBlock
  | [] => []
  | (start, number) :: rest =>
      let stop := (rest.head?.map (·.1)).getD length
      match number with
      | none => blocksOf length rest
      | .some number => { number, start, stop } :: blocksOf length rest

namespace Texts

variable (texts : Texts)

/-! The exporter -/

def refNumber (found : Cursor × Cursor) : Option Nat :=
  match found.2.groups with
  | _ :: ref :: _ => .some (texts.int (ref.drop 2))
  | _ => none

def exportedBlocks (content : String) : List TaskBlock :=
  blocksOf content.toList.length <| (findIter texts.taskHeading content.toList).map fun found =>
    (found.1.before.length, texts.refNumber found)

/-! The linter -/

def threeDigits : Pattern := sequence [one texts.isDigit, one texts.isDigit, one texts.isDigit]

def taskHeader : Pattern := sequence [
  lineStart, literal "###", some isSpace, literal "T-", texts.threeDigits, one (· = ':')]

def taskDep : Pattern := sequence [
  boundary texts.isWord, literal "T-", group texts.threeDigits, boundary texts.isWord]

def headerNumber (found : Cursor × Cursor) : Option Nat :=
  (findIter texts.taskDep (found.1.read found.2)).head?.bind fun dep => dep.2.groups.head?.map texts.int

def lintedBlocks (content : String) : List TaskBlock :=
  blocksOf content.toList.length <| (findIter texts.taskHeader content.toList).map fun found =>
    (found.1.before.length, texts.headerNumber found)

/-! The reconciliation -/

def effortHeading : Pattern := sequence [
  lineStart, literal "###", some isSpace, literal "T-", some texts.isDigit, one (· = ':')]

def rstripLine (line : List Char) : List Char := line.rdropWhile isSpace

def hasEffortSummary (content : String) : Bool :=
  (content.toList.splitOn '\n').any fun line =>
    rstripLine line = "## Effort Summary".toList || "## Effort Summary ".toList.isPrefixOf (rstripLine line)

/-- Where the blocks start that `reconcile_effort_summary` counts, if there is a summary -/
def effortStarts (content : String) : Option (List Nat) :=
  if hasEffortSummary content then
    .some <| (linesFrom 0 (content.toList.splitOn '\n')).filterMap fun line =>
      (matchStart texts.effortHeading (rstripLine line.2)).map fun _ => line.1
  else none

/-! The evaluation -/

def evaluatedHeading : Pattern := sequence [
  lineStart, literal "###", some isSpace, literal "T-", group (some texts.isDigit), one (· = ':'), some isSpace,
  group (some (· ≠ '\n')), textEnd]

def evaluatedNumber (finish : Cursor) : Option Nat :=
  match finish.groups with
  | _ :: digits :: _ => .some (texts.int digits)
  | _ => none

def evaluatedBlocks (content : String) : List TaskBlock :=
  blocksOf content.toList.length <| (linesFrom 0 (content.toList.splitOn '\n')).filterMap fun line =>
    (matchStart texts.evaluatedHeading (rstripLine line.2)).map fun finish => (line.1, texts.evaluatedNumber finish)

end Texts

end Thought2Build.Integrations
