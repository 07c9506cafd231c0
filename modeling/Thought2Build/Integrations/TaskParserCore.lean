import Thought2Build.Library.Patterns
import Thought2Build.Pipeline.GenerationRunsCore

/-! The tasks of a TASKS document, their stable references, and the issues that a pull request closes. -/

namespace Thought2Build.Integrations

open Patterns Pattern
open Pipeline (isSpace strip)

structure Texts where
  /-- The value of a character of `\d`. -/
  digit : Char → Option Nat
  /-- `\w` -/
  isWord : Char → Bool
  /-- Equality under `re.IGNORECASE`. -/
  sameLetter : Char → Char → Bool
  casefold : String → String
  /-- `hashlib.sha256(text.encode()).hexdigest()` -/
  sha256 : String → String

namespace Texts

variable (texts : Texts)

def isDigit (letter : Char) : Bool := (texts.digit letter).isSome

def int (letters : List Char) : Nat :=
  letters.foldl (fun value letter => 10 * value + (texts.digit letter).getD 0) 0

def collapseSpaces (inSpace : Bool) : List Char → List Char
  | [] => []
  | letter :: rest =>
      if isSpace letter then
        if inSpace then collapseSpaces true rest else ' ' :: collapseSpaces true rest
      else letter :: collapseSpaces false rest

def normalizedTaskTitle (title : String) : String :=
  texts.casefold (strip (String.ofList (collapseSpaces false title.toList)))

def computeTaskRef (title : String) (occurrence : Nat) : String :=
  let seed := "tasks\x1f" ++ texts.normalizedTaskTitle title
  let salted := if occurrence = 0 then seed else seed ++ "\x1f" ++ toString occurrence
  String.ofList ("task-".toList ++ (texts.sha256 salted).toList.take 12)

def taskNumber : Pattern := sequence [literal "T-", some texts.isDigit]

def taskHeading : Pattern := sequence [
  lineStart, literal "###", some isSpace, group texts.taskNumber, one (· = ':'), some isSpace,
  group (andThen (one (· ≠ '\n')) (few (· ≠ '\n'))), many isSpace, lineEnd]

end Texts

structure ParsedTask where
  ref : String
  title : String
  rawBody : String
  taskRef : String
  deriving DecidableEq

namespace Texts

variable (texts : Texts)

/-- The task of a heading: its body ends where the next heading starts, and titles that came before count
as its occurrence. -/
def taskAt (length : Nat) (seen : List String) (heading : Cursor × Cursor) (following : List (Cursor × Cursor)) :
    Option ParsedTask :=
  match heading.2.groups with
  | title :: ref :: _ =>
      let title := strip (String.ofList title)
      let bodyEnd := (following.head?.map fun next => next.1.before.length).getD length
      let body := heading.2.ahead.take (bodyEnd - heading.2.before.length)
      .some {
        ref := String.ofList ref, title, rawBody := strip (String.ofList body)
        taskRef := texts.computeTaskRef title (seen.count (texts.normalizedTaskTitle title)) }
  | _ => none

def tasksFrom (length : Nat) (seen : List String) : List (Cursor × Cursor) → List ParsedTask
  | [] => []
  | heading :: following =>
      match texts.taskAt length seen heading following with
      | none => tasksFrom length seen following
      | .some task => task :: tasksFrom length (texts.normalizedTaskTitle task.title :: seen) following

def parseTasks (content : String) : List ParsedTask :=
  texts.tasksFrom content.toList.length [] (findIter texts.taskHeading content.toList)

/-! Closing keywords -/

def keyword (text : String) : Pattern :=
  sequence (text.toList.map fun letter => one (texts.sameLetter letter))

def letterIn (letters : List Char) : Pattern := one fun letter => letters.any (texts.sameLetter · letter)

def closesPattern : Pattern := sequence [
  boundary texts.isWord,
  either (andThen (texts.keyword "close") (optional (texts.letterIn ['s', 'd'])))
    (either (andThen (texts.keyword "fix")
        (optional (andThen (texts.keyword "e") (texts.letterIn ['s', 'd']))))
      (andThen (texts.keyword "resolve") (optional (texts.letterIn ['s', 'd'])))),
  some isSpace, one (· = '#'), group (some texts.isDigit), boundary texts.isWord]

def closedIssues (body : String) : List Nat :=
  (findIter texts.closesPattern body.toList).filterMap fun found => found.2.groups.head?.map texts.int

end Texts

def sampleTexts : Texts where
  digit letter := if '0' ≤ letter ∧ letter ≤ '9' then .some (letter.toNat - '0'.toNat) else none
  isWord letter := letter.isAlphanum || letter = '_'
  sameLetter first second := first.toLower = second.toLower
  casefold text := String.ofList (text.toList.map Char.toLower)
  sha256 text := String.ofList (text.toList.drop 6)

end Thought2Build.Integrations
