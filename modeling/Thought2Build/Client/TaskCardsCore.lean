import Mathlib.Data.List.DropRight
import Thought2Build.Library.PatternPlaces

/-!
The cards of the tasks stage: the blocks that the front end cuts a TASKS document into, and what it shows before them.
Of a block only what says which task it is and which text it shows is kept.
-/

namespace Thought2Build.Client

open Patterns Pattern

/-! Expressions of JavaScript -/

def whiteSpace (letter : Char) : Bool :=
  let code := letter.toNat
  (9 ≤ code && code ≤ 13) || code = 0x20 || code = 0xA0 || code = 0x1680 || (0x2000 ≤ code && code ≤ 0x200A) ||
    code = 0x2028 || code = 0x2029 || code = 0x202F || code = 0x205F || code = 0x3000 || code = 0xFEFF

/-- What `.` leaves out, and what `^` and `$` look for under the flag m -/
def lineTerminator (letter : Char) : Bool :=
  letter = '\n' || letter = '\r' || letter.toNat = 0x2028 || letter.toNat = 0x2029

def decimal (letter : Char) : Bool := '0' ≤ letter && letter ≤ '9'

def lineOpens : Pattern := boundary fun letter => !lineTerminator letter

def trim (text : List Char) : List Char := (text.dropWhile whiteSpace).rdropWhile whiteSpace

def exec (pattern : Pattern) (text : List Char) : Option (Cursor × Cursor) :=
  (places [] text).findSome? (matchAt pattern)

def execLine (pattern : Pattern) (text : List Char) : Option Cursor :=
  (places [] text).findSome? fun place =>
    (ends pattern place).find? fun finish => finish.ahead.head?.all lineTerminator

/-! Headings -/

def taskMark : Pattern :=
  sequence [literal "###", some whiteSpace, literal "T-", some decimal, many whiteSpace, one (· = ':')]

def taskOpening : Pattern := sequence [lineOpens, taskMark]

/-- `/^###\s+T-\d+\s*:.*$/gm`, where the line always ends behind what `.*` takes -/
def taskLine : Pattern := sequence [lineOpens, taskMark, many fun letter => !lineTerminator letter]

def sectionMark : Pattern := sequence [literal "##", some whiteSpace]

def nextBoundary : Pattern := sequence [lineOpens, either taskMark sectionMark]

def cardHeading : Pattern := sequence [
  lineOpens, literal "###", some whiteSpace,
  group (sequence [one fun letter => letter = 'T' || letter = 't', literal "-", some decimal]),
  many whiteSpace, one (· = ':'), many whiteSpace,
  group (andThen (one fun letter => !lineTerminator letter) (few fun letter => !lineTerminator letter)),
  many whiteSpace]

/-! Blocks -/

structure TaskBlock where
  id : List Char
  title : List Char
  raw : List Char
  deriving DecidableEq

def parseSingleTaskBlock (raw : List Char) : Option TaskBlock :=
  (execLine cardHeading raw).bind fun headingMatch =>
    match headingMatch.groups with
    | title :: id :: _ => .some { id, title, raw := trim raw }
    | _ => none

def afterHeadingLine (start : List Char) : List Char := (start.dropWhile (· ≠ '\n')).drop 1

def blockText (start : List Char) : List Char :=
  let rest := afterHeadingLine start
  let stop := match exec nextBoundary rest with
    | .some found => found.1.before.length
    | none => rest.length
  start.take (start.length - rest.length + stop)

def parseTaskBlocks (content : List Char) : List TaskBlock :=
  (findIter taskLine content).filterMap fun found => parseSingleTaskBlock (blockText found.1.ahead)

def extractTaskFrontMatter (content : List Char) : List Char :=
  match exec taskOpening content with
  | none => content
  | .some found => trim found.1.before.reverse

end Thought2Build.Client
