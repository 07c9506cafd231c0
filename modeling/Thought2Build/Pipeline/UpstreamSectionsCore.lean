import Thought2Build.Pipeline.DedupeCore
import Thought2Build.Pipeline.HarnessFindingsCore
import Thought2Build.Pipeline.IncrementsCore
import Thought2Build.Pipeline.SectionBodiesCore

/-!
The headings of a document, outside of fences and comments, and what of an upstream artifact that is too long goes into
a prompt: the sections of the keep list as they are, the rest as a summary.
-/

namespace Thought2Build.Pipeline

open Patterns Pattern
open Integrations (Texts WorkspaceMode)
open Integrations.Texts (isLineBreak)

/-! Lines -/

namespace DocText

/-- `text.splitlines(keepends=True)`; the line that is being read comes in reverse. -/
def keptLines (line : DocText) : DocText → List DocText
  | [] => if line = [] then [] else [line.reverse]
  | '\r' :: '\n' :: rest => ('\n' :: '\r' :: line).reverse :: keptLines [] rest
  | letter :: rest =>
      if isLineBreak letter then (letter :: line).reverse :: keptLines [] rest else keptLines (letter :: line) rest

def afterFirst (mark : DocText) : DocText → Option DocText
  | [] => if mark = [] then .some [] else none
  | letter :: rest =>
      if mark.isPrefixOf (letter :: rest) then .some ((letter :: rest).drop mark.length) else afterFirst mark rest

def has (mark : String) (text : DocText) : Bool := (afterFirst mark.toList text).isSome

def slice (text : DocText) (start stop : Nat) : DocText := (text.take stop).drop start

end DocText

open DocText

def fullMatch (pattern : Pattern) (text : DocText) : Bool :=
  (ends pattern { ahead := text }).any fun finish => finish.ahead = []

/-! Headings -/

def fenceOpening : Pattern := sequence [
  lineStart, upToThreeSpaces,
  group (either (andThen (literal "```") (many (· = backtick))) (andThen (literal "~~~") (many (· = '~'))))]

def fenceClosing (fence : DocText) : Pattern := sequence [
  upToThreeSpaces, sequence (fence.map fun _ => one (· = fence.headD backtick)), many (· = fence.headD backtick),
  many isSpace]

def atxHeading : Pattern := sequence [
  lineStart, upToThreeSpaces, group (andThen (one (· = '#')) (upTo (· = '#') 5)), some isBlank,
  group (andThen (one (· ≠ '\n')) (few (· ≠ '\n'))), many isSpace, textEnd]

def closingSigns : Pattern := sequence [some isBlank, some (· = '#'), many isBlank, textEnd]

/-- `re.sub` of `closingSigns`, which stand at the end and so once at most -/
def dropClosingSigns (title : DocText) : DocText :=
  match (findIter closingSigns title).head? with
  | none => title
  | .some found => title.take found.1.before.length ++ found.2.ahead

def headingText (line : DocText) : Option DocText :=
  (matchStart atxHeading line).map fun finish =>
    finish.groups.getLastD [] ++ ' ' :: dropClosingSigns (finish.groups.headD [])

structure DocHeading where
  text : DocText
  start : Nat
  stop : Nat
  deriving DecidableEq

structure HeadingScan where
  fence : Option DocText := none
  inComment : Bool := false
  deriving DecidableEq

def HeadingScan.read (scan : HeadingScan) (line : DocText) : HeadingScan × Option DocText :=
  if scan.inComment then ({ scan with inComment := !has "-->" line }, none)
  else
    match scan.fence with
    | .some fence => (if fullMatch (fenceClosing fence) line then { scan with fence := none } else scan, none)
    | none =>
        match afterFirst "<!--".toList line with
        | .some rest => ({ scan with inComment := !has "-->" rest }, none)
        | none =>
            if ((line.dropWhile (· = ' ')).head?.any fun letter =>
                letter = '#' || letter = backtick || letter = '~') then
              match firstGroup fenceOpening line with
              | .some fence => ({ scan with fence := .some fence }, none)
              | none => (scan, headingText line)
            else (scan, none)

def headingsFrom (scan : HeadingScan) (offset : Nat) : List DocText → List DocHeading
  | [] => []
  | line :: rest =>
      let (next, heading) := scan.read line
      let later := headingsFrom next (offset + line.length) rest
      match heading with
      | .some text => { text, start := offset, stop := offset + line.length } :: later
      | none => later

def headings (text : DocText) : List DocHeading := headingsFrom {} 0 (keptLines [] text)

def matchesHeading (actual required : DocText) : Bool :=
  actual = required || fullMatch (sequence [
    sequence (required.map fun letter => one (· = letter)), some isBlank, one (· = '('),
    many fun letter => letter ≠ '(' && letter ≠ ')' && letter ≠ '\n', one (· = ')')]) actual

def summaryRequirementId (texts : Texts) : Pattern := sequence [
  boundary texts.isWord, requirementKind, one (· = '-'), texts.threeDigits,
  optional (andThen (one (· = '.')) (some texts.isDigit)), boundary texts.isWord]

/-! Sections -/

def maxUpstreamChars : Nat := 200000

def stageKeepSections : StageType → List String
  | .spec => ["## In-Scope (MVP)", "## User Stories", "## Functional Requirements", "## Non-Functional Requirements",
      "## Security, Privacy, and Abuse Expectations", "## Conceptual Domain Model", "## Acceptance Criteria"]
  | .plan => ["## Requirement Traceability Matrix", "## API Design", "## Security Architecture",
      "## Data Model and Persistence", "## Frontend Architecture"]
  | .harness => ["## Requirement-to-Test Matrix", "## File Tree"]
  | .tasks => []

def demoDayStageKeepSections : StageType → List String
  | .spec => ["## Functional Requirements", "## Acceptance Criteria", "## Demo Day Scope", "## Out of Scope",
      "## Security Posture"]
  | .plan => ["## Requirement Traceability Matrix", "## Interface Contracts", "## Data Model and Persistence",
      "## External Integrations and Secrets", "## Security Architecture", "## Frontend Architecture"]
  | .harness => ["## Requirement-to-Test Matrix", "## End-to-End Smoke Test", "## File Tree"]
  | .tasks => []

def keepSections (stageType : StageType) : WorkspaceMode → List String
  | .demoDay => demoDayStageKeepSections stageType
  | .standard => stageKeepSections stageType

structure H2Part where
  heading : DocText
  body : DocText

def H2Part.full (part : H2Part) : DocText := part.heading ++ '\n' :: part.body

def h2Parts (content : DocText) : List DocHeading → List H2Part
  | [] => []
  | heading :: rest =>
      let stop := (rest.head?.map DocHeading.start).getD content.length
      { heading := heading.text, body := slice content heading.stop stop } :: h2Parts content rest

def splitByH2 (content : DocText) : List H2Part :=
  let sections := (headings content).filter fun heading => "## ".toList.isPrefixOf heading.text
  let preamble := content.take ((sections.head?.map DocHeading.start).getD content.length)
  if DocText.strip preamble = [] then h2Parts content sections
  else { heading := [], body := preamble } :: h2Parts content sections

def H2Part.critical (keep : List String) (part : H2Part) : Bool :=
  keep.any fun item => matchesHeading part.heading item.toList

def stageTypeName : StageType → String
  | .spec => "spec"
  | .plan => "plan"
  | .harness => "harness"
  | .tasks => "tasks"

structure ContextBudgetError where
  message : DocText

def contextBudgetError (stageType : StageType) (heading : DocText) : ContextBudgetError where
  message := ofParts ["Cannot preserve ", stageTypeName stageType, " "] ++ heading ++
    " within the context budget. Split the upstream artifact before continuing.".toList

structure Injection where
  preserved : List DocText := []
  summarized : List DocText := []
  budgetRemaining : Int

def Injection.take (stageType : StageType) (keep : List String) (injection : Injection) (part : H2Part) :
    Except ContextBudgetError Injection :=
  if part.critical keep then
    if (part.full.length : Int) ≤ injection.budgetRemaining then
      .ok { injection with
        preserved := injection.preserved ++ [part.full]
        budgetRemaining := injection.budgetRemaining - (part.full.length + 2) }
    else .error (contextBudgetError stageType part.heading)
  else .ok { injection with summarized := injection.summarized ++ [part.full] }

def sectionAwareInjection (summarize : StageType → DocText → DocText) (stageType : StageType) (content : DocText)
    (mode : WorkspaceMode) : Except ContextBudgetError DocText := do
  let last ← (splitByH2 content).foldlM (Injection.take stageType (keepSections stageType mode))
    { budgetRemaining := maxUpstreamChars }
  let summary := summarize stageType ("\n".toList.intercalate last.summarized)
  return "\n\n".toList.intercalate (last.preserved ++ [summary.take last.budgetRemaining.toNat])

end Thought2Build.Pipeline
