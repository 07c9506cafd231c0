import Thought2Build.Evals.EvalResultsCore
import Thought2Build.Evals.RequirementCoverageCore
import Thought2Build.Integrations.TaskReadersCore

/-!
The structural check of a TASKS document against a harness: the references that each task names, the gaps that are
reported for them, and the flag of the evaluation.
-/

namespace Thought2Build.Evals

open Patterns Pattern Pipeline
open Integrations (Texts)
open Integrations.Texts (rstripLine)

def ascii (text : String) : DocText := text.toList

/-! Tasks -/

structure TaskLines where
  number : Nat
  title : DocText
  block : List DocText

section

variable (texts : Texts)

def headingOf (line : DocText) : Option (Nat × DocText) :=
  (matchStart texts.evaluatedHeading (rstripLine line)).bind fun found =>
    match found.groups with
    | title :: digits :: _ => .some (texts.int digits, DocText.strip title)
    | _ => none

def cutTasks : List DocText → List DocText × List TaskLines
  | [] => ([], [])
  | line :: rest =>
      let (block, tasks) := cutTasks rest
      match headingOf texts line with
      | .some (number, title) => ([], { number, title, block := line :: block } :: tasks)
      | none => (line :: block, tasks)

def taskLines (tasksContent : DocText) : List TaskLines := (cutTasks texts (tasksContent.splitOn '\n')).2

def harnessRefsFieldStart : Pattern := sequence [
  lineStart, literal "**", texts.keyword "Harness", some isSpace, texts.keyword "refs:", literal "**"]

def boldFieldStart : Pattern := sequence [lineStart, literal "**", one texts.isWord]

def setupOnlyMarker : Pattern := either
  (sequence [literal "_(", texts.keyword "none"])
  (sequence [texts.keyword "none", many isSpace,
    one fun letter => letter = '\u2014' || letter = '\u2013' || letter = '-'])

def backtickRef : Pattern := sequence [
  one (· = DocText.backtick), group (some (· ≠ DocText.backtick)), one (· = DocText.backtick)]

def harnessRefsField (block : List DocText) : Option DocText :=
  match block.dropWhile fun line => (matchStart (harnessRefsFieldStart texts) line).isNone with
  | [] => none
  | first :: rest =>
      let more := rest.takeWhile fun line =>
        let stripped := DocText.strip line
        (matchStart (boldFieldStart texts) stripped).isNone && !(ascii "###").isPrefixOf stripped
      .some (['\n'].intercalate (first :: more))

def setupOnly (refsText : DocText) : Bool := findIter (setupOnlyMarker texts) refsText ≠ []

end

def backtickRefs (refsText : DocText) : List DocText :=
  (findIter backtickRef refsText).filterMap fun found => found.2.groups.head?

structure TaskRefs where
  taskNumber : Nat
  taskTitle : DocText
  harnessRefs : Option (List DocText)

def parseTaskBlocks (texts : Texts) (tasksContent : DocText) : List TaskRefs :=
  (taskLines texts tasksContent).map fun task => {
    taskNumber := task.number, taskTitle := task.title
    harnessRefs := (harnessRefsField texts task.block).map fun refsText =>
      if setupOnly texts refsText then [] else backtickRefs refsText }

/-! Categories -/

section

variable (texts : Texts) (cases : LetterCases)

def normaliseCategoryToken (value : DocText) : DocText :=
  (cases.lower value).filter fun letter => ('a' ≤ letter && letter ≤ 'z') || ('0' ≤ letter && letter ≤ '9')

def testCategoryGap : Pattern := sequence [
  texts.keyword "TestCategoryGap:", many isSpace, texts.keyword "category=",
  group (some fun letter =>
    (ascii "ABCDEFGHIJKLMNOPQRSTUVWXYZabcdefghijklmnopqrstuvwxyz0123456789_.-").any (texts.sameLetter · letter))]

def extractDroppedCategories (harnessContent : DocText) : List DocText :=
  ((findIter (testCategoryGap texts) harnessContent).filterMap fun found =>
    found.2.groups.head?.map (normaliseCategoryToken cases)).filter (· ≠ [])

def wordJoins (words : List DocText) : List DocText :=
  (List.range words.length).flatMap fun i => (List.range (words.length + 1)).filterMap fun j =>
    if i + 2 ≤ j then .some ((words.drop i).take (j - i)).flatten else none

def segmentTokens (segment : DocText) : List DocText :=
  let stem := segment.takeWhile (· ≠ '.')
  let words := (segment.splitOnP fun letter => letter = '.' || letter = '_' || letter = '-').filter (· ≠ [])
  ((stem :: words ++ wordJoins words).map (normaliseCategoryToken cases)).filter (· ≠ [])

def refInDroppedCategory (ref : DocText) (droppedCategories : List DocText) : Bool :=
  let normalized := DocText.dropHarness (DocText.forwardSlashes (DocText.strip ref))
  let filePart := (DocText.splitScopes normalized).headD []
  let tokens := (filePart.splitOn '/').flatMap (segmentTokens cases)
  droppedCategories.any tokens.contains

end

/-! References -/

def refMatchesHarness (texts : Texts) (ref : DocText) (knownRefs : Finset DocText) : Bool :=
  let normalized := normaliseHarnessRef ref
  let parts := DocText.splitScopes normalized
  if normalized ∈ knownRefs then true
  else if 2 ≤ parts.length ∧ DocText.joinScopes (parts.drop (parts.length - 2)) ∈ knownRefs then true
  else if parts.getLastD [] ∈ knownRefs then true
  else if parts.length = 1 then
    let canon := canonicalTestPath texts normalized
    canon ≠ [] && canon ∈ knownRefs
  else false

inductive GapType where
  | generationFailure
  | genuineGap
  | deferredCoverage
  | unverifiedCoverage
  | missingPriority
  | missingEstimate
  deriving DecidableEq

def GapType.text : GapType → String
  | .generationFailure => "GENERATION_FAILURE"
  | .genuineGap => "GENUINE_GAP"
  | .deferredCoverage => "DEFERRED_COVERAGE"
  | .unverifiedCoverage => "UNVERIFIED_COVERAGE"
  | .missingPriority => "MISSING_PRIORITY"
  | .missingEstimate => "MISSING_ESTIMATE"

section

variable (texts : Texts) (cases : LetterCases)

def classifyUnmatchedRef (ref : DocText) (index : HarnessTestIndex) (droppedCategories : List DocText) : GapType :=
  if refInDroppedCategory cases ref droppedCategories then .deferredCoverage
  else
    let fileCanon := canonicalTestPath texts ref
    if fileCanon ∈ index.knownFiles ∧ fileCanon ∉ index.filesWithTests then
      if fileCanon ∉ index.filesWithBody ∨ (ascii ".py").isSuffixOf fileCanon then .genuineGap
      else .unverifiedCoverage
    else .genuineGap

end

/-! Issues -/

structure GapDetails where
  harnessFile : Option DocText
  className : Option DocText
  fnName : DocText
  codeStub : Option DocText
  remediation : DocText

def isWholeFile (normalized : DocText) : Bool :=
  let pattern : Pattern := sequence [
    some fun letter => !isSpace letter && letter ≠ DocText.backtick, one (· = '.'), some Char.isAlphanum]
  (ends pattern { ahead := normalized }).any fun finish => finish.ahead.isEmpty

def inTicks (text : DocText) : DocText := ascii "`" ++ text ++ ascii "`"

def methodStub (className fnName : DocText) : DocText :=
  ascii "class " ++ className ++ ascii ":\n    def " ++ fnName ++ ascii "(self):\n        pass"

def functionStub (fnName : DocText) : DocText := ascii "def " ++ fnName ++ ascii "():\n    pass"

def buildGapDetails (missingRef : DocText) : GapDetails :=
  let normalized := normaliseHarnessRef missingRef
  let parts := DocText.splitScopes normalized
  let whole := parts.length = 1 && isWholeFile normalized
  match parts with
  | [filePath, className, fnName] =>
      if '/' ∈ filePath then
        let harnessFile := ascii "harness/" ++ filePath
        { harnessFile := .some harnessFile, className := .some className, fnName
          codeStub := .some (methodStub className fnName)
          remediation := ascii "In " ++ inTicks harnessFile ++ ascii ", add " ++
            inTicks (ascii "def " ++ fnName ++ ascii "(self)") ++ ascii " to the " ++ inTicks className ++
            ascii " class." }
      else bare filePath
  | [first, fnName] =>
      if '/' ∈ first then
        let harnessFile := ascii "harness/" ++ first
        { harnessFile := .some harnessFile, className := none, fnName, codeStub := .some (functionStub fnName)
          remediation := ascii "In " ++ inTicks harnessFile ++ ascii ", add " ++
            inTicks (ascii "def " ++ fnName ++ ascii "()") ++ ascii "." }
      else
        { harnessFile := none, className := .some first, fnName, codeStub := .some (methodStub first fnName)
          remediation := ascii "Add " ++ inTicks (ascii "def " ++ fnName ++ ascii "(self)") ++ ascii " to the " ++
            inTicks first ++ ascii " class in your harness." }
  | first :: _ =>
      if whole then
        let harnessFile := ascii "harness/" ++ normalized
        { harnessFile := .some harnessFile, className := none, fnName := (normalized.splitOn '/').getLastD []
          codeStub := none, remediation := ascii "Add the missing harness file " ++ inTicks harnessFile ++ ascii "." }
      else bare first
  | [] => bare []
where
  bare (fnName : DocText) : GapDetails := {
    harnessFile := none, className := none, fnName, codeStub := .some (functionStub fnName)
    remediation := ascii "Add " ++ inTicks (ascii "def " ++ fnName ++ ascii "()") ++
      ascii " to a test file in your harness." }

structure Issue where
  taskNumber : Nat
  taskTitle : DocText
  reason : DocText
  referencedTest : Option DocText
  gapType : GapType
  remediation : Option DocText
  harnessFile : Option DocText
  codeStub : Option DocText

/-! Fields -/

section

variable (texts : Texts) (cases : LetterCases)

def fieldLine (name : String) : Pattern := sequence [
  lineStart, many fun letter => isSpace letter || letter = '-' || letter = '*', literal "**", many isSpace,
  texts.keyword name, many isSpace, optional (one (· = ':')), many isSpace, literal "**", many isSpace,
  optional (one (· = ':')), many isSpace, group (andThen (one (· ≠ '\n')) (few (· ≠ '\n'))), many isSpace, textEnd]

def extractFieldValue (pattern : Pattern) (line : DocText) : Option DocText :=
  (matchStart pattern (rstripLine line)).bind fun found =>
    found.groups.head?.bind fun group =>
      let value := DocText.strip group
      let paren := value.findIdx (· = '(')
      let value := if 0 < paren ∧ paren < value.length then DocText.strip (value.take paren) else value
      let value := stripOf (ascii "`*_ .,;") value
      if value = [] then none else .some value

structure FieldCheck where
  name : String
  gapType : GapType
  missing : String
  enum : List String
  expected : String
  remediation : String

def priorityCheck : FieldCheck where
  name := "Priority"
  gapType := .missingPriority
  missing := "Task is missing a **Priority:** line."
  enum := ["MUST", "SHOULD", "COULD"]
  expected := " is not a valid Priority (expected MUST/SHOULD/COULD)."
  remediation := "Add `**Priority:** MUST` (or SHOULD/COULD) to this task."

def estimateCheck : FieldCheck where
  name := "Estimate"
  gapType := .missingEstimate
  missing := "Task is missing an **Estimate:** line."
  enum := ["S", "M", "L", "XL"]
  expected := " is not a valid Estimate (expected S/M/L/XL)."
  remediation := "Add `**Estimate:** S` (or M/L/XL) to this task."

def fieldIssue (check : FieldCheck) (task : TaskLines) : Option Issue :=
  let value := task.block.findSome? (extractFieldValue (fieldLine texts check.name))
  let issue (reason : DocText) : Issue := {
    taskNumber := task.number, taskTitle := task.title, reason, referencedTest := none, gapType := check.gapType
    remediation := .some (ascii check.remediation), harnessFile := none, codeStub := none }
  match value with
  | none => .some (issue (ascii check.missing))
  | .some value =>
      if cases.upper value ∈ check.enum.map ascii then none else .some (issue (inTicks value ++ ascii check.expected))

def validateTaskFields (tasksContent : DocText) : List Issue :=
  (taskLines texts tasksContent).flatMap fun task =>
    (fieldIssue texts cases priorityCheck task).toList ++ (fieldIssue texts cases estimateCheck task).toList

/-! The check -/

def genuineIssue (task : TaskRefs) (missing : DocText) : Issue :=
  let details := buildGapDetails missing
  { taskNumber := task.taskNumber, taskTitle := task.taskTitle
    reason := inTicks missing ++ ascii " is referenced but not found in the harness."
    referencedTest := .some missing, gapType := .genuineGap, remediation := .some details.remediation
    harnessFile := details.harnessFile, codeStub := details.codeStub }

def deferredIssue (task : TaskRefs) (ref : DocText) : Issue := {
  taskNumber := task.taskNumber, taskTitle := task.taskTitle
  reason := inTicks ref ++ ascii (" belongs to a test category the harness deferred under its token budget " ++
    "(recorded as a TestCategoryGap), so it was not generated yet.")
  referencedTest := .some ref, gapType := .deferredCoverage
  remediation := .some (ascii ("This coverage was intentionally deferred by the harness under its token budget, not " ++
    "lost. Open the HARNESS stage and use its free Regenerate to generate the deferred tests, or mark this task " ++
    "setup-only if the deferral is acceptable for now."))
  harnessFile := (buildGapDetails ref).harnessFile, codeStub := none }

def unverifiedIssue (task : TaskRefs) (ref : DocText) : Issue := {
  taskNumber := task.taskNumber, taskTitle := task.taskTitle
  reason := inTicks ref ++ ascii (" names a harness file that exists, but its individual tests could not be parsed " ++
    "for automatic verification (an unusual code-fence or a language the checker does not read).")
  referencedTest := .some ref, gapType := .unverifiedCoverage
  remediation := .some (ascii ("The referenced file is present in the harness. Open the HARNESS stage to confirm the " ++
    "test exists \u2014 this is a checker limitation, not a confirmed gap."))
  harnessFile := (buildGapDetails ref).harnessFile, codeStub := none }

def failureIssue (task : TaskRefs) : Issue := {
  taskNumber := task.taskNumber, taskTitle := task.taskTitle, reason := ascii "Task is missing its Harness refs field."
  referencedTest := none, gapType := .generationFailure, remediation := none, harnessFile := none, codeStub := none }

def referenceIssue (index : HarnessTestIndex) (droppedCategories : List DocText) (task : TaskRefs) : Option Issue :=
  match task.harnessRefs with
  | none => .some (failureIssue task)
  | .some refs =>
      let unmatched := refs.filter fun ref => !refMatchesHarness texts ref index.knownRefs
      let kind (ref : DocText) := classifyUnmatchedRef texts cases ref index droppedCategories
      let genuine := unmatched.filter fun ref => kind ref = .genuineGap
      let deferred := unmatched.filter fun ref => kind ref = .deferredCoverage
      let unverified := unmatched.filter fun ref => kind ref = .unverifiedCoverage
      match genuine, deferred, unverified with
      | missing :: _, _, _ => .some (genuineIssue task missing)
      | [], ref :: _, _ => .some (deferredIssue task ref)
      | [], [], ref :: _ => .some (unverifiedIssue task ref)
      | [], [], [] => none

def validateTaskReferences (tasksContent harnessContent : DocText) : List Issue :=
  let index := harnessTestIndex texts harnessContent
  let droppedCategories := extractDroppedCategories texts cases harnessContent
  (parseTaskBlocks texts tasksContent).filterMap (referenceIssue texts cases index droppedCategories) ++
    validateTaskFields texts cases tasksContent

def taskReferences (tasksContent : DocText) (harness : String) : List TaskIssue :=
  (validateTaskReferences texts cases tasksContent harness.toList).map fun issue =>
    { gapType := .some issue.gapType.text, detail := String.ofList issue.reason }

end

end Thought2Build.Evals
