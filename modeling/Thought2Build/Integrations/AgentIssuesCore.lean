import Thought2Build.Library.HeaderTexts
import Thought2Build.Pipeline.DedupeCore

/-! The issue that a coding agent gets for a task: a header in YAML and five sections of text. -/

namespace Thought2Build.Integrations

open Pipeline (DocText StageType isSpace sectionContracts)
open Pipeline.DocText (backtick)
open HeaderTexts Trimming

structure IssueTexts where
  lower : DocText → DocText
  /-- `sanitize_text`, of which nothing is assumed -/
  sanitizeText : DocText → DocText

def joinLines (lines : List DocText) : DocText := ['\n'].intercalate lines

def agentLabels : List String := ["thought2build", "stage:tasks", "ready-for-agent"]

def contextFields : List String := ["context", "description", "summary", "overview", "goal"]

def acceptanceFields : List String := ["acceptance criteria", "acceptance", "definition of done"]

def filesFields : List String :=
  ["files", "affected modules/files", "affected files", "affected modules", "affected"]

def testFields : List String := ["harness refs", "test that must pass", "tests", "test"]

/-! Fields -/

/-- `_BOLD_FIELD`, on a line without white space at its ends: the name and the rest -/
def boldField (line : DocText) : Option (DocText × DocText) :=
  let name := (line.drop 2).takeWhile (· ≠ '*')
  let behind := line.drop (2 + name.length)
  if "**".toList.isPrefixOf line && 2 ≤ name.length && name.getLast? = some ':' && "**".toList.isPrefixOf behind then
    some (name.dropLast, (behind.drop 2).dropWhile isSpace)
  else none

structure BoldFields where
  fields : List (DocText × DocText) := []
  current : Option DocText := none
  buffer : List DocText := []

def BoldFields.flush (read : BoldFields) : List (DocText × DocText) :=
  match read.current with
  | none => read.fields
  | some name =>
      if read.fields.any fun field => field.1 = name then read.fields
      else read.fields ++ [(name, DocText.strip (joinLines read.buffer))]

section

variable (issue : IssueTexts)

def BoldFields.readLine (read : BoldFields) (line : DocText) : BoldFields :=
  match boldField (DocText.strip line) with
  | some (name, rest) => ⟨read.flush, some (issue.lower (DocText.strip name)), [DocText.strip rest]⟩
  | none =>
      if (line.dropWhile isSpace).head? = some '#' then ⟨read.flush, none, []⟩
      else if read.current.isSome then { read with buffer := read.buffer ++ [line] }
      else read

def extractBoldFields (rawBody : DocText) : List (DocText × DocText) :=
  ((rawBody.splitOn '\n').foldl (BoldFields.readLine issue) {}).flush

def leadingProse (rawBody : DocText) : DocText :=
  DocText.strip (joinLines ((rawBody.splitOn '\n').takeWhile fun line =>
    (boldField (DocText.strip line)).isNone && (DocText.strip line).head? ≠ some '#'))

def firstField (fields : List (DocText × DocText)) (names : List String) : Option DocText :=
  names.findSome? fun name => (fields.lookup name.toList).filter (· ≠ [])

/-- `_BACKTICK_REF.findall`, with what has been read since a backtick -/
def backtickRefs : Option DocText → DocText → List DocText
  | _, [] => []
  | none, letter :: rest => backtickRefs (if letter = backtick then some [] else none) rest
  | some read, letter :: rest =>
      if letter ≠ backtick then backtickRefs (some (read ++ [letter])) rest
      else if read = [] then backtickRefs (some []) rest
      else read :: backtickRefs none rest

def cleanedRefs (text : DocText) : List DocText :=
  (backtickRefs none text).foldl (fun seen ref =>
    let cleaned := DocText.strip ref
    if cleaned = [] || seen.contains cleaned then seen else seen ++ [cleaned]) []

def extractTestRefs (fields : List (DocText × DocText)) : List DocText :=
  (testFields.findSome? fun name => ((fields.lookup name.toList).map cleanedRefs).filter (· ≠ [])).getD []

/-! Anchors -/

variable (texts : Texts)

def slugify (heading : DocText) : DocText :=
  let slug := (issue.lower (DocText.strip heading)).filter fun letter =>
    texts.isWord letter || isSpace letter || letter = '-'
  trim (· = '-') ((Texts.collapseSpaces false slug).map fun letter => if letter = ' ' then '-' else letter)

def headingLabel (heading : String) : DocText := DocText.strip (heading.toList.dropWhile (· ∈ ['#', ' ']))

def specAnchors (text : DocText) : List DocText :=
  let haystack := issue.lower text
  let anchors := [(StageType.spec, "SPEC.md#"), (.plan, "PLAN.md#")].flatMap fun stage =>
    (((sectionContracts stage.1).map headingLabel).filter fun label => issue.lower label <:+: haystack).map
      fun label => stage.2.toList ++ slugify issue texts label
  if anchors = [] then ["SPEC.md".toList, "PLAN.md".toList] else anchors

/-! Header -/

def san (text : DocText) : DocText := DocText.strip (issue.sanitizeText text)

def needsQuotes (value : DocText) : Bool := value = [] || value.any (· ∈ ":#[]\x7b\x7d".toList)

def yamlScalar (value : DocText) : DocText :=
  if needsQuotes value then
    '\x22' :: (value.map (fun letter => if letter = '\x22' then '\x27' else letter) ++ ['\x22'])
  else value

def yamlHeader (taskRef : DocText) (anchors testPath : List DocText) : DocText :=
  joinLines (["---".toList, "task_ref: ".toList ++ taskRef, "stage: tasks".toList, "spec_anchors:".toList] ++
    anchors.map ("  - ".toList ++ ·) ++ ["test_path:".toList] ++
    testPath.map (fun ref => "  - ".toList ++ yamlScalar (san issue ref)) ++
    ["labels: [".toList ++ ", ".toList.intercalate (agentLabels.map String.toList) ++ "]".toList, "---".toList]) ++
    ['\n']

def formatAgentIssueBody (title rawBody : String) (taskRef : Option String) : DocText :=
  let fields := extractBoldFields issue rawBody.toList
  let lead := leadingProse rawBody.toList
  let context := (firstField fields contextFields).getD (if lead ≠ [] then lead else
    "Implement this task so its harness test(s) pass. See the linked spec sections for the full requirement.".toList)
  let acceptance := (firstField fields acceptanceFields).getD
    "The task's harness test(s) listed below pass, and the change matches the linked spec sections.".toList
  let files := (firstField fields filesFields).getD
    "Touch the files implied by the test path below and the repository layout.".toList
  let testRefs := extractTestRefs fields
  let taskRef := (taskRef.filter (· ≠ "")).getD (texts.computeTaskRef title 0)
  let anchors := specAnchors issue texts (title ++ "\n" ++ rawBody).toList
  let testBlock :=
    if testRefs ≠ [] then joinLines (testRefs.map fun ref => "- \x60".toList ++ san issue ref ++ [backtick])
    else DocText.ofParts ["No harness test is referenced yet — add one under \x60harness/\x60 that ",
      "pins this task's behaviour, then make it pass."]
  let specBlock := joinLines (anchors.map fun anchor =>
    "- [\x60".toList ++ anchor ++ "\x60](".toList ++ anchor ++ ")".toList)
  yamlHeader issue taskRef.toList anchors testRefs ++ List.flatten ["\n# ".toList, san issue title.toList,
    "\n\n## Context\n".toList, san issue context, "\n\n## Acceptance criteria\n".toList, san issue acceptance,
    "\n\n## Files\n".toList, san issue files, "\n\n## The test that must pass\n".toList, testBlock,
    "\n\n## Spec links\n".toList, specBlock,
    "\n\n---\n*Generated by [Thought2Build](https://thought2build.com)*\n".toList]

end

/-! Readings -/

def headerMapping (taskRef : DocText) (anchors testPath : List DocText) : Mapping := [
  ("task_ref".toList, .scalar (.text taskRef)),
  ("stage".toList, .scalar (.text "tasks".toList)),
  ("spec_anchors".toList, .list (anchors.map .text)),
  ("test_path".toList, .list (testPath.map .text)),
  ("labels".toList, .list (agentLabels.map fun label => .text label.toList))]

def testRefs (issue : IssueTexts) (rawBody : String) : List DocText :=
  extractTestRefs (extractBoldFields issue rawBody.toList)

/-- The header of the issue is read back. A reference to the task was computed for its occurrence, if it is given. -/
def HeaderReadsBack (dialect : Dialect) (texts : Texts) (issue : IssueTexts) (title rawBody : String)
    (occurrence : Option Nat) : Prop :=
  readHeader dialect (formatAgentIssueBody issue texts title rawBody (occurrence.map (texts.computeTaskRef title))) =
    some (headerMapping (texts.computeTaskRef title (occurrence.getD 0)).toList
      (specAnchors issue texts (title ++ "\n" ++ rawBody).toList) ((testRefs issue rawBody).map (san issue)))

end Thought2Build.Integrations
