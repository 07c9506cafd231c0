import Mathlib.Data.Finset.Sort
import Thought2Build.Pipeline.DedupeCore
import Thought2Build.Pipeline.HarnessFindingsCore

/-!
The requirement coverage of a harness: the requirements that the spec names, those that the harness shows to be
tested, the percentage that an evaluation stores, and the gaps that are offered for regeneration.
-/

namespace Thought2Build.Evals

open Patterns Pattern Dictionaries Pipeline
open Integrations (Texts)
open Integrations.Texts (splitlines)

structure LetterCases where
  lower : DocText → DocText
  upper : DocText → DocText

def LetterCases.Standard (cases : LetterCases) (texts : Texts) : Prop :=
  ∀ text : DocText, (∀ letter ∈ text, letter ∈ "FRNSEC-".toList ∨ texts.isDigit letter = true) →
    cases.upper text = text

/-! Test files of the matrix -/

def codeTestExts : List String := [
  "py", "ts", "tsx", "js", "jsx", "mjs", "cjs", "go", "rb", "rs", "java", "kt", "kts", "cs", "ex", "exs", "php",
  "swift", "scala", "sc", "cpp", "cc", "cxx", "c", "h", "hh", "hpp", "m", "mm", "dart", "clj", "cljs", "cljc",
  "groovy", "vue", "svelte", "lua", "jl", "fs", "fsx", "pl", "pm", "ml", "mli", "erl", "hs", "elm"]

def stripOf (letters : List Char) (text : DocText) : DocText :=
  (text.dropWhile (letters.contains ·)).rdropWhile (letters.contains ·)

def holds (text : DocText) (part : String) : Bool := (cutAt part.toList text).isSome

def splitWords (text : DocText) : List DocText := (text.splitOnP isSpace).filter (· ≠ [])

def looksLikeTestFilePath (cases : LetterCases) (token : DocText) : Bool :=
  let cleaned := (DocText.stripTicks token.strip).strip
  if cleaned = [] || cleaned.any (fun letter => letter = ' ' || letter = '\t' || letter = '=') then false
  else
    let filePart := (DocText.splitScopes cleaned).headD []
    let last := (filePart.splitOn '/').getLastD []
    if '.' ∉ last then false
    else if cases.lower ((last.splitOn '.').getLastD []) ∉ codeTestExts.map String.toList then false
    else
      let lowered := cases.lower filePart
      holds lowered "test" || holds lowered "spec"

def matrixTestFile : Pattern := sequence [
  one (· = DocText.backtick),
  group (sequence [
    one (· ≠ DocText.backtick), few (· ≠ DocText.backtick), one (· = '.'), some Char.isAlphanum]),
  optional (andThen (literal "::") (some (· ≠ DocText.backtick))), one (· = DocText.backtick)]

def findGroups (pattern : Pattern) (text : DocText) : List DocText :=
  (findTexts pattern text).filterMap (·.2.getLast?)

section

variable (texts : Texts) (cases : LetterCases)

def testFiles (tokens : List DocText) : Finset DocText :=
  ((tokens.filter (looksLikeTestFilePath cases)).map (canonicalTestPath texts)).toFinset

def matrixCellTestFiles (cells : List DocText) : Finset DocText :=
  let files := testFiles texts cases (cells.flatMap (findGroups matrixTestFile))
  if files ≠ ∅ then files
  else testFiles texts cases ((cells.flatMap splitWords).map (stripOf "`*_,;()[]".toList))

def isMatrixReqId (req : DocText) : Bool :=
  ["FR-", "NFR-", "SEC-", "AC-"].any fun kind =>
    kind.toList.isPrefixOf req &&
      ((req.drop kind.length).splitOn '.').all fun number => number ≠ [] && number.all texts.isDigit

/-- The requirement and the test files of a line, if it is a row of the matrix that names both -/
def matrixRow (line : DocText) : Option (DocText × Finset DocText) :=
  let stripped := line.strip
  if stripped.head? ≠ .some '|' then none
  else
    match (stripOf ['|'] stripped).splitOn '|' with
    | [] => none
    | first :: cells =>
        let req := cases.upper (DocText.stripTicks (DocText.strip first)).strip
        let files := matrixCellTestFiles texts cases cells
        if isMatrixReqId texts req ∧ files ≠ ∅ then .some (req, files) else none

/-- `req_files[req] |= files`, with an empty set for a requirement that is new -/
def addFiles (reqFiles : List (DocText × Finset DocText)) (row : DocText × Finset DocText) :
    List (DocText × Finset DocText) :=
  put row.1 ((reqFiles.lookup row.1).getD ∅ ∪ row.2) reqFiles

def matrixRequirementFiles (harnessContent : DocText) : List (DocText × Finset DocText) :=
  let matrix := sectionBody harnessContent matrixHeading
  ((splitlines [] matrix).filterMap (matrixRow texts cases)).foldl addFiles []

/-! Emitted files -/

def canonicalBasename (canon : DocText) : DocText := (canon.splitOn '/').getLastD []

structure EmittedFiles where
  canon : Finset DocText
  allBases : Finset DocText
  bareBases : Finset DocText

def emittedFileIndex (artifactMd : DocText) : EmittedFiles :=
  let canon := (harnessTestIndex texts artifactMd).filesWithBody.filter (· ≠ [])
  { canon, allBases := canon.image canonicalBasename, bareBases := canon.filter ('/' ∉ ·) }

def EmittedFiles.fileIsEmitted (emitted : EmittedFiles) (canon : DocText) : Bool :=
  if canon ∈ emitted.canon then true
  else if '/' ∉ canon then canonicalBasename canon ∈ emitted.allBases
  else canonicalBasename canon ∈ emitted.bareBases

def taggedRequirementIds (artifactMd : DocText) (emittedPaths : Finset DocText) : Finset DocText :=
  match cutAt "\n## Files".toList artifactMd with
  | none => ∅
  | .some (_, files) =>
      let emitted := (splitBlocks [] files).2.filter fun segment =>
        (firstGroup fileHeading segment).any fun path => canonicalTestPath texts path ∈ emittedPaths
      ((emitted.flatMap (findGroups (testsTag texts))).flatMap (findAll (requirementId texts))).toFinset

def coveredRequirementIds (harnessContent : DocText) : Finset DocText :=
  let emitted := emittedFileIndex texts harnessContent
  let rows := (matrixRequirementFiles texts cases harnessContent).filter fun row =>
    ∃ path ∈ row.2, emitted.fileIsEmitted path
  (rows.map (·.1)).toFinset ∪ taggedRequirementIds texts harnessContent emitted.canon

/-! Coverage and gaps -/

def upstreamRequirementIds (source : DocText) : Finset DocText := (findAll (requirementId texts) source).toFinset

def sorted (ids : Finset DocText) : List DocText := ids.sort (· ≤ ·)

def uncoveredRequirements (harnessContent : DocText) (upstreamIds : Finset DocText) : List DocText :=
  let covered := coveredRequirementIds texts cases harnessContent
  if upstreamIds ≠ ∅ then sorted (upstreamIds.image cases.upper \ covered)
  else ((matrixRequirementFiles texts cases harnessContent).map (·.1)).filter (· ∉ covered)

def harnessCoverageRatio (harnessContent : DocText) (upstreamIds : Finset DocText) : Nat × Nat :=
  let totalIds := upstreamIds.image cases.upper
  if totalIds = ∅ then (0, 0)
  else ((totalIds ∩ coveredRequirementIds texts cases harnessContent).card, totalIds.card)

/-- `round(numerator / denominator)`: of two integers that are equally near the even one. The quotient of the code is
a float, which lies on the same side of each half as long as the denominator is below `2 ^ 45`. -/
def roundQuotient (numerator denominator : Nat) : Nat :=
  let quotient := numerator / denominator
  let remainder := numerator % denominator
  if 2 * remainder < denominator then quotient
  else if denominator < 2 * remainder then quotient + 1
  else if quotient % 2 = 0 then quotient
  else quotient + 1

def deterministicCoveragePercent (harnessContent specContent : DocText) : Option Nat :=
  let ratio := harnessCoverageRatio texts cases harnessContent (upstreamRequirementIds texts specContent)
  if ratio.2 = 0 then none else .some (roundQuotient (100 * ratio.1) ratio.2)

def extractDeferredReqs (harnessContent specContent : DocText) : List DocText :=
  uncoveredRequirements texts cases harnessContent (upstreamRequirementIds texts specContent)

/-- The requirements that `regenerate_stage_for_gaps` streams a patch for; without gaps it answers with an error. -/
def regenerateStageForGaps (harnessContent specContent : DocText) : Option (List DocText) :=
  let uncoveredReqs := extractDeferredReqs texts cases harnessContent specContent
  if uncoveredReqs = [] then none else .some uncoveredReqs

end

end Thought2Build.Evals
