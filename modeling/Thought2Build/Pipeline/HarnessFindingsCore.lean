import Mathlib.Data.Char
import Mathlib.Data.List.Lex
import Thought2Build.Pipeline.SectionBodies
import Thought2Build.Pipeline.TaskDependenciesCore

/-!
The findings of the completeness check that compare the matrix of a harness with its files: tests and requirements
that no file names.
-/

namespace Thought2Build.Pipeline

open Patterns Pattern
open Integrations (Texts)

/-! Findings -/

def findAll (pattern : Pattern) (text : DocText) : List DocText := (findTexts pattern text).map (·.1)

def sortedNames (names : List DocText) : List DocText := names.dedup.insertionSort (· ≤ ·)

def firstNames (names : List DocText) : String := String.ofList (", ".toList.intercalate (names.take 10))

def CompletenessIssue.names (issue : CompletenessIssue) : List DocText :=
  issue.reference.toList.flatMap fun reference => (reference.toList.splitOn ',').map DocText.strip

section

variable (texts : Texts)

def testName : Pattern := sequence [boundary texts.isWord, literal "test_", some isIdentifier]

def requirementKind : Pattern := either (literal "FR") (either (literal "NFR") (literal "SEC"))

def requirementId : Pattern := sequence [
  boundary texts.isWord, requirementKind, one (· = '-'), texts.threeDigits, boundary texts.isWord]

def upstreamRequirementIds (deps : List (String × DocText)) : List DocText :=
  deps.flatMap fun dep => findAll (requirementId texts) dep.2

def untestedRequirements (artifactMd matrix fileBody : DocText) (deps : List (String × DocText)) : List DocText :=
  let mapped := findAll (requirementId texts) matrix ++ findAll (requirementId texts) fileBody
  let present := findAll (requirementId texts) artifactMd
  (upstreamRequirementIds texts deps).filter fun id => present.contains id && !mapped.contains id

def missingTests (matrix fileBody : DocText) : List DocText :=
  let testNames := findAll (testName texts) fileBody
  (findAll (testName texts) matrix).filter (!testNames.contains ·)

def untestedIssue (untested : List DocText) : CompletenessIssue where
  code := "harness_requirement_not_test_mapped"
  detail := "HARNESS names these requirements but maps none of them to a test in the Requirement-to-Test Matrix " ++
    "or a test file: " ++ firstNames untested ++ "."
  reference := .some (firstNames untested)

def missingTestsIssue (missingTests : List DocText) : CompletenessIssue where
  code := "harness_matrix_missing_test"
  detail := "HARNESS Requirement-to-Test Matrix references tests absent from file contents: " ++
    firstNames missingTests ++ "."
  reference := .some (firstNames missingTests)

def matrixHeading : String := "## Requirement-to-Test Matrix"

def filesHeading : String := "## Files"

/-- The part of `_harness_issues` that looks for the requirements and the tests of the matrix -/
def harnessMappingIssues (artifactMd : DocText) (deps : List (String × DocText)) : List CompletenessIssue :=
  let matrix := sectionBody artifactMd matrixHeading
  let fileBody := sectionBody artifactMd filesHeading
  let untested := sortedNames (untestedRequirements texts artifactMd matrix fileBody deps)
  let missing := sortedNames (missingTests texts matrix fileBody)
  (if matrix ≠ [] ∧ fileBody ≠ [] ∧ upstreamRequirementIds texts deps ≠ [] ∧ untested ≠ [] then
    [untestedIssue untested] else []) ++
  (if missing ≠ [] then [missingTestsIssue missing] else [])

def mappingFindings (artifactMd : DocText) (deps : List (String × DocText)) : List CompletenessIssue :=
  harnessMappingIssues texts artifactMd.strip deps

/-! The bodies of the files -/

def Scan.bodyLine (scan : Scan) (line : DocText) : List (DocText × DocText) :=
  match firstGroup harnessFileHeading line, scan.fence with
  | none, .some fence =>
      if closes line fence ∨ line.strip = [] then [] else (truthy scan.fileCanon).toList.map (·, line)
  | _, _ => []

def Scan.bodyLines : Scan → List DocText → List (DocText × DocText)
  | _, [] => []
  | scan, line :: rest => scan.bodyLine line ++ bodyLines (scan.readLine texts line).1 rest

def emittedLines (artifactMd : DocText) : List (DocText × DocText) :=
  ({} : Scan).bodyLines texts artifactMd.strip.lines

def testsTag : Pattern := sequence [
  lineStart, many isBlank,
  either (one fun letter => letter = '#' || letter = '*')
    (either (literal "//") (either (literal "--") (literal "/*"))),
  many isBlank, literal "Tests:", many isBlank,
  group (sequence [either requirementKind (literal "AC"), one (· = '-'), texts.threeDigits, many (· ≠ '\n')]), lineEnd]

def taggedIds (line : DocText) : List DocText :=
  (firstGroup (testsTag texts) line).toList.flatMap (findAll (requirementId texts))

/-- What is reported is absent: a missing test from every body, and of a requirement without a test, its tags and the
tests that the matrix maps to it. -/
structure OnlyAbsent (artifactMd : DocText) (deps : List (String × DocText)) : Prop where
  tests : ∀ issue ∈ mappingFindings texts artifactMd deps, issue.code = "harness_matrix_missing_test" →
    ∀ name ∈ issue.names, ∀ line ∈ emittedLines texts artifactMd, name ∉ findAll (testName texts) line.2
  tags : ∀ issue ∈ mappingFindings texts artifactMd deps, issue.code = "harness_requirement_not_test_mapped" →
    ∀ name ∈ issue.names, ∀ line ∈ emittedLines texts artifactMd, name ∉ taggedIds texts line.2
  mapped : ∀ issue ∈ mappingFindings texts artifactMd deps, issue.code = "harness_requirement_not_test_mapped" →
    ∀ name ∈ issue.names, ∀ row ∈ sectionLines artifactMd.strip matrixHeading,
      name ∈ findAll (requirementId texts) row → ∀ test ∈ findAll (testName texts) row,
        ∀ line ∈ emittedLines texts artifactMd, test ∉ findAll (testName texts) line.2

/-! What the lines of a section name -/

def rowsName (pattern : Pattern) (lines : List DocText) (name : DocText) : Prop :=
  ∃ line ∈ lines, name ∈ findAll pattern line

instance (pattern : Pattern) (lines : List DocText) (name : DocText) : Decidable (rowsName pattern lines name) :=
  inferInstanceAs (Decidable (∃ _ ∈ _, _))

def TenBefore (names : List DocText) (name : DocText) : Prop := 10 ≤ (names.dedup.filter (· < name)).length

instance (names : List DocText) (name : DocText) : Decidable (TenBefore names name) :=
  inferInstanceAs (Decidable (_ ≤ _))

def unlistedTests (artifactMd : DocText) : List DocText :=
  ((sectionLines artifactMd.strip matrixHeading).flatMap (findAll (testName texts))).filter fun name =>
    ¬ rowsName (testName texts) (sectionLines artifactMd.strip filesHeading) name

def unlistedRequirements (artifactMd : DocText) (deps : List (String × DocText)) : List DocText :=
  (upstreamRequirementIds texts deps).filter fun name =>
    rowsName (requirementId texts) (artifactMd.strip.splitOn '\n') name ∧
      ¬ rowsName (requirementId texts)
        (sectionLines artifactMd.strip matrixHeading ++ sectionLines artifactMd.strip filesHeading) name

/-- The files section goes far enough: what a body names stands on one of its lines, or behind ten names that do not. -/
structure FilesSectionWhole (artifactMd : DocText) (deps : List (String × DocText)) : Prop where
  tests : ∀ name, rowsName (testName texts) (sectionLines artifactMd.strip matrixHeading) name →
    rowsName (testName texts) ((emittedLines texts artifactMd).map (·.2)) name →
    rowsName (testName texts) (sectionLines artifactMd.strip filesHeading) name ∨
      TenBefore (unlistedTests texts artifactMd) name
  requirements : (∃ line ∈ sectionLines artifactMd.strip matrixHeading, line.strip ≠ []) →
    (∃ line ∈ sectionLines artifactMd.strip filesHeading, line.strip ≠ []) →
    ∀ name ∈ upstreamRequirementIds texts deps,
      rowsName (requirementId texts) (artifactMd.strip.splitOn '\n') name →
      (∃ line ∈ emittedLines texts artifactMd, name ∈ taggedIds texts line.2) →
      rowsName (requirementId texts)
          (sectionLines artifactMd.strip matrixHeading ++ sectionLines artifactMd.strip filesHeading) name ∨
        TenBefore (unlistedRequirements texts artifactMd deps) name

end

end Thought2Build.Pipeline
