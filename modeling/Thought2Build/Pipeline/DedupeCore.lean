import Mathlib.Data.List.Sort
import Mathlib.Data.List.Dedup
import Thought2Build.Integrations.InstructionFilesCore
import Thought2Build.Integrations.TaskReadersCore
import Thought2Build.Library.FirstWins
import Thought2Build.Pipeline.HarnessIndexCore

/-! The rewrites that drop what a document repeats: its file blocks and its contract sections. -/

namespace Thought2Build.Pipeline

open Patterns Pattern DocText FirstWins
open Integrations (WorkspaceMode)
open Integrations.Texts (rstripLine)

/-! Contracts -/

def sectionContracts : StageType → List String
  | .spec => ["## Overview", "## Product Goals", "## In-Scope (MVP)", "## Non-Goals", "## User Stories",
      "## User Flows", "## Functional Requirements", "## Non-Functional Requirements", "## Conceptual Domain Model",
      "## System Context", "## Security, Privacy, and Abuse Expectations", "## Acceptance Criteria",
      "## Edge Cases", "## Constraints", "## Risks", "## Assumptions and Open Questions", "## Out of Scope"]
  | .plan => ["## Planning Summary", "## Architecture Overview", "## Requirement Traceability Matrix",
      "## Technology Stack and Rationale", "## Architecture Anti-Patterns", "## Multi-tenancy Stance",
      "## Capacity Model", "## Threat Model", "## Architecture Quality Attribute Matrix", "## Codebase Structure",
      "## Data Model and Persistence", "## API Design", "## Authentication and Authorization",
      "## Security Architecture", "## Architecture Decision Records", "## Failure Mode and Effects Analysis",
      "## SLOs and Error Budgets", "## Error Handling and Recovery", "## Observability and Audit Logging",
      "## Deployment and Operations"]
  | .harness => ["## Harness Overview", "## Requirement-to-Test Matrix", "## Coverage Plan", "## File Tree",
      "## Files"]
  | .tasks => ["## Effort Summary", "## Execution Overview", "## Traceability Overview", "## Dependency Graph",
      "## Task Sizing Legend"]

def demoDaySectionContracts : StageType → List String
  | .spec => ["## Overview", "## Target User and Core Problem", "## Demo Day Scope", "## Out of Scope",
      "## Functional Requirements", "## Acceptance Criteria", "## Success Demo", "## AI Usage",
      "## Security Posture", "## Scalability Story", "## Risks and Assumptions"]
  | .plan => ["## Architecture Overview", "## Technology Stack", "## Requirement Traceability Matrix",
      "## Interface Contracts", "## Data Model and Persistence", "## External Integrations and Secrets",
      "## Build Sequence", "## Environment and Bootstrap", "## Architecture Decision Records",
      "## Scalability and Performance", "## Security Architecture", "## Frontend Architecture",
      "## Risks and Mitigations"]
  | .harness => ["## Harness Overview", "## Frozen Interface Contracts", "## Requirement-to-Test Matrix",
      "## End-to-End Smoke Test", "## File Tree", "## Files"]
  | .tasks => ["## Effort Summary", "## Build Order", "## Traceability Overview", "## Tasks"]

def sectionContract (stageType : StageType) : WorkspaceMode → List String
  | .demoDay => demoDaySectionContracts stageType
  | .standard => sectionContracts stageType

def conditionalHeadings : StageType → List String
  | .plan => ["## Frontend Architecture"]
  | _ => []

def dedupeSkipHeadings : List String := ["## Files"]

def orderedHeadings (stageType : StageType) (mode : WorkspaceMode) : List String :=
  let candidates := (sectionContract stageType mode ++ conditionalHeadings stageType).dedup
  (candidates.filter (· ∉ dedupeSkipHeadings)).insertionSort fun first second => second.length ≤ first.length

/-! Sections -/

def h2HeadingLine : Pattern := sequence [lineStart, literal "##", some isSpace, one (!isSpace ·)]

def sectionTerminator : Pattern := sequence [
  lineStart, one (· = '#'), optional (one (· = '#')), some isSpace, one (!isSpace ·)]

def dedupeFenceLine : Pattern := sequence [lineStart, upToThreeSpaces, literal "```"]

def isTerminator (line : DocText) : Bool := (matchStart sectionTerminator line).isSome

def isFenceLine (line : DocText) : Bool := (matchStart dedupeFenceLine line).isSome

def contractHeading (ordered : List String) (line : DocText) : Option String :=
  if (matchStart h2HeadingLine line).isNone then none
  else
    let stripped := rstripLine line
    ordered.find? fun heading =>
      stripped = heading.toList || (heading.toList ++ [' ']).isPrefixOf stripped ||
        (heading.toList ++ [':']).isPrefixOf stripped

structure SectionScan where
  kept : List DocText := []
  seen : List String := []
  removed : Nat := 0
  inFence : Bool := false
  dropping : Bool := false

namespace SectionScan

def keep (scan : SectionScan) (line : DocText) : SectionScan :=
  if scan.dropping then scan else { scan with kept := scan.kept ++ [line] }

def read (ordered : List String) (scan : SectionScan) (line : DocText) : SectionScan :=
  if isFenceLine line then keep { scan with inFence := !scan.inFence } line
  else if scan.inFence = false ∧ isTerminator line then
    match contractHeading ordered line with
    | .some heading =>
        if heading ∈ scan.seen then { scan with dropping := true, removed := scan.removed + 1 }
        else { scan with seen := heading :: scan.seen, dropping := false, kept := scan.kept ++ [line] }
    | none => { scan with dropping := false, kept := scan.kept ++ [line] }
  else scan.keep line

end SectionScan

def dedupeContractSections (stageType : StageType) (artifactMd : DocText) (mode : WorkspaceMode) : DocText × Nat :=
  let ordered := orderedHeadings stageType mode
  if ordered = [] then (artifactMd, 0)
  else
    let scan := (artifactMd.splitOn '\n').foldl (SectionScan.read ordered) {}
    if scan.removed = 0 then (artifactMd, 0) else (['\n'].intercalate scan.kept, scan.removed)

/-! File blocks -/

def normaliseHarnessPath (path : DocText) : DocText := dropHarness (forwardSlashes path.strip)

def fileHeading : Pattern := sequence [
  lineStart, literal "##", optional (one (· = '#')), some isSpace, literal "File:", some isSpace,
  group (andThen (one (· ≠ '\n')) (few (· ≠ '\n'))), many isSpace, lineEnd]

def fileBlockStart : Pattern := sequence [
  lineStart, literal "##", optional (one (· = '#')), some isSpace, literal "File:", some isSpace]

def cutAt (text : DocText) : DocText → Option (DocText × DocText)
  | [] => none
  | letter :: rest =>
      if text.isPrefixOf (letter :: rest) then .some ([], letter :: rest)
      else (cutAt text rest).map fun found => (letter :: found.1, found.2)

def splitBlocks (before : DocText) : DocText → DocText × List DocText
  | [] => ([], [])
  | letter :: rest =>
      let split := splitBlocks (letter :: before) rest
      if ends fileBlockStart { before, ahead := letter :: rest } = [] then (letter :: split.1, split.2)
      else ([], (letter :: split.1) :: split.2)

structure BlockScan where
  kept : List DocText := []
  seen : List DocText := []
  removed : Nat := 0

def segmentPath (segment : DocText) : DocText := ((firstGroup fileHeading segment).map normaliseHarnessPath).getD []

def BlockScan.read (scan : BlockScan) (segment : DocText) : BlockScan :=
  let path := segmentPath segment
  if path ≠ [] ∧ path ∈ scan.seen then { scan with removed := scan.removed + 1 }
  else { scan with seen := if path = [] then scan.seen else path :: scan.seen, kept := scan.kept ++ [segment] }

def dedupeFileBlocks (artifactMd : DocText) : DocText × Nat :=
  match cutAt "\n## Files".toList artifactMd with
  | none => (artifactMd, 0)
  | .some (head, filesRegion) =>
      let split := splitBlocks [] filesRegion
      let scan := split.2.foldl BlockScan.read { kept := [split.1] }
      if scan.removed = 0 then (artifactMd, 0) else (head ++ scan.kept.flatten, scan.removed)

end Thought2Build.Pipeline
