import Thought2Build.Library.Histories
import Thought2Build.Library.Workers
import Thought2Build.Pipeline.StageCore

/-!
The evaluation of one stage version, and the writers of it. A writer reads the harness, selects the row and
commits in separate statements; the version's own text never changes.
-/

namespace Thought2Build.Evals

open Pipeline

structure TaskIssue where
  gapType : Option String
  detail : String := ""
  deriving DecidableEq

def nonFlaggingGapTypes : List String := ["GENERATION_FAILURE", "DEFERRED_COVERAGE", "UNVERIFIED_COVERAGE"]

def flags (issues : List TaskIssue) : Bool :=
  issues.any fun issue => issue.gapType.all fun gapType => !nonFlaggingGapTypes.contains gapType

def structuralTaskValidatorVersion : Nat := 2

structure EvalRow where
  overallScore : Option Int := none
  completeness : Option Int := none
  clarity : Option Int := none
  coveragePercent : Option Int := none
  uncoveredReqs : Option (List String) := none
  tasksWithoutRef : Option (List TaskIssue) := none
  flagged : Bool := false
  structuralValidatorVersion : Nat := 0
  judgeProvider : Option String := none
  judgeModel : Option String := none
  deriving DecidableEq

structure JudgeData where
  overallScore : Option Int := none
  completeness : Option Int := none
  clarity : Option Int := none
  coveragePercent : Option Int := none
  uncoveredReqs : Option (List String) := none
  tasksWithoutRef : Option (List TaskIssue) := none
  judgeProvider : Option String := none
  judgeModel : Option String := none

/-- `validate_stage_findings`, for the references that the version's tasks lack in a harness. -/
def validateStageFindings (references : String → List TaskIssue) (stageType : StageType) (harness : String) :
    Option (List TaskIssue) × Bool :=
  if stageType = .tasks ∧ harness ≠ "" then (some (references harness), flags (references harness))
  else (none, false)

inductive EvalWriter where
  | structural
  | judge (data : JudgeData)
  | refresh
  | revalidate

namespace EvalRow

variable (references : String → List TaskIssue) (stageType : StageType) (harness : String)

def withFindings (row : EvalRow) (findings : Option (List TaskIssue) × Bool) : EvalRow :=
  { row with tasksWithoutRef := findings.1, flagged := findings.2 }

def mark (row : EvalRow) : EvalRow :=
  if stageType = .tasks ∧ harness ≠ "" then { row with structuralValidatorVersion := structuralTaskValidatorVersion }
  else row

/-- The findings that a judge's persist stores: without a harness to validate against, its own list. -/
def judgedFindings (data : JudgeData) : Option (List TaskIssue) × Bool :=
  match validateStageFindings references stageType harness with
  | (some issues, flagged) => (some issues, flagged)
  | (none, _) =>
      (data.tasksWithoutRef, stageType == .tasks && (data.tasksWithoutRef.map flags).getD false)

def write (row : EvalRow) : EvalWriter → EvalRow
  | .structural => (row.withFindings (validateStageFindings references stageType harness)).mark stageType harness
  | .judge data =>
      { row with
        overallScore := data.overallScore
        completeness := data.completeness
        clarity := data.clarity
        coveragePercent := data.coveragePercent
        uncoveredReqs := data.uncoveredReqs
        judgeProvider := data.judgeProvider.or row.judgeProvider
        judgeModel := data.judgeModel.or row.judgeModel }.withFindings
          (judgedFindings references stageType harness data) |>.mark stageType harness
  | .refresh | .revalidate =>
      { row.withFindings (validateStageFindings references stageType harness) with
        structuralValidatorVersion := structuralTaskValidatorVersion }

def merge (loaded written current : EvalRow) : EvalRow where
  overallScore := if written.overallScore = loaded.overallScore then current.overallScore else written.overallScore
  completeness := if written.completeness = loaded.completeness then current.completeness else written.completeness
  clarity := if written.clarity = loaded.clarity then current.clarity else written.clarity
  coveragePercent :=
    if written.coveragePercent = loaded.coveragePercent then current.coveragePercent else written.coveragePercent
  uncoveredReqs :=
    if written.uncoveredReqs = loaded.uncoveredReqs then current.uncoveredReqs else written.uncoveredReqs
  tasksWithoutRef :=
    if written.tasksWithoutRef = loaded.tasksWithoutRef then current.tasksWithoutRef else written.tasksWithoutRef
  flagged := if written.flagged = loaded.flagged then current.flagged else written.flagged
  structuralValidatorVersion :=
    if written.structuralValidatorVersion = loaded.structuralValidatorVersion then current.structuralValidatorVersion
    else written.structuralValidatorVersion
  judgeProvider :=
    if written.judgeProvider = loaded.judgeProvider then current.judgeProvider else written.judgeProvider
  judgeModel := if written.judgeModel = loaded.judgeModel then current.judgeModel else written.judgeModel

end EvalRow

structure HarnessRead where
  edits : Nat
  content : String
  deriving DecidableEq

structure Selected where
  place : Nat
  row : EvalRow

inductive WriterPoint where
  | reading (selected : Selected)
  | selecting (writer : EvalWriter) (harness : HarnessRead)
  | committing (writer : EvalWriter) (harness : HarnessRead) (selected : Option Selected)

structure EvalVersion where
  stageType : StageType
  harness : String
  edits : Nat := 0
  rows : List EvalRow := []
  writers : Workers WriterPoint := ∅
  used : Option HarnessRead := none

inductive EvalEvent where
  | editHarness (content : String)
  | begin (key : Nat) (writer : EvalWriter)
  | readHarness (key : Nat)
  | selectRow (key : Nat)
  | commit (key : Nat)
  | abandon (key : Nat)

namespace EvalVersion

variable (references : String → List TaskIssue) (version : EvalVersion)

def current : HarnessRead where
  edits := version.edits
  content := version.harness

def latest : Option Selected :=
  version.rows.getLast?.map fun row => { place := version.rows.length - 1, row }

def move (key : Nat) (point : WriterPoint) : EvalVersion :=
  { version with writers := version.writers.insert key point }

def leave (key : Nat) : EvalVersion := { version with writers := version.writers.erase key }

def begin (key : Nat) (writer : EvalWriter) : EvalVersion :=
  if key ∈ version.writers then version
  else
    match writer with
    | .refresh =>
        match version.latest with
        | none => version
        | some selected =>
            if version.stageType ≠ .tasks ∨
                structuralTaskValidatorVersion ≤ selected.row.structuralValidatorVersion then version
            else version.move key (.reading selected)
    | .revalidate =>
        if version.stageType = .tasks then version.move key (.selecting .revalidate version.current) else version
    | writer => version.move key (.selecting writer version.current)

def readHarness (key : Nat) : EvalVersion :=
  match version.writers.lookup key with
  | some (.reading selected) =>
      if version.harness = "" then version.leave key
      else version.move key (.committing .refresh version.current (some selected))
  | _ => version

def selectRow (key : Nat) : EvalVersion :=
  match version.writers.lookup key with
  | some (.selecting writer harness) => version.move key (.committing writer harness version.latest)
  | _ => version

def use (harness : HarnessRead) : Option HarnessRead :=
  if version.stageType = .tasks ∧ harness.content ≠ "" then
    match version.used with
    | some used => if used.edits ≤ harness.edits then some harness else some used
    | none => some harness
  else version.used

def commit (key : Nat) : EvalVersion :=
  match version.writers.lookup key with
  | some (.committing writer harness selected) =>
      let written := fun row : EvalRow => row.write references version.stageType harness.content writer
      let rows :=
        match selected with
        | none => version.rows ++ [written {}]
        | some { place, row } => version.rows.modify place (row.merge (written row))
      { version.leave key with rows, used := version.use harness }
  | _ => version

def step : EvalEvent → EvalVersion
  | .editHarness content => { version with harness := content, edits := version.edits + 1 }
  | .begin key writer => version.begin key writer
  | .readHarness key => version.readHarness key
  | .selectRow key => version.selectRow key
  | .commit key => version.commit references key
  | .abandon key => version.leave key

end EvalVersion

end Thought2Build.Evals
