import Thought2Build.Evals.RequirementCoverageCore
import Thought2Build.Library.Histories

/-!
The coverage figure that a workspace is shown with, and the histories of a harness: its versions, the evaluations
under way, and the evaluation rows that the figure is read from.
-/

namespace Thought2Build.Evals

open Dictionaries Pipeline
open Integrations (Texts)

/-! The query -/

structure EvaluatedVersion where
  workspaceId : Nat
  stageType : StageType
  coveragePercent : Option Int

structure CoverageSummary where
  tests : Int
  covered : Int
  total : Int
  percent : Int
  deriving DecidableEq

def maxBatchSize : Nat := 500

def coverageSummary (percent : Int) : CoverageSummary :=
  let pctInt := max 0 (min 100 percent)
  { tests := 0, covered := pctInt, total := 100, percent := pctInt }

/-- The rows of the query, the most recent first; the table holds its rows as they were created. -/
def coverageRows (idsToQuery : List Nat) (table : List EvaluatedVersion) : List (Nat × Int) :=
  table.reverse.filterMap fun row =>
    if row.workspaceId ∈ idsToQuery ∧ row.stageType = .harness then row.coveragePercent.map (row.workspaceId, ·)
    else none

def deriveCoverageSummaries (workspaceIds : List Nat) (table : List EvaluatedVersion) :
    List (Nat × Option CoverageSummary) :=
  let rows := coverageRows (workspaceIds.take maxBatchSize) table
  workspaceIds.map fun id => (id, (rows.lookup id).map coverageSummary)

/-! Histories -/

/-- What has become of the evaluation of a version: a judge scores it against the spec that was read for it. -/
inductive Scoring where
  | unscheduled
  | running (specContent : DocText)
  | scored (specContent : DocText)
  | skipped

structure HarnessVersion where
  content : DocText
  scoring : Scoring := .unscheduled

structure HarnessBook where
  specContent : DocText := []
  content : DocText := []
  currentVersion : Nat := 0
  versions : List (Nat × HarnessVersion) := []
  rows : List (Nat × Option Int) := []

inductive BookEvent where
  | generate (accumulated : DocText)
  | patch (accumulated : DocText)
  | edit (newContent : DocText)
  | rollback (version : Nat)
  | editSpec (newContent : DocText)
  | persistStructural (version : Nat)
  /-- An evaluation is scheduled; its context is empty where the spec could not be loaded. -/
  | schedule (version : Nat) (loaded : Bool)
  | skip (version : Nat)
  | score (version : Nat)

namespace HarnessBook

variable (texts : Texts) (cases : LetterCases) (mergeHarnessPatch : DocText → DocText → DocText) (book : HarnessBook)

def save (content : DocText) : HarnessBook :=
  { book with
    content
    currentVersion := book.currentVersion + 1
    versions := put (book.currentVersion + 1) { content } book.versions }

/-- `generate_harness_patch`: a patch that adds nothing is rolled back. -/
def patch (accumulated : DocText) : HarnessBook :=
  let merged := mergeHarnessPatch book.content accumulated
  if merged = book.content then book else book.save merged

def rollback (versionNumber : Nat) : HarnessBook :=
  match book.versions.lookup versionNumber with
  | none => book
  | some version =>
      if versionNumber = book.currentVersion ∧ version.content = book.content then book
      else book.save version.content

/-- `persist_structural_eval`: a row that is there keeps its coverage. -/
def persistStructural (versionNumber : Nat) : HarnessBook :=
  if (book.versions.lookup versionNumber).isNone ∨ (book.rows.lookup versionNumber).isSome then book
  else { book with rows := put versionNumber none book.rows }

def withScoring (versionNumber : Nat) (version : HarnessVersion) (scoring : Scoring) : HarnessBook :=
  { book with versions := put versionNumber { version with scoring } book.versions }

def schedule (versionNumber : Nat) (loaded : Bool) : HarnessBook :=
  match book.versions.lookup versionNumber with
  | some { content, scoring := .unscheduled } =>
      book.withScoring versionNumber { content } (.running (if loaded then book.specContent else []))
  | _ => book

def skip (versionNumber : Nat) : HarnessBook :=
  match book.versions.lookup versionNumber with
  | some { content, scoring := .running _ } => book.withScoring versionNumber { content } .skipped
  | _ => book

/-- `_persist_eval_data`: the row of the version gets its coverage, or is created with it. -/
def score (versionNumber : Nat) : HarnessBook :=
  match book.versions.lookup versionNumber with
  | some { content, scoring := .running specContent } =>
      let coverage := (deterministicCoveragePercent texts cases content specContent).map Int.ofNat
      { book.withScoring versionNumber { content } (.scored specContent) with
        rows := put versionNumber coverage book.rows }
  | _ => book

def step : BookEvent → HarnessBook
  | .generate accumulated => book.save accumulated
  | .patch accumulated => book.patch mergeHarnessPatch accumulated
  | .edit newContent => book.save newContent
  | .rollback version => book.rollback version
  | .editSpec newContent => { book with specContent := newContent }
  | .persistStructural version => book.persistStructural version
  | .schedule version loaded => book.schedule version loaded
  | .skip version => book.skip version
  | .score version => book.score texts cases version

end HarnessBook

end Thought2Build.Evals
