import Thought2Build.Library.Histories
import Thought2Build.Library.Workers

/-!
One deferred evaluation: its row, the jobs that submit and collect it, the provider's batches, and what is billed
for it. The queue may start any job of the row at any time; the sweep only asks it to.
-/

namespace Thought2Build.Evals

inductive BatchStatus where
  | pending | submitted
  deriving DecidableEq

structure BatchRow where
  status : BatchStatus := .pending
  providerBatchId : Option String := none
  attempts : Nat := 0

/-- Where a job of the row stands; from the cost event on, with whether it has billed anything. -/
inductive BatchPoint where
  | loaded
  | created (providerBatchId : String)
  | polling
  | fetching
  | succeeded
  | recorded (billed : Bool)
  | failing (billed : Bool)
  | settled (billed : Bool)
  deriving DecidableEq

structure EvalBatch where
  row : Option BatchRow := some {}
  jobs : Workers BatchPoint := ∅
  batches : List String := []
  costEvents : Nat := 0
  results : Nat := 0
  fallbacks : Nat := 0

/-- The awaits of the jobs, each with how it ends; `fail` is an exception or a crash of the worker. -/
inductive BatchEvent where
  | beginSubmit (key : Nat)
  | createBatch (key : Nat) (providerBatchId : String)
  | commitBatch (key : Nat)
  | beginCollect (key : Nat)
  | pollBatch (key : Nat) (ended stale : Bool)
  | fetchResults (key : Nat) (succeeded : Bool)
  | recordCost (key : Nat) (written : Bool)
  | persistEval (key : Nat) (parsed : Bool)
  | fallbackScore (key : Nat)
  | deleteRow (key : Nat)
  | fail (key : Nat)

namespace EvalBatch

variable (batch : EvalBatch) (key : Nat)

def start (point : BatchPoint) : EvalBatch :=
  if key ∈ batch.jobs then batch else { batch with jobs := batch.jobs.insert key point }

def move (point : BatchPoint) : EvalBatch := { batch with jobs := batch.jobs.insert key point }

def leave : EvalBatch := { batch with jobs := batch.jobs.erase key }

/-! `run_submit` -/

def beginSubmit : EvalBatch :=
  match batch.row with
  | some { providerBatchId := none, .. } => batch.start key .loaded
  | _ => batch

def createBatch (providerBatchId : String) : EvalBatch :=
  if batch.jobs.lookup key = some .loaded then
    { batch.move key (.created providerBatchId) with batches := batch.batches ++ [providerBatchId] }
  else batch

def commitBatch : EvalBatch :=
  match batch.jobs.lookup key with
  | some (.created providerBatchId) =>
      { batch.leave key with
        row := batch.row.map fun row => { row with providerBatchId := some providerBatchId, status := .submitted } }
  | _ => batch

/-! `run_collect` -/

def beginCollect : EvalBatch :=
  match batch.row with
  | some { status := .submitted, providerBatchId := some _, .. } => batch.start key .polling
  | _ => batch

def pollBatch (ended stale : Bool) : EvalBatch :=
  if batch.jobs.lookup key = some .polling then
    if ended then batch.move key .fetching
    else if stale then batch.move key (.failing false)
    else { batch.leave key with row := batch.row.map fun row => { row with attempts := row.attempts + 1 } }
  else batch

def fetchResults (succeeded : Bool) : EvalBatch :=
  if batch.jobs.lookup key = some .fetching then
    batch.move key (if succeeded then .succeeded else .failing false)
  else batch

/-- `_record_batch_cost_event` commits on its own, or swallows its error. -/
def recordCost (written : Bool) : EvalBatch :=
  if batch.jobs.lookup key = some .succeeded then
    { batch.move key (.recorded written) with costEvents := batch.costEvents + written.toNat }
  else batch

/-- `persist_eval_from_raw` commits the result of a text that parses. -/
def persistEval (parsed : Bool) : EvalBatch :=
  match batch.jobs.lookup key with
  | some (.recorded billed) =>
      if parsed then { batch.move key (.settled billed) with results := batch.results + 1 }
      else batch.move key (.failing billed)
  | _ => batch

def fallbackScore : EvalBatch :=
  match batch.jobs.lookup key with
  | some (.failing _) => { batch.move key (.settled true) with fallbacks := batch.fallbacks + 1 }
  | _ => batch

def deleteRow : EvalBatch :=
  match batch.jobs.lookup key with
  | some (.settled _) => { batch.leave key with row := none }
  | _ => batch

def step : BatchEvent → EvalBatch
  | .beginSubmit key => batch.beginSubmit key
  | .createBatch key providerBatchId => batch.createBatch key providerBatchId
  | .commitBatch key => batch.commitBatch key
  | .beginCollect key => batch.beginCollect key
  | .pollBatch key ended stale => batch.pollBatch key ended stale
  | .fetchResults key succeeded => batch.fetchResults key succeeded
  | .recordCost key written => batch.recordCost key written
  | .persistEval key parsed => batch.persistEval key parsed
  | .fallbackScore key => batch.fallbackScore key
  | .deleteRow key => batch.deleteRow key
  | .fail key => batch.leave key

end EvalBatch

end Thought2Build.Evals
