import Thought2Build.Integrations.InstallationCore

/-!
The export of a push as a queued job. Requests reset the push and queue a job under its id, workers run jobs and
retry or requeue them, and the drift sweep fails pushes whose job is gone.
-/

namespace Thought2Build.Integrations

def jobMaxTries : Nat := 5

structure PushRow where
  id : Nat
  status : PushStatus := .pending
  since : Nat
  deriving DecidableEq

inductive JobKey where
  | push (id : Nat)
  | fresh (number : Nat)
  deriving DecidableEq

inductive JobPhase where
  | queued
  /-- `run_export_push` with the status that its session has loaded. -/
  | running (seen : PushStatus)
  /-- The function has returned; arq has yet to requeue or to delete the job. -/
  | returning (again : Bool)
  deriving DecidableEq

structure ExportJob where
  key : JobKey
  push : Nat
  tries : Nat := 0
  born : Nat
  phase : JobPhase := .queued
  deriving DecidableEq

inductive ExportError where
  | throttled (requeued : Bool)
  | unavailable
  /-- One of `_PERMANENT_EXPORT_ERRORS`, or an installation that is gone. -/
  | permanent
  | transient

structure ExportRequest where
  push : Nat
  restored : PushStatus
  deriving DecidableEq

structure DriftSweep where
  born : Nat
  unchecked : List Nat
  dead : List Nat := []
  deriving DecidableEq

structure Exports where
  clock : Nat := 0
  pushes : List PushRow := []
  jobs : List ExportJob := []
  requests : List ExportRequest := []
  sweeps : List DriftSweep := []
  nextKey : Nat := 0

inductive ExportEvent where
  | prepare (push : Nat)
  | resync (push : Nat)
  | submit (request : ExportRequest) (queueUp : Bool)
  | markStale (push : Nat)
  | begin (key : JobKey)
  | refresh (key : JobKey)
  | complete (key : JobKey)
  | raise (key : JobKey) (error : ExportError)
  | settle (key : JobKey)
  | crash (key : JobKey)
  /-- arq gives a job up: it is expired, or has run into its timeout. -/
  | drop (key : JobKey)
  | startSweep
  | checkNext (sweep : DriftSweep)
  | commitSweep (sweep : DriftSweep)

def ExportJob.isRunning (job : ExportJob) : Bool :=
  match job.phase with
  | .running _ => true
  | _ => false

def loadPush : Option PushRow → JobPhase
  | none => .returning false
  | some row => if row.status = .completed then .returning false else .running row.status

def PushRow.write (now : Nat) (status : PushStatus) (row : PushRow) : PushRow :=
  if row.status = status then row else { row with status, since := now }

namespace Exports

variable (exports : Exports)

def row (push : Nat) : Option PushRow := exports.pushes.find? (·.id = push)

def job (key : JobKey) : Option ExportJob := exports.jobs.find? (·.key = key)

def write (push : Nat) (status : PushStatus) : Exports :=
  { exports with
    pushes := exports.pushes.map fun row => if row.id = push then row.write exports.clock status else row }

def flush (push : Nat) (seen status : PushStatus) : Exports :=
  if status ≠ seen then exports.write push status else exports

def setPhase (key : JobKey) (phase : JobPhase) : Exports :=
  { exports with jobs := exports.jobs.map fun job => if job.key = key then { job with phase } else job }

def remove (key : JobKey) : Exports := { exports with jobs := exports.jobs.filter (·.key ≠ key) }

def prepare (push : Nat) : Exports :=
  { (if (exports.row push).isSome then exports.write push .pending
      else { exports with pushes := exports.pushes ++ [{ id := push, since := exports.clock }] }) with
    requests := exports.requests ++ [⟨push, .failed⟩] }

def resync (push : Nat) : Exports :=
  match exports.row push with
  | none => exports
  | some row =>
      if row.status = .failed then exports
      else { exports.write push .pending with requests := exports.requests ++ [⟨push, row.status⟩] }

/-- `enqueue` under the id of the push: arq drops the job where it has one of the key. -/
def enqueue (push : Nat) : Exports :=
  if (exports.job (.push push)).isSome then exports
  else { exports with jobs := exports.jobs ++ [{ key := .push push, push, born := exports.clock }] }

/-- `mark_push_unstarted` or `restore_push_status` where the queue is down -/
def submit (request : ExportRequest) (queueUp : Bool) : Exports :=
  if request ∈ exports.requests then
    { (if queueUp then exports.enqueue request.push
        else exports.flush request.push .pending request.restored) with
      requests := exports.requests.erase request }
  else exports

def markStale (push : Nat) : Exports :=
  { exports with pushes := exports.pushes.map fun row =>
      if row.id = push ∧ row.status ≠ .failed then row.write exports.clock .stale else row }

def begin (key : JobKey) : Exports :=
  match exports.job key with
  | none => exports
  | some job =>
      if job.phase ≠ .queued then exports
      else if jobMaxTries ≤ job.tries then exports.remove key
      else
        { exports with jobs := exports.jobs.map fun job =>
            if job.key = key then { job with tries := job.tries + 1, phase := loadPush (exports.row job.push) }
            else job }

def refresh (key : JobKey) : Exports :=
  match exports.job key with
  | none => exports
  | some job => match exports.row job.push with
      | none => exports
      | some row => if job.isRunning then exports.setPhase key (.running row.status) else exports

def complete (key : JobKey) : Exports :=
  match exports.job key with
  | none => exports
  | some job => match job.phase with
      | .running seen => (exports.flush job.push seen .completed).setPhase key (.returning false)
      | _ => exports

def requeueThrottled (push : Nat) : Exports :=
  { exports with
    jobs := exports.jobs ++ [{ key := .fresh exports.nextKey, push, born := exports.clock }]
    nextKey := exports.nextKey + 1 }

def raise (key : JobKey) (error : ExportError) : Exports :=
  match exports.job key with
  | none => exports
  | some job => match job.phase with
      | .running seen =>
          let again : Bool := job.tries < jobMaxTries
          match error with
          | .throttled requeued =>
              (if requeued then exports.requeueThrottled job.push else exports).setPhase key (.returning false)
          | .unavailable => exports.setPhase key (.returning again)
          | .permanent => (exports.flush job.push seen .failed).setPhase key (.returning again)
          | .transient =>
              (if again then exports else exports.flush job.push seen .failed).setPhase key (.returning again)
      | _ => exports

def settle (key : JobKey) : Exports :=
  match exports.job key with
  | none => exports
  | some job => match job.phase with
      | .returning true => exports.setPhase key .queued
      | .returning false => exports.remove key
      | _ => exports

def startSweep : Exports :=
  { exports with sweeps := exports.sweeps ++ [{
      born := exports.clock, unchecked := (exports.pushes.filter (·.status = .pending)).map (·.id) }] }

def isJobAlive (push : Nat) : Bool := (exports.job (.push push)).isSome

def checkNext (sweep : DriftSweep) : Exports :=
  match sweep.unchecked with
  | [] => exports
  | push :: rest =>
      if sweep ∈ exports.sweeps then
        { exports with sweeps := { sweep with
            unchecked := rest
            dead := if exports.isJobAlive push then sweep.dead else sweep.dead ++ [push] } ::
              exports.sweeps.erase sweep }
      else exports

def commitSweep (sweep : DriftSweep) : Exports :=
  if sweep ∈ exports.sweeps ∧ sweep.unchecked = [] then
    { exports with
      pushes := exports.pushes.map fun row =>
        if row.id ∈ sweep.dead then row.write exports.clock .failed else row
      sweeps := exports.sweeps.erase sweep }
  else exports

def act : ExportEvent → Exports
  | .prepare push => exports.prepare push
  | .resync push => exports.resync push
  | .submit request queueUp => exports.submit request queueUp
  | .markStale push => exports.markStale push
  | .begin key => exports.begin key
  | .refresh key => exports.refresh key
  | .complete key => exports.complete key
  | .raise key error => exports.raise key error
  | .settle key => exports.settle key
  | .crash key => exports.setPhase key .queued
  | .drop key => exports.remove key
  | .startSweep => exports.startSweep
  | .checkNext sweep => exports.checkNext sweep
  | .commitSweep sweep => exports.commitSweep sweep

def step (event : ExportEvent) : Exports := { exports.act event with clock := exports.clock + 1 }

end Exports

end Thought2Build.Integrations
