import Mathlib.Data.List.Sort
import Mathlib.Data.List.DropRight
import Thought2Build.Pipeline.StageCore

/-!
Generation runs, their saved chunks, and the rows that belong to one stage: its history, its runs
and the charges made for them.
-/

namespace Thought2Build.Pipeline

inductive GenerationAction where
  | generate | regenerate | resume
  deriving DecidableEq

inductive Outcome where
  | succeeded | blocked | cancelled | timedOut | failed
  deriving DecidableEq

inductive Stop where
  | blocked | cancelled | timedOut | failed
  deriving DecidableEq

def Stop.outcome : Stop → Outcome
  | blocked => .blocked
  | cancelled => .cancelled
  | timedOut => .timedOut
  | failed => .failed

theorem Stop.outcome_ne_succeeded (stop : Stop) : stop.outcome ≠ .succeeded := by
  cases stop <;> decide

inductive RunStatus where
  | running
  | ended (outcome : Outcome)
  deriving DecidableEq

inductive StageError where
  | resumeUnavailable
  | resumeInputsChanged
  | stageStatus (status : StageStatus)
  | dependenciesNotFinalised
  | alreadyActive
  | runMissing
  | generationCancelled
  | deadlineExceeded
  | invalidChunk
  | checkpointMismatch
  | versionConflict
  | versionNotFound
  | versionChanged
  | gateBlocked
  | gateChecking
  | gateNotBlocked
  | sourcesChanged
  | notAHarness
  | noNewCoverage
  | unsafeOutput
  | superseded
  | notFinalised
  | nothingSelected

def require (holds : Prop) [Decidable holds] (error : StageError) : Except StageError Unit :=
  if holds then .ok () else .error error

@[simp] theorem require_eq_ok {holds : Prop} [Decidable holds] {error : StageError} {done : Unit} :
    require holds error = .ok done ↔ holds := by
  by_cases met : holds <;> simp [require, met]

@[simp] theorem pure_eq_ok {α : Type} {value result : α} :
    (pure value : Except StageError α) = .ok result ↔ value = result := by
  simp [pure, Except.pure]

theorem bind_eq_ok {α β : Type} {first : Except StageError α} {next : α → Except StageError β} {result : β} :
    (first >>= next) = .ok result ↔ ∃ value, first = .ok value ∧ next value = .ok result := by
  cases first <;> simp [bind, Except.bind]

/-! Texts -/

def isSpace (letter : Char) : Bool :=
  let code := letter.toNat
  (9 ≤ code && code ≤ 13) || (28 ≤ code && code ≤ 32) || code = 0x85 || code = 0xA0 ||
    code = 0x1680 || (0x2000 ≤ code && code ≤ 0x200A) || code = 0x2028 || code = 0x2029 ||
    code = 0x202F || code = 0x205F || code = 0x3000

def strip (text : String) : String :=
  String.ofList ((text.toList.dropWhile isSpace).rdropWhile isSpace)

def maxStageContentChars : Nat := 500000

/-! Identities -/

namespace InputSnapshot

def identity (checks : Checks) (snapshot : InputSnapshot) : SourceIdentity where
  sourceHash := checks.digest { snapshot with inputs := { snapshot.inputs with disableCritic := false } }
  upstreamVersions := snapshot.stages.map fun (type, _, version) => (type, version)

def texts (snapshot : InputSnapshot) : List (StageType × String) :=
  snapshot.stages.map fun (type, text, _) => (type, text)

end InputSnapshot

/-- `cache_identity`; the release stands for the prompt bundle, the remote pins and the
compression settings. -/
structure CacheIdentity where
  source : SourceIdentity
  release : String
  deriving DecidableEq

/-! Runs -/

structure Chunk where
  key : String
  ordinal : Nat
  content : String
  deriving DecidableEq

structure GenerationRun where
  action : GenerationAction
  status : RunStatus := .running
  deduction : Option Nat := none
  inputSnapshot : InputSnapshot
  inputIdentity : CacheIdentity
  preparedPrompt : Option String := none
  chunkPlan : Option (List String)
  resumeSource : Option Nat := none
  previousStatus : StageStatus
  completedParts : Nat := 0
  totalParts : Nat
  deadline : Int
  heartbeatAt : Int
  cancelRequested : Bool := false
  resultVersion : Option Nat := none
  errorCode : Option String := none
  partialSaved : Bool := false
  refundedCredits : Nat := 0
  finishedAt : Option Int := none
  /-- The rows of `stage_generation_chunks`. -/
  chunks : List Chunk := []
  deriving DecidableEq

structure Salvage where
  combined : String
  discarded : Bool
  resumable : Bool

namespace GenerationRun

def plannedKeys (run : GenerationRun) : List String := run.chunkPlan.getD []

def bankedKeys (run : GenerationRun) : List String := run.chunks.map (·.key)

@[simps] def markTerminal (run : GenerationRun) (outcome : Outcome) (now : Int)
    (resultVersion : Option Nat) (errorCode : Option String) (partialSaved : Bool)
    (refundedCredits : Nat) : GenerationRun :=
  { run with
    status := .ended outcome, resultVersion, errorCode, partialSaved, refundedCredits
    finishedAt := some now, heartbeatAt := now }

def bank (run : GenerationRun) (chunk : Chunk) : GenerationRun :=
  if chunk.key ∈ run.bankedKeys then run else { run with chunks := run.chunks ++ [chunk] }

@[simp] theorem bank_status (run : GenerationRun) (chunk : Chunk) :
    (run.bank chunk).status = run.status := by
  unfold bank
  split <;> rfl

@[simp] theorem bank_deduction (run : GenerationRun) (chunk : Chunk) :
    (run.bank chunk).deduction = run.deduction := by
  unfold bank
  split <;> rfl

/-- The chunks with text as `(ordinal, text)`, in the order of their ordinals. -/
def orderedPieces (run : GenerationRun) : List (Nat × String) :=
  ((run.chunks.insertionSort (·.ordinal ≤ ·.ordinal)).map
    fun chunk => (chunk.ordinal, strip chunk.content)).filter (·.2 ≠ "")

def piecesWith (run : GenerationRun) (partialContent : String) (partialOrdinal : Option Nat) :
    List (Nat × String) :=
  let pieces := run.orderedPieces
  let ordinals := pieces.map (·.1)
  let ordinal := partialOrdinal.getD (ordinals.max?.elim 0 (· + 1))
  let text := strip partialContent
  if text ≠ "" ∧ ordinal ∉ ordinals then
    (pieces ++ [(ordinal, text)]).insertionSort (·.1 ≤ ·.1)
  else pieces

/-- The part of `terminalize_interrupted_run` that reads only the run; `safe` is what
`validate_async` answers on the combined text in time. -/
def salvage (run : GenerationRun) (partialContent : String) (partialOrdinal : Option Nat)
    (discardContent safe : Bool) : Salvage :=
  let pieces := if discardContent then [] else run.piecesWith partialContent partialOrdinal
  let joined := strip ("\n\n".intercalate (pieces.map (·.2)))
  let fits : Bool := joined.length ≤ maxStageContentChars
  let discarded : Bool :=
    discardContent || (pieces ≠ [] && !fits) || (joined ≠ "" && fits && !safe)
  let combined := if joined ≠ "" && fits && safe then joined else ""
  let completed := if discarded then [] else run.bankedKeys
  let missing := run.plannedKeys.filter (· ∉ completed)
  { combined, discarded
    resumable := completed ≠ [] && missing ≠ [] && combined ≠ "" && run.preparedPrompt.isSome }

end GenerationRun

/-! The rows of a stage -/

/-- A stage with its history, its runs and the part of the credit ledger that is theirs. Runs and
charges are named by their positions. -/
structure StageRecord where
  stage : Stage
  versions : List StageVersion := []
  nextRow : Nat := 0
  runs : List GenerationRun := []
  charges : List Nat := []
  refunds : List Nat := []
  /-- The `current_version` each increment in flight has read. -/
  increments : List Nat := []
  selected : List Nat := []

namespace StageRecord

@[simps] def withStage (record : StageRecord) (stage : Stage) : StageRecord := { record with stage }

@[simps] def withRun (record : StageRecord) (id : Nat) (update : GenerationRun → GenerationRun) : StageRecord :=
  { record with runs := record.runs.modify id update }

/-- The record with a new row of `stage_versions`. -/
@[simps] def withVersion (record : StageRecord) (version : Nat) (content : String)
    (sourceIdentity : Option SourceIdentity) (createdBy : Author) (createdAt : Int) : StageRecord :=
  { record with
    versions := record.versions ++
      [{ id := record.nextRow, version, content, sourceIdentity, createdBy, createdAt }]
    nextRow := record.nextRow + 1 }

/-- The rows of `stage_versions` are unique by `(stage_id, version)`. -/
def addVersion (record : StageRecord) (version : Nat) (content : String)
    (sourceIdentity : Option SourceIdentity) (createdBy : Author) (createdAt : Int) :
    Except StageError StageRecord := do
  require (version ∉ record.versions.map (·.version)) .versionConflict
  return record.withVersion version content sourceIdentity createdBy createdAt

def append (record : StageRecord) (content : String) (sourceIdentity : Option SourceIdentity)
    (createdBy : Author) (now : Int) : Except StageError StageRecord := do
  let number := record.stage.currentVersion + 1
  let written ← record.addVersion number content sourceIdentity createdBy now
  return written.withStage (record.stage.withHead content number sourceIdentity)

def lockRunningRun (record : StageRecord) (id : Nat) (now : Int) : Except StageError GenerationRun :=
  match record.runs[id]? with
  | none => .error .runMissing
  | some run => do
      require (run.status = .running) .generationCancelled
      require (run.cancelRequested = false) .generationCancelled
      require (now < run.deadline) .deadlineExceeded
      return run

def Active (record : StageRecord) : Prop := ∃ run ∈ record.runs, run.status = .running

instance (record : StageRecord) : Decidable record.Active :=
  inferInstanceAs (Decidable (∃ run ∈ record.runs, run.status = .running))

/-- `credit_service.refund` of a deduction, if there is one: a deduction comes back once. -/
@[simps] def refund (record : StageRecord) (deduction : Option Nat) : StageRecord :=
  { record with refunds := deduction.elim record.refunds fun deduction =>
      if deduction ∈ record.refunds then record.refunds else record.refunds ++ [deduction] }

def refundAmount (record : StageRecord) (deduction : Option Nat) : Nat :=
  deduction.elim 0 fun deduction =>
    if deduction ∈ record.refunds then 0 else record.charges.getD deduction 0

def loadResumeSeed (record : StageRecord) : Option (Nat × List (String × String)) := do
  let payload ← record.stage.gate.payload
  guard payload.resumable
  guard (record.stage.gate.version = some record.stage.currentVersion)
  let sourceId ← payload.resumeSourceRunId
  let source ← record.runs[sourceId]?
  let seed := (source.chunks.filter fun chunk => strip chunk.content ≠ "").map
    fun chunk => (chunk.key, chunk.content)
  guard (seed ≠ [])
  return (sourceId, seed)

end StageRecord

end Thought2Build.Pipeline
