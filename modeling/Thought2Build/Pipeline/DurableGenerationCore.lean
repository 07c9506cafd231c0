import Thought2Build.Pipeline.RunProgress

/-!
`_generate_durable_artifact` and the workers that run it. A job may be delivered to several workers, and
a worker may stop anywhere; its memory is its own, the checkpoints are in the rows of the run.
-/

namespace Thought2Build.Pipeline

namespace GenerationRun

def savedText (run : GenerationRun) (key : String) : Option String :=
  (run.chunks.find? (·.key = key)).map (·.content)

theorem savedText_isSome {run : GenerationRun} {key : String} :
    (run.savedText key).isSome = true ↔ key ∈ run.bankedKeys := by
  simp [savedText, bankedKeys, List.find?_isSome]

theorem savedText_bank (run : GenerationRun) (chunk : Chunk) (key : String) :
    (run.bank chunk).savedText key =
      (run.savedText key).or (if chunk.key = key then some chunk.content else none) := by
  by_cases banked : chunk.key ∈ run.bankedKeys
  · have same : run.bank chunk = run := if_pos banked
    rw [same]
    by_cases own : chunk.key = key
    · have saved := savedText_isSome.mpr (own ▸ banked)
      obtain ⟨text, saved⟩ := Option.isSome_iff_exists.mp saved
      simp [saved]
    · simp [own]
  · have more : (run.bank chunk).chunks = run.chunks ++ [chunk] := by simp [bank, banked]
    by_cases own : chunk.key = key
    · simp [savedText, more, List.find?_append, own]
    · simp [savedText, more, List.find?_append, own]

def loadCheckpointMap (run : GenerationRun) (key : String) : Option String :=
  (run.savedText key).filter (strip · ≠ "")

end GenerationRun

/-- The chunks that a run's job brings along: `resume_content` of its payload. -/
abbrev Payload := List (String × String)

structure Worker where
  type : StageType
  runId : Nat
  completed : String → Option String
  unbanked : List (String × String)
  wave : Nat := 0
  asked : List String := []
  alive : Bool := true

structure Fleet where
  workspace : Workspace
  payloads : StageType → List Payload
  workers : List Worker

/-- What a worker does next. It banks its seeds in any order, and asks for the chunks of a wave in any
order. -/
inductive Move where
  | bank (key : String)
  | ask (key : String)
  | answer (key text : String)
  | advance
  | save (advisories : List Finding)
  | stop

inductive Act where
  | transact (event : Event)
  | deliver (type : StageType) (id : Nat)
  | work (position : Nat) (move : Move) (now : Int)

namespace Operation

def byWorker : Operation → Bool
  | checkpointChunk _ _ | succeed _ _ _ => true
  | _ => false

def begins : Operation → Bool
  | generate _ => true
  | _ => false

def interruption? : Operation → Option (Nat × Interruption)
  | terminalizeInterruptedRun id interruption => some (id, interruption)
  | _ => none

end Operation

namespace Fleet

def fresh (inputs : WorkspaceInputs) (now : Int) : Fleet where
  workspace := .fresh inputs now
  payloads _ := []
  workers := []

def waves (checks : Checks) (fleet : Fleet) (type : StageType) : List (List String) :=
  checks.chunkWaves type fleet.workspace.inputs.mode

def jobPayload (record : StageRecord) (request : StartRequest) : Payload :=
  match request.action with
  | .resume => (record.loadResumeSeed.map (·.2)).getD []
  | _ => []

def transact (checks : Checks) (fleet : Fleet) (event : Event) : Fleet :=
  match fleet.workspace.transact checks event with
  | .error _ => fleet
  | .ok committed =>
      { fleet with
        workspace := fleet.workspace.commit event.type committed event.now
        payloads := match event.operation with
          | .generate request => Function.update fleet.payloads event.type
              (fleet.payloads event.type ++ [jobPayload (fleet.workspace.record event.type) request])
          | _ => fleet.payloads }

/-- `completed_content` at the start: the payload updated with the checkpoints, for the keys of the plan. -/
def seeds (plan : List String) (payload : Payload) (run : GenerationRun) (key : String) : Option String :=
  if key ∈ plan then ((run.loadCheckpointMap key).or (payload.lookup key)).filter (strip · ≠ "") else none

def deliver (checks : Checks) (fleet : Fleet) (type : StageType) (id : Nat) : Fleet :=
  match (fleet.workspace.record type).runs[id]?, (fleet.payloads type)[id]? with
  | some run, some payload =>
      if run.status = .running ∧ run.chunkPlan ≠ none then
        let plan := (fleet.waves checks type).flatten
        let completed := seeds plan payload run
        { fleet with workers := fleet.workers ++ [{
            type, runId := id, completed
            unbanked := plan.filterMap fun key => (completed key).map fun text => (key, text) }] }
      else fleet
  | _, _ => fleet

def setWorker (fleet : Fleet) (position : Nat) (worker : Worker) : Fleet :=
  { fleet with workers := fleet.workers.set position worker }

def checkpoint (checks : Checks) (fleet : Fleet) (position : Nat) (worker next : Worker)
    (key text : String) (now : Int) : Fleet :=
  let chunk : Chunk := {
    key, ordinal := (fleet.waves checks worker.type).flatten.idxOf key, content := text }
  let event : Event := { type := worker.type, operation := .checkpointChunk worker.runId chunk, now }
  match fleet.workspace.transact checks event with
  | .error _ => fleet.setWorker position { worker with alive := false }
  | .ok committed =>
      { fleet.setWorker position next with
        workspace := fleet.workspace.commit worker.type committed now }

def prior (checks : Checks) (fleet : Fleet) (worker : Worker) : List String :=
  ((fleet.waves checks worker.type).take worker.wave).flatten.filterMap worker.completed

def CanAsk (checks : Checks) (fleet : Fleet) (worker : Worker) (key : String) : Prop :=
  worker.alive = true ∧ worker.unbanked = [] ∧
    key ∈ (fleet.waves checks worker.type).getD worker.wave [] ∧ worker.completed key = none

instance (checks : Checks) (fleet : Fleet) (worker : Worker) (key : String) :
    Decidable (fleet.CanAsk checks worker key) :=
  inferInstanceAs (Decidable (_ ∧ _ ∧ _ ∧ _))

def assembled (checks : Checks) (fleet : Fleet) (worker : Worker) : String :=
  strip ("\n\n".intercalate ((fleet.waves checks worker.type).flatten.filterMap worker.completed))

/-- The success transaction of a worker that has completed every wave; `rewrites` is
`apply_deterministic_rewrites`. -/
def saveArtifact (checks : Checks) (rewrites : StageType → String → String → String) (fleet : Fleet)
    (position : Nat) (worker : Worker) (advisories : List Finding) (now : Int) : Fleet :=
  let content := rewrites worker.type (fleet.assembled checks worker) fleet.workspace.inputs.mode
  let event : Event := {
    type := worker.type, operation := .succeed worker.runId content advisories, now }
  let stopped := fleet.setWorker position { worker with alive := false }
  { stopped with workspace := fleet.workspace.step checks event }

def work (checks : Checks) (rewrites : StageType → String → String → String) (fleet : Fleet)
    (position : Nat) (worker : Worker) (now : Int) : Move → Fleet
  | .bank key =>
      match worker.unbanked.lookup key with
      | none => fleet
      | some text => fleet.checkpoint checks position worker
          { worker with unbanked := worker.unbanked.filter (·.1 ≠ key) } key text now
  | .ask key =>
      if fleet.CanAsk checks worker key then
        fleet.setWorker position { worker with asked := worker.asked ++ [key] }
      else fleet
  | .answer key text =>
      if key ∈ worker.asked then
        fleet.checkpoint checks position worker
          { worker with
            completed := Function.update worker.completed key (some text)
            asked := worker.asked.filter (· ≠ key) } key text now
      else fleet
  | .advance =>
      if worker.unbanked = [] ∧ worker.wave < (fleet.waves checks worker.type).length ∧
          ∀ key ∈ (fleet.waves checks worker.type).getD worker.wave [], worker.completed key ≠ none then
        fleet.setWorker position { worker with wave := worker.wave + 1, asked := [] }
      else fleet
  | .save advisories =>
      if worker.unbanked = [] ∧ worker.wave = (fleet.waves checks worker.type).length then
        fleet.saveArtifact checks rewrites position worker advisories now
      else fleet
  | .stop => fleet.setWorker position { worker with alive := false }

def step (checks : Checks) (rewrites : StageType → String → String → String) (fleet : Fleet) :
    Act → Fleet
  | .transact event => if event.operation.byWorker then fleet else fleet.transact checks event
  | .deliver type id => fleet.deliver checks type id
  | .work position move now =>
      match fleet.workers[position]? with
      | none => fleet
      | some worker =>
          if worker.alive then fleet.work checks rewrites position worker now move else fleet

structure Call where
  type : StageType
  runId : Nat
  wave : Nat
  key : String
  prior : List String
  deriving DecidableEq

def call (checks : Checks) (fleet : Fleet) : Act → Option Call
  | .work position (.ask key) _ => do
      let worker ← fleet.workers[position]?
      guard (fleet.CanAsk checks worker key)
      return {
        type := worker.type, runId := worker.runId, wave := worker.wave, key
        prior := fleet.prior checks worker }
  | _ => none

def Unattended (fleet : Fleet) (type : StageType) : Prop :=
  ∀ worker ∈ fleet.workers, worker.alive = true → worker.type ≠ type

instance (fleet : Fleet) (type : StageType) : Decidable (fleet.Unattended type) :=
  inferInstanceAs (Decidable (∀ worker ∈ fleet.workers, _ → _))

def Rebanked (payload : Payload) (run : GenerationRun) : Prop :=
  ∀ entry ∈ payload, entry.1 ∈ run.bankedKeys

instance (payload : Payload) (run : GenerationRun) : Decidable (Rebanked payload run) :=
  inferInstanceAs (Decidable (∀ entry ∈ payload, _))

/-- Workers of a stage take turns, and a run whose text an interruption saves has banked all the chunks
that its job brought along, or none. -/
def Sequential (checks : Checks) (fleet : Fleet) : Act → Prop
  | .transact event =>
      (event.operation.begins = true → (fleet.workspace.transact checks event).isOk = true →
        fleet.Unattended event.type) ∧
      ∀ stopped ∈ event.operation.interruption?,
        ∀ run ∈ (fleet.workspace.record event.type).runs[stopped.1]?,
          ∀ payload ∈ (fleet.payloads event.type)[stopped.1]?,
            run.status = .running → stopped.2.Saves run → run.chunks = [] ∨ Rebanked payload run
  | .deliver type id => ∀ run ∈ (fleet.workspace.record type).runs[id]?, run.status = .running →
      fleet.Unattended type
  | .work _ _ _ => True

instance (checks : Checks) (fleet : Fleet) : DecidablePred (fleet.Sequential checks)
  | .transact _ => inferInstanceAs (Decidable ((_ → _ → _) ∧ ∀ stopped ∈ Operation.interruption? _, _))
  | .deliver _ _ => inferInstanceAs (Decidable (∀ run ∈ (_ : Option GenerationRun), _ → _))
  | .work _ _ _ => isTrue trivial

end Fleet

end Thought2Build.Pipeline
