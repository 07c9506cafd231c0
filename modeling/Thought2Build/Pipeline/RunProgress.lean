import Mathlib.Data.Option.Basic
import Thought2Build.Library.Rows
import Thought2Build.Pipeline.RunSettlement

/-!
What the transactions of a stage make of its runs: how a run goes on, which of its texts an
interruption saves, and which run a gate offers to resume.
-/

namespace Thought2Build.Pipeline

namespace QualityGate

def offer (gate : QualityGate) : Option Nat :=
  gate.payload.bind fun payload => if payload.resumable then payload.resumeSourceRunId else none

def Holds (gate : QualityGate) : Prop := gate.status = .blocked ∨ gate.status = .overridden

variable {gate : QualityGate} {findings : List Finding} {version : Nat} {finished blocked : Bool}

theorem merge_of_holds (holds : gate.Holds) : gate.merge findings version finished blocked =
    { gate with payload := some { gate.payload.getD {} with findings := gate.mergedFindings findings } } :=
  if_pos holds

theorem offer_withFindings (gate : QualityGate) (found : List Finding) :
    offer { gate with payload := some { gate.payload.getD {} with findings := found } } = gate.offer := by
  cases held : gate.payload <;> simp [offer, held]

theorem offer_merge (gate : QualityGate) :
    (gate.merge findings version finished blocked).offer = none ∨
      (gate.merge findings version finished blocked).offer = gate.offer := by
  by_cases holds : gate.Holds
  · rw [merge_of_holds holds]
    exact Or.inr (offer_withFindings gate _)
  · left
    unfold merge
    dsimp only
    split
    · rename_i held
      exact absurd held holds
    · split
      · rfl
      · split
        · rfl
        · split <;> rfl

end QualityGate

theorem Stage.offer_checkingGate (checks : Checks) (stage : Stage) (existing : List Finding) (now : Int) :
    (stage.checkingGate checks existing now).offer = none := by
  unfold checkingGate
  dsimp only
  split
  · exact (QualityGate.offer_merge _).elim id id
  · rfl

theorem Stage.offer_readinessGate {checks : Checks} {snapshot : InputSnapshot} {stage : Stage}
    {gate : QualityGate} (unready : stage.readinessGate checks snapshot = some gate) :
    gate.offer = none ∨ gate.offer = stage.gate.offer := by
  unfold readinessGate at unready
  split at unready
  · contradiction
  · split at unready
    · obtain rfl := Option.some.inj unready
      exact Or.inl rfl
    · dsimp only at unready
      split at unready
      · obtain rfl := Option.some.inj unready
        exact QualityGate.offer_merge stage.gate
      · contradiction

open StageRecord

section

variable {checks : Checks} {around : Surroundings} {record : StageRecord}

theorem offer_eq_some {gate : QualityGate} {source : Nat} : gate.offer = some source ↔
    ∃ payload, gate.payload = some payload ∧ payload.resumable = true ∧
      payload.resumeSourceRunId = some source := by
  simp [QualityGate.offer, Option.bind_eq_some_iff]

theorem loadResumeSeed_eq_some {source : Nat} {seed : List (String × String)} :
    record.loadResumeSeed = some (source, seed) ↔
      record.stage.gate.version = some record.stage.currentVersion ∧ record.stage.gate.offer = some source ∧
        ∃ run, record.runs[source]? = some run ∧ seed ≠ [] ∧
          (run.chunks.filter (strip ·.content ≠ "")).map (fun chunk => (chunk.key, chunk.content)) = seed := by
  simp only [loadResumeSeed, bind, Option.bind_eq_some_iff, Option.guard_eq_some', offer_eq_some, pure,
    Option.some.injEq, Prod.mk.injEq]
  constructor
  · rintro ⟨payload, held, _, resumable, _, pinned, named, offered, run, found, _, text, rfl, rfl⟩
    exact ⟨pinned, ⟨payload, held, resumable, offered⟩, run, found, text, rfl⟩
  · rintro ⟨pinned, ⟨payload, held, resumable, offered⟩, run, found, text, rfl⟩
    exact ⟨payload, held, (), resumable, (), pinned, source, offered, run, found, (), text, rfl, rfl⟩

theorem seed_of_resumeSource {request : StartRequest} {source : Option (Nat × GenerationRun)}
    (found : record.resumeSource checks around request = .ok source) (resume : request.action = .resume) :
    ∃ position seed run, record.loadResumeSeed = some (position, seed) ∧
      record.runs[position]? = some run ∧ source = some (position, run) := by
  unfold StageRecord.resumeSource at found
  rw [resume] at found
  dsimp only at found
  split at found
  · contradiction
  · rename_i position seed loaded
    split at found
    · contradiction
    · rename_i run held
      simp only [bind_eq_ok, pure_eq_ok] at found
      obtain ⟨_, _, rfl⟩ := found
      exact ⟨position, seed, run, loaded, held, rfl⟩

end

namespace Operation

def settles : Operation → Bool
  | succeed _ _ _ | replay _ _ _ | persistQualityGateBlocked _ _ _ | terminalizeInterruptedRun _ _ => true
  | _ => false

def savesChunk : Operation → Bool
  | checkpointChunk _ _ => true
  | _ => false

end Operation

namespace GenerationRun

def header (run : GenerationRun) :
    GenerationAction × Option Nat × InputSnapshot × Option (List String) × Option Nat × Nat :=
  (run.action, run.deduction, run.inputSnapshot, run.chunkPlan, run.resumeSource, run.totalParts)

structure Progress (operation : Operation) (run next : GenerationRun) : Prop where
  header : next.header = run.header
  prompt : run.preparedPrompt.isSome = true → next.preparedPrompt.isSome = true
  texts : ∀ chunk ∈ next.chunks, chunk ∈ run.chunks ∨ strip chunk.content ≠ ""
  ended : run.status ≠ .running → { next with chunks := run.chunks } = run ∧ run.chunks <+: next.chunks
  quiet : operation.settles = false → next.status = run.status
  saved : operation.savesChunk = false → next.chunks = run.chunks ∨ (next.status ≠ .running ∧ next.chunks = [])
  counted : operation.savesChunk = false → next.status = .running → next.completedParts = run.completedParts

variable {operation : Operation} {run next : GenerationRun}

theorem Progress.refl (run : GenerationRun) : run.Progress operation run where
  header := rfl
  prompt := id
  texts _ member := Or.inl member
  ended _ := ⟨rfl, List.prefix_rfl⟩
  quiet _ := rfl
  saved _ := Or.inl rfl
  counted _ _ := rfl

theorem Progress.of_running (running : run.status = .running) (header : next.header = run.header)
    (prompt : run.preparedPrompt.isSome = true → next.preparedPrompt.isSome = true)
    (chunks : next.chunks = run.chunks ∨ (next.status ≠ .running ∧ next.chunks = []))
    (quiet : operation.settles = false → next.status = run.status)
    (counted : next.status = .running → next.completedParts = run.completedParts) :
    run.Progress operation next where
  header := header
  prompt := prompt
  texts chunk member := by
    rcases chunks with same | ⟨_, empty⟩
    · exact Or.inl (same ▸ member)
    · rw [empty] at member
      contradiction
  ended stopped := absurd running stopped
  quiet := quiet
  saved _ := chunks
  counted _ := counted

theorem Progress.action (progress : run.Progress operation next) : next.action = run.action :=
  congrArg (·.1) progress.header

theorem Progress.deduction (progress : run.Progress operation next) : next.deduction = run.deduction :=
  congrArg (·.2.1) progress.header

theorem Progress.running (progress : run.Progress operation next)
    (running : next.status = .running) : run.status = .running := by
  by_contra ended
  have same : next.status = run.status := congrArg (·.status) (progress.ended ended).1
  exact ended (same.symm.trans running)

end GenerationRun

namespace StageRecord

open GenerationRun

inductive Moves (record : StageRecord) (operation : Operation) (after : StageRecord) : Prop where
  | same (runs : after.runs = record.runs)
  | started {run : GenerationRun} (idle : ¬record.Active) (running : run.status = .running)
      (empty : run.chunks = []) (begins : ∃ request, operation = .generate request ∧ run.action = request.action)
      (prompted : run.action = .resume → ∃ position source, record.stage.gate.offer = some position ∧
        record.runs[position]? = some source ∧ run.preparedPrompt = source.preparedPrompt)
      (runs : after.runs = record.runs ++ [run])
  | moved {id : Nat} {run next : GenerationRun} (found : record.runs[id]? = some run)
      (progress : run.Progress operation next)
      (runs : ∀ other, after.runs[other]? = if other = id then some next else record.runs[other]?)

variable {record after written : StageRecord} {operation : Operation} {id : Nat} {run next : GenerationRun}

theorem Moves.withRun (update : GenerationRun → GenerationRun) (runs : written.runs = record.runs)
    (progress : ∀ run, record.runs[id]? = some run → run.Progress operation (update run)) :
    Moves record operation (written.withRun id update) := by
  cases found : record.runs[id]? with
  | none =>
      refine .same ?_
      have fixed : written.withRun id update = written := withRun_of_fixed (by simp [runs, found])
      rw [fixed, runs]
  | some run =>
      refine .moved found (progress run found) ?_
      intro other
      rw [getElem?_withRun update (runs ▸ found), runs]

theorem Moves.forward (moves : Moves record operation after) (found : record.runs[id]? = some run) :
    ∃ next, after.runs[id]? = some next ∧ run.Progress operation next := by
  cases moves with
  | same runs => exact ⟨run, runs ▸ found, .refl run⟩
  | started _ _ _ _ _ runs =>
      refine ⟨run, ?_, .refl run⟩
      rw [runs, List.getElem?_append_left (List.getElem?_eq_some_iff.mp found).1]
      exact found
  | @moved own former next was progress runs =>
      by_cases same : id = own
      · subst same
        obtain rfl : former = run := Option.some.inj (was.symm.trans found)
        exact ⟨next, by simp [runs], progress⟩
      · exact ⟨run, by simp [runs, same, found], .refl run⟩

theorem Moves.backward (moves : Moves record operation after) (found : after.runs[id]? = some next) :
    (∃ run, record.runs[id]? = some run ∧ run.Progress operation next) ∨
      (id = record.runs.length ∧ ¬record.Active ∧ next.status = .running ∧ next.chunks = [] ∧
        (∃ request, operation = .generate request ∧ next.action = request.action) ∧
        (next.action = .resume → ∃ position source, record.stage.gate.offer = some position ∧
          record.runs[position]? = some source ∧ next.preparedPrompt = source.preparedPrompt)) := by
  cases moves with
  | same runs => exact Or.inl ⟨next, runs ▸ found, .refl next⟩
  | @started run idle running empty begins prompted runs =>
      rcases Rows.getElem?_concat (runs ▸ found) with old | ⟨last, rfl⟩
      · exact Or.inl ⟨next, old, .refl next⟩
      · exact Or.inr ⟨last, idle, running, empty, begins, prompted⟩
  | moved was progress runs =>
      rw [runs] at found
      split at found
      · rename_i same
        subst same
        obtain rfl := Option.some.inj found
        exact Or.inl ⟨_, was, progress⟩
      · exact Or.inl ⟨next, found, .refl next⟩

end StageRecord

open GenerationRun

section

variable {checks : Checks} {around : Surroundings} {now : Int} {record : StageRecord}
  {operation : Operation} {committed : Committed}

def GenerationRun.saving (run : GenerationRun) (chunk : Chunk) (now : Int) : GenerationRun :=
  let banked := run.bank chunk
  if run.status = .running then
    { banked with completedParts := banked.chunks.length, heartbeatAt := now }
  else banked

theorem progress_saving {position : Nat} (run : GenerationRun) {chunk : Chunk} (text : strip chunk.content ≠ "") :
    run.Progress (.checkpointChunk position chunk) (run.saving chunk now) := by
  unfold saving
  dsimp only
  by_cases banked : chunk.key ∈ run.bankedKeys
  · have same : run.bank chunk = run := if_pos banked
    rw [same]
    split
    · rename_i running
      exact ⟨rfl, id, fun _ member => Or.inl member, fun stopped => absurd running stopped, fun _ => rfl,
        Bool.noConfusion, Bool.noConfusion⟩
    · exact .refl run
  · have more : run.bank chunk = { run with chunks := run.chunks ++ [chunk] } := if_neg banked
    have texts : ∀ saved ∈ run.chunks ++ [chunk], saved ∈ run.chunks ∨ strip saved.content ≠ "" := by
      intro saved member
      rcases List.mem_append.mp member with old | new
      · exact Or.inl old
      · rw [List.mem_singleton.mp new]
        exact Or.inr text
    rw [more]
    split
    · rename_i running
      exact ⟨rfl, id, texts, fun stopped => absurd running stopped, fun _ => rfl, Bool.noConfusion,
        Bool.noConfusion⟩
    · exact ⟨rfl, id, texts, fun _ => ⟨rfl, List.prefix_append _ _⟩, fun _ => rfl, Bool.noConfusion,
        Bool.noConfusion⟩

theorem salvaged_chunks (salvaged : Salvage) (run : GenerationRun) {status : RunStatus}
    (ended : status ≠ .running) :
    (if salvaged.discarded then [] else run.chunks) = run.chunks ∨
      (status ≠ .running ∧ (if salvaged.discarded then [] else run.chunks) = []) := by
  split
  · exact Or.inr ⟨ended, rfl⟩
  · exact Or.inl rfl

theorem Commits.moves (commits : Commits checks around now record operation committed) :
    Moves record operation committed.record := by
  cases commits with
  | generate found _ _ idle =>
      refine .started idle rfl rfl ⟨_, rfl, rfl⟩ ?_ rfl
      intro resume
      obtain ⟨position, _, run, loaded, held, rfl⟩ := seed_of_resumeSource found resume
      exact ⟨position, run, (loadResumeSeed_eq_some.mp loaded).2.1, held, rfl⟩
  | preparePrompt locked =>
      obtain ⟨found, running, _⟩ := lockRunningRun_eq_ok.mp locked
      refine Moves.withRun _ rfl ?_
      intro former was
      obtain rfl := Option.some.inj (found.symm.trans was)
      exact .of_running running rfl (fun _ => rfl) (Or.inl rfl) (fun _ => rfl) (fun _ => rfl)
  | checkpointChunk text => exact Moves.withRun _ rfl fun run _ => progress_saving run text
  | heartbeat =>
      refine Moves.withRun _ rfl ?_
      intro run _
      split
      · rename_i running
        exact .of_running running rfl id (Or.inl rfl) (fun _ => rfl) (fun _ => rfl)
      · exact .refl run
  | requestCancel =>
      refine Moves.withRun _ rfl ?_
      intro run _
      split
      · rename_i running
        exact .of_running running.1 rfl id (Or.inl rfl) (fun _ => rfl) (fun _ => rfl)
      · exact .refl run
  | succeed locked | replay locked | persistQualityGateBlocked locked =>
      obtain ⟨found, running, _⟩ := lockRunningRun_eq_ok.mp locked
      refine Moves.withRun _ rfl ?_
      intro former was
      obtain rfl := Option.some.inj (found.symm.trans was)
      exact .of_running running rfl id (Or.inl rfl) Bool.noConfusion RunStatus.noConfusion
  | interruptEmpty found running | interruptSaved found running =>
      refine Moves.withRun _ rfl ?_
      intro former was
      obtain rfl := Option.some.inj (found.symm.trans was)
      exact .of_running running rfl id (salvaged_chunks _ _ RunStatus.noConfusion) Bool.noConfusion
        RunStatus.noConfusion
  | _ => exact .same rfl

end

namespace Interruption

/-- The interruption saves the chunks and the partial text: they are not discarded, they hold text,
the text fits into a stage and the validator lets it pass. -/
def Saves (interruption : Interruption) (run : GenerationRun) : Prop :=
  let joined := strip ("\n\n".intercalate
    ((run.piecesWith interruption.partialContent interruption.partialOrdinal).map (·.2)))
  interruption.discardContent = false ∧ joined ≠ "" ∧ joined.length ≤ maxStageContentChars ∧
    interruption.safe = true

instance (interruption : Interruption) (run : GenerationRun) : Decidable (interruption.Saves run) :=
  inferInstanceAs (Decidable (_ ∧ _ ∧ _ ∧ _))

variable {interruption : Interruption} {run : GenerationRun}

theorem combined_ne_empty : (interruption.salvage run).combined ≠ "" ↔ interruption.Saves run := by
  simp only [salvage, GenerationRun.salvage, Saves]
  cases interruption.discardContent with
  | true =>
      have empty : strip "" = "" := by decide
      simp [empty]
  | false =>
      simp only [Bool.false_eq_true, if_false]
      generalize strip _ = joined
      by_cases text : joined = ""
      · simp [text]
      · by_cases fits : joined.length ≤ maxStageContentChars
        · by_cases safe : interruption.safe = true
          · simp [text, fits, safe]
          · simp [text, fits, safe]
        · simp [text, fits]

theorem Saves.kept (saves : interruption.Saves run) : (interruption.salvage run).discarded = false := by
  obtain ⟨kept, text, fits, safe⟩ := saves
  simp only [salvage, GenerationRun.salvage, kept, Bool.false_eq_true, if_false, Bool.false_or]
  simp [text, fits, safe]

theorem resumable_iff : (interruption.salvage run).resumable = true ↔
    (interruption.salvage run).discarded = false ∧ interruption.Saves run ∧ run.bankedKeys ≠ [] ∧
      (∃ key ∈ run.plannedKeys, key ∉ run.bankedKeys) ∧ run.preparedPrompt.isSome = true := by
  have parts : (interruption.salvage run).resumable = true ↔
      (let completed := if (interruption.salvage run).discarded then [] else run.bankedKeys
      completed ≠ [] ∧ run.plannedKeys.filter (· ∉ completed) ≠ [] ∧
        (interruption.salvage run).combined ≠ "" ∧ run.preparedPrompt.isSome = true) := by
    simp only [salvage, GenerationRun.salvage, Bool.and_eq_true, decide_eq_true_eq, and_assoc]
  rw [parts, ← combined_ne_empty]
  cases (interruption.salvage run).discarded with
  | true => simp
  | false =>
      simp only [Bool.false_eq_true, if_false, ne_eq, List.filter_eq_nil_iff, true_and]
      push Not
      constructor
      · rintro ⟨banked, missing, text, prompt⟩
        exact ⟨text, banked, by simpa using missing, prompt⟩
      · rintro ⟨text, banked, missing, prompt⟩
        exact ⟨banked, by simpa using missing, text, prompt⟩

end Interruption

section

variable {checks : Checks} {around : Surroundings} {now : Int} {record : StageRecord}
  {operation : Operation} {committed : Committed}

theorem offer_incompleteGate {id version : Nat} {salvaged : Salvage} {errorCode : String} {refunded : Bool} :
    (incompleteGate id salvaged errorCode refunded version).offer =
      if salvaged.resumable then some id else none := by
  simp only [incompleteGate, QualityGate.offer, Option.bind_some]
  split <;> simp_all

def Offered (record : StageRecord) (operation : Operation) (after : StageRecord) (id : Nat) : Prop :=
  ∃ run next interruption, operation = .terminalizeInterruptedRun id interruption ∧
    interruption.Saves run ∧ record.runs[id]? = some run ∧ run.status = .running ∧
      after.runs[id]? = some next ∧ next.status ≠ .running ∧ next.preparedPrompt.isSome = true ∧
        next.chunks = run.chunks ∧ run.chunks ≠ []

theorem offered_settledSaved {id : Nat} {run : GenerationRun} {interruption : Interruption}
    (found : record.runs[id]? = some run) (running : run.status = .running)
    (resumable : (interruption.salvage run).resumable = true) :
    Offered record (.terminalizeInterruptedRun id interruption)
      (record.settledSaved checks now id run interruption) id := by
  obtain ⟨kept, saves, banked, _, prompt⟩ := Interruption.resumable_iff.mp resumable
  have later := getElem?_withRun (fun former => { former.markTerminal interruption.stop.outcome now
      (some (record.stage.currentVersion + 1)) (some interruption.errorCode)
      ((interruption.salvage run).combined ≠ "")
      (record.refundAmount (if (interruption.salvage run).resumable then none else run.deduction)) with
    chunks := if (interruption.salvage run).discarded then [] else former.chunks }) found id
  rw [if_pos rfl] at later
  refine ⟨run, _, interruption, rfl, saves, found, running, later, ?_, prompt, ?_, ?_⟩
  · simp
  · simp [kept]
  · simpa [GenerationRun.bankedKeys] using banked

theorem Commits.offer (commits : Commits checks around now record operation committed) {source : Nat}
    (offered : committed.record.stage.gate.offer = some source) :
    record.stage.gate.offer = some source ∨ Offered record operation committed.record source := by
  have none_offered {gate : QualityGate} (empty : gate.offer = none) (filled : gate.offer = some source) :
      record.stage.gate.offer = some source ∨ Offered record operation committed.record source :=
    (Option.some_ne_none source (filled.symm.trans empty)).elim
  cases commits with
  | succeed | replay | restore | editFinalised | editUnfinalised | generateHarnessPatch =>
      exact none_offered (Stage.offer_checkingGate _ _ _ _) offered
  | persistQualityGateBlocked | recoverChecking => exact none_offered rfl offered
  | @interruptSaved id run interruption found running saved =>
      have offer := offer_incompleteGate.symm.trans offered
      by_cases resumable : (interruption.salvage run).resumable = true
      · rw [if_pos resumable] at offer
        obtain rfl := Option.some.inj offer
        exact Or.inr (offered_settledSaved found running resumable)
      · rw [if_neg resumable] at offer
        exact (Option.some_ne_none source offer.symm).elim
  | finaliseBlocked _ _ _ unready | acknowledgeBlocked _ _ _ unready =>
      rcases Stage.offer_readinessGate unready with empty | same
      · exact none_offered empty offered
      · exact Or.inl (same.symm.trans offered)
  | @unlockInPlace versionNumber version idle found inPlace =>
      have gate : (record.unlockInPlace now version).stage.gate =
        if record.stage.pinned .advisory then record.stage.gate else .cleared := rfl
      rw [gate] at offered
      split at offered
      · exact Or.inl offered
      · exact none_offered rfl offered
  | technologyCheck | criticReview =>
      rcases QualityGate.offer_merge record.stage.gate with empty | same
      · exact none_offered empty offered
      · exact Or.inl (same.symm.trans offered)
  | _ => exact Or.inl offered

def GenerationRun.Offerable (run : GenerationRun) : Prop :=
  run.status ≠ .running ∧ run.preparedPrompt.isSome = true ∧ run.chunks ≠ []

theorem GenerationRun.Progress.offerable {run next : GenerationRun} (progress : run.Progress operation next)
    (offerable : run.Offerable) : next.Offerable := by
  obtain ⟨ended, prompt, chunks⟩ := offerable
  obtain ⟨same, more⟩ := progress.ended ended
  refine ⟨?_, progress.prompt prompt, ?_⟩
  · rw [← same] at ended
    exact ended
  · exact fun empty => chunks (List.prefix_nil.mp (empty ▸ more))

structure StageRecord.Seeded (record : StageRecord) : Prop where
  offers : ∀ source, record.stage.gate.offer = some source →
    ∃ run, record.runs[source]? = some run ∧ run.Offerable
  prompts : ∀ (id : Nat) (run : GenerationRun), record.runs[id]? = some run →
    run.action = .resume → run.preparedPrompt.isSome = true
  texts : ∀ (id : Nat) (run : GenerationRun), record.runs[id]? = some run →
    ∀ chunk ∈ run.chunks, strip chunk.content ≠ ""

theorem Commits.seeded (commits : Commits checks around now record operation committed)
    (seeded : record.Seeded) : committed.record.Seeded where
  offers := by
    intro source offered
    rcases commits.offer offered with before | ⟨_, next, _, _, _, _, _, later, ended, prompt, same, chunks⟩
    · obtain ⟨run, found, offerable⟩ := seeded.offers source before
      obtain ⟨next, later, progress⟩ := commits.moves.forward found
      exact ⟨next, later, progress.offerable offerable⟩
    · exact ⟨next, later, ended, prompt, same ▸ chunks⟩
  prompts := by
    intro id next later resume
    rcases commits.moves.backward later with ⟨run, found, progress⟩ | ⟨_, _, _, _, _, prompted⟩
    · exact progress.prompt (seeded.prompts id run found (progress.action ▸ resume))
    · obtain ⟨position, source, offered, held, same⟩ := prompted resume
      obtain ⟨other, also, _, prompt, _⟩ := seeded.offers position offered
      obtain rfl : source = other := Option.some.inj (held.symm.trans also)
      exact same ▸ prompt
  texts := by
    intro id next later chunk member
    rcases commits.moves.backward later with ⟨run, found, progress⟩ | ⟨_, _, _, empty, _⟩
    · rcases progress.texts chunk member with old | text
      · exact seeded.texts id run found chunk old
      · exact text
    · rw [empty] at member
      contradiction

theorem StageRecord.Seeded.beside {after : StageRecord} (seeded : record.Seeded)
    (beside : Beside record after) : after.Seeded where
  offers := by
    rw [beside.gate, beside.runs]
    exact seeded.offers
  prompts := by
    rw [beside.runs]
    exact seeded.prompts
  texts := by
    rw [beside.runs]
    exact seeded.texts

end

namespace Workspace

variable {checks : Checks} {workspace : Workspace} {event : Event}

def Seeded (workspace : Workspace) : Prop := ∀ type, (workspace.record type).Seeded

theorem Seeded.step (seeded : workspace.Seeded) : (workspace.step checks event).Seeded := by
  rcases step_cases checks workspace event with refused | ⟨committed, _, commits, stepped⟩
  · rw [refused]
    exact seeded
  · intro type
    rw [stepped]
    by_cases own : type = event.type
    · subst own
      rw [commit_self]
      exact commits.seeded (seeded event.type)
    · exact (seeded type).beside (commit_beside own)

theorem fresh_seeded (inputs : WorkspaceInputs) (now : Int) : (fresh inputs now).Seeded := by
  intro type
  constructor <;> simp [fresh, QualityGate.offer]

end Workspace

end Thought2Build.Pipeline
