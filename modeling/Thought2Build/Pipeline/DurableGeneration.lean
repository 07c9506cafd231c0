import Mathlib.Data.List.GetD
import Thought2Build.Library.Rows
import Thought2Build.Pipeline.DurableGenerationCore

/-!
Interruption transparency: what a run delivers are the texts it has saved, whoever has produced them and
however often it was interrupted.
-/

namespace Thought2Build.Pipeline

open StageRecord GenerationRun

namespace GenerationRun

variable {operation : Operation} {run next : GenerationRun}

theorem savedText_congr (same : next.chunks = run.chunks) (key : String) :
    next.savedText key = run.savedText key := by
  rw [savedText, savedText, same]

theorem savedText_of_empty (empty : next.chunks = []) (key : String) : next.savedText key = none := by
  rw [savedText, empty]
  rfl

theorem Progress.savedText (progress : run.Progress operation next) (other : operation.savesChunk = false)
    {key text : String} (saved : next.savedText key = some text) : run.savedText key = some text := by
  rcases progress.saved other with same | ⟨_, empty⟩
  · rw [← savedText_congr same]
    exact saved
  · rw [savedText_of_empty empty] at saved
    contradiction

theorem Progress.bankedKeys (progress : run.Progress operation next) (other : operation.savesChunk = false) :
    next.bankedKeys = run.bankedKeys ∨ next.bankedKeys = [] := by
  rcases progress.saved other with same | ⟨_, empty⟩
  · simp [GenerationRun.bankedKeys, same]
  · simp [GenerationRun.bankedKeys, empty]

theorem Progress.eq_of_ended (progress : run.Progress operation next)
    (other : operation.savesChunk = false) (ended : run.status ≠ .running) : next = run := by
  obtain ⟨same, more⟩ := progress.ended ended
  have chunks : next.chunks = run.chunks := by
    rcases progress.saved other with same | ⟨_, empty⟩
    · exact same
    · rw [empty] at more
      rw [empty, List.prefix_nil.mp more]
  rw [← chunks] at same
  exact same

theorem Progress.chunkPlan (progress : run.Progress operation next) : next.chunkPlan = run.chunkPlan :=
  congrArg (·.2.2.2.1) progress.header

theorem Progress.resumeSource (progress : run.Progress operation next) :
    next.resumeSource = run.resumeSource :=
  congrArg (·.2.2.2.2.1) progress.header

theorem Progress.totalParts (progress : run.Progress operation next) : next.totalParts = run.totalParts :=
  congrArg (·.2.2.2.2.2) progress.header

end GenerationRun

theorem StageRecord.Moves.length {record after : StageRecord} {operation : Operation}
    (moves : Moves record operation after) (other : operation.begins = false) :
    after.runs.length = record.runs.length := by
  cases moves with
  | same runs => rw [runs]
  | started _ _ _ begins =>
      obtain ⟨_, rfl, _⟩ := begins
      contradiction
  | @moved id run next found progress runs =>
      have bound := (List.getElem?_eq_some_iff.mp found).1
      have upper : after.runs[record.runs.length]? = none := by
        rw [runs, if_neg (by omega), List.getElem?_eq_none_iff]
      have lower := runs after.runs.length
      rw [List.getElem?_eq_none_iff.mpr le_rfl] at lower
      split at lower
      · contradiction
      · have least := List.getElem?_eq_none_iff.mp lower.symm
        have most := List.getElem?_eq_none_iff.mp upper
        omega

/-! The rows of a stage and the payloads of its jobs -/

def Inherits (record : StageRecord) (payloads : List Payload) (id : Nat) (run : GenerationRun)
    (payload : Payload) : Prop :=
  (run.resumeSource = none ∧ payload = []) ∨
    ∃ position source former, run.resumeSource = some position ∧ position < id ∧
      record.runs[position]? = some source ∧ payloads[position]? = some former ∧
        source.status ≠ .running ∧ Fleet.Rebanked former source ∧
          ∀ key, payload.lookup key = source.savedText key

structure Rows (type : StageType) (plan : List String) (record : StageRecord) (payloads : List Payload) :
    Prop where
  lineage : record.Lineage type
  seeded : record.Seeded
  aligned : payloads.length = record.runs.length
  planned : ∀ (id : Nat) (run : GenerationRun), record.runs[id]? = some run →
    (run.chunkPlan = none ∨ run.chunkPlan = some plan) ∧ run.totalParts = plan.length
  keys : ∀ (id : Nat) (run : GenerationRun), record.runs[id]? = some run →
    run.bankedKeys.Nodup ∧ ∀ key ∈ run.bankedKeys, key ∈ plan
  counted : ∀ (id : Nat) (run : GenerationRun), record.runs[id]? = some run → run.status = .running →
    run.completedParts = run.chunks.length
  last : ∀ (id : Nat) (run : GenerationRun), record.runs[id]? = some run → run.status = .running →
    id + 1 = record.runs.length
  inherits : ∀ (id : Nat) (run : GenerationRun) (payload : Payload), record.runs[id]? = some run →
    payloads[id]? = some payload → Inherits record payloads id run payload
  agrees : ∀ (id : Nat) (run : GenerationRun) (payload : Payload), record.runs[id]? = some run →
    payloads[id]? = some payload → ∀ key text saved, payload.lookup key = some text →
      run.savedText key = some saved → saved = text
  offers : ∀ (source : Nat) (run : GenerationRun) (payload : Payload),
    record.stage.gate.offer = some source → record.runs[source]? = some run →
      payloads[source]? = some payload → Fleet.Rebanked payload run

section

variable {checks : Checks} {around : Surroundings} {now : Int} {record : StageRecord}
  {operation : Operation} {committed : Committed} {type : StageType} {plan : List String}
  {payloads : List Payload}

theorem Rows.moved (rows : Rows type plan record payloads)
    (commits : Commits checks around now record operation committed)
    (starts : operation.begins = false) (saves : operation.savesChunk = false)
    (rebanked : ∀ stopped ∈ operation.interruption?, ∀ run ∈ record.runs[stopped.1]?,
      ∀ payload ∈ payloads[stopped.1]?, run.status = .running → stopped.2.Saves run →
        run.chunks = [] ∨ Fleet.Rebanked payload run) :
    Rows type plan committed.record payloads := by
  have moves := commits.moves
  have length := moves.length starts
  have former {id : Nat} {next : GenerationRun} (later : committed.record.runs[id]? = some next) :
      ∃ run, record.runs[id]? = some run ∧ run.Progress operation next := by
    rcases moves.backward later with old | ⟨_, _, _, _, ⟨_, begun, _⟩, _⟩
    · exact old
    · rw [begun] at starts
      contradiction
  have seeded := commits.seeded rows.seeded
  refine ⟨commits.lineage rows.lineage, seeded, ?_, ?_, ?_, ?_, ?_, ?_, ?_, ?_⟩
  · rw [length]
    exact rows.aligned
  · intro id next later
    obtain ⟨run, found, progress⟩ := former later
    rw [progress.chunkPlan, progress.totalParts]
    exact rows.planned id run found
  · intro id next later
    obtain ⟨run, found, progress⟩ := former later
    rcases progress.bankedKeys saves with same | empty
    · rw [same]
      exact rows.keys id run found
    · simp [empty]
  · intro id next later running
    obtain ⟨run, found, progress⟩ := former later
    rw [progress.counted saves running, rows.counted id run found (progress.running running)]
    rcases progress.saved saves with same | ⟨ended, _⟩
    · rw [same]
    · exact absurd running ended
  · intro id next later running
    obtain ⟨run, found, progress⟩ := former later
    rw [length]
    exact rows.last id run found (progress.running running)
  · intro id next payload later job
    obtain ⟨run, found, progress⟩ := former later
    rcases rows.inherits id run payload found job with ⟨none, empty⟩ |
      ⟨position, source, earlier, resumes, before, held, inherited, ended, rest⟩
    · exact Or.inl ⟨progress.resumeSource.trans none, empty⟩
    · obtain ⟨source', kept, frozen⟩ := moves.forward held
      obtain rfl := frozen.eq_of_ended saves ended
      exact Or.inr ⟨position, source', earlier, progress.resumeSource.trans resumes, before, kept, inherited,
        ended, rest⟩
  · intro id next payload later job key text saved offered kept
    obtain ⟨run, found, progress⟩ := former later
    exact rows.agrees id run payload found job key text saved offered (progress.savedText saves kept)
  · intro source next payload offered later job
    rcases commits.offer offered with before |
      ⟨run, after, interruption, rfl, saved, found, running, kept, _, _, same, chunks⟩
    · obtain ⟨run, found, ended, _⟩ := rows.seeded.offers source before
      obtain ⟨after, kept, frozen⟩ := moves.forward found
      obtain rfl := frozen.eq_of_ended saves ended
      obtain rfl := Option.some.inj (kept.symm.trans later)
      exact rows.offers source after payload before found job
    · obtain rfl := Option.some.inj (kept.symm.trans later)
      rcases rebanked (source, interruption) rfl run found payload job running saved with empty | all
      · exact absurd empty chunks
      · intro entry member
        simpa [GenerationRun.bankedKeys, same] using all entry member

theorem lookup_seed (chunks : List Chunk) (texts : ∀ chunk ∈ chunks, strip chunk.content ≠ "") (key : String) :
    ((chunks.filter (strip ·.content ≠ "")).map fun chunk => (chunk.key, chunk.content)).lookup key =
      (chunks.find? (·.key = key)).map (·.content) := by
  have all : chunks.filter (strip ·.content ≠ "") = chunks := by
    rw [List.filter_eq_self]
    intro chunk member
    simpa using texts chunk member
  rw [all]
  clear all texts
  induction chunks with
  | nil => rfl
  | cons chunk rest ih =>
      by_cases own : chunk.key = key
      · simp [own]
      · have differs : (key == chunk.key) = false := by simpa using Ne.symm own
        simp [List.lookup_cons, differs, own, ih]

theorem Rows.payload (rows : Rows type plan record payloads) {id : Nat} {run : GenerationRun}
    (found : record.runs[id]? = some run) : ∃ payload, payloads[id]? = some payload := by
  have bound := (List.getElem?_eq_some_iff.mp found).1
  rw [← rows.aligned] at bound
  exact ⟨payloads[id], List.getElem?_eq_getElem bound⟩

theorem Inherits.append {after : StageRecord} {id : Nat} {run started : GenerationRun}
    {payload added : Payload} (inherits : Inherits record payloads id run payload)
    (runs : after.runs = record.runs ++ [started]) :
    Inherits after (payloads ++ [added]) id run payload := by
  rcases inherits with fresh | ⟨position, source, former, resumes, before, held, job, rest⟩
  · exact Or.inl fresh
  · refine Or.inr ⟨position, source, former, resumes, before, ?_, ?_, rest⟩
    · rw [runs, List.getElem?_append_left (List.getElem?_eq_some_iff.mp held).1]
      exact held
    · rw [List.getElem?_append_left (List.getElem?_eq_some_iff.mp job).1]
      exact job

theorem Commits.of_generate {request : StartRequest}
    (commits : Commits checks around now record (.generate request) committed) :
    ∃ source, record.resumeSource checks around request = .ok source ∧ ¬record.Active ∧
      committed = { record := record.started checks around now request source } := by
  cases commits with
  | generate found _ _ idle => exact ⟨_, found, idle, rfl⟩

theorem Rows.inherits_started {request : StartRequest} {source : Option (Nat × GenerationRun)}
    (rows : Rows type plan record payloads)
    (found : record.resumeSource checks around request = .ok source) :
    Inherits record payloads record.runs.length (record.createGenerationRun checks around now request source)
      (Fleet.jobPayload record request) := by
  by_cases resume : request.action = .resume
  · obtain ⟨position, seed, run, loaded, held, rfl⟩ := seed_of_resumeSource found resume
    obtain ⟨_, offered, other, also, _, texts⟩ := loadResumeSeed_eq_some.mp loaded
    obtain rfl : run = other := Option.some.inj (held.symm.trans also)
    obtain ⟨other, also, ended, _⟩ := rows.seeded.offers position offered
    obtain rfl : run = other := Option.some.inj (held.symm.trans also)
    obtain ⟨former, job⟩ := rows.payload held
    refine Or.inr ⟨position, run, former, rfl, (List.getElem?_eq_some_iff.mp held).1, held, job, ended,
      rows.offers position run former offered held job, ?_⟩
    intro key
    have payload : Fleet.jobPayload record request = seed := by simp [Fleet.jobPayload, resume, loaded]
    rw [payload, ← texts]
    exact lookup_seed run.chunks (rows.seeded.texts position run held) key
  · refine Or.inl ⟨?_, ?_⟩
    · have fresh : record.resumeSource checks around request = .ok none := by
        unfold StageRecord.resumeSource
        split
        · contradiction
        · rfl
      rw [fresh] at found
      obtain rfl := Except.ok.inj found
      rfl
    · unfold Fleet.jobPayload
      split
      · contradiction
      · rfl

theorem Rows.started {request : StartRequest} (rows : Rows type plan record payloads)
    (commits : Commits checks around now record (.generate request) committed)
    (waves : plan = (checks.chunkWaves type around.snapshot.inputs.mode).flatten) :
    Rows type plan committed.record (payloads ++ [Fleet.jobPayload record request]) := by
  have lineage := commits.lineage rows.lineage
  have seeded := commits.seeded rows.seeded
  obtain ⟨source, found, idle, rfl⟩ := commits.of_generate
  have runs : (record.started checks around now request source).runs =
      record.runs ++ [record.createGenerationRun checks around now request source] := rfl
  have plan_eq : (checks.chunkWaves record.stage.type around.snapshot.inputs.mode).flatten = plan := by
    rw [rows.lineage.sameType, waves]
  have earlier {id : Nat} {run : GenerationRun} {payload : Payload} (old : record.runs[id]? = some run)
      (job : (payloads ++ [Fleet.jobPayload record request])[id]? = some payload) :
      payloads[id]? = some payload := by
    have bound := (List.getElem?_eq_some_iff.mp old).1
    rw [List.getElem?_append_left (rows.aligned ▸ bound)] at job
    exact job
  refine ⟨lineage, seeded, ?_, ?_, ?_, ?_, ?_, ?_, ?_, ?_⟩
  · simp [runs, rows.aligned]
  · intro id run held
    rcases Rows.getElem?_concat held with old | ⟨_, rfl⟩
    · exact rows.planned id run old
    · simp only [createGenerationRun, plan_eq, and_true]
      split
      · exact Or.inl rfl
      · exact Or.inr rfl
  · intro id run held
    rcases Rows.getElem?_concat held with old | ⟨_, rfl⟩
    · exact rows.keys id run old
    · simp [createGenerationRun, GenerationRun.bankedKeys]
  · intro id run held running
    rcases Rows.getElem?_concat held with old | ⟨_, rfl⟩
    · exact rows.counted id run old running
    · rfl
  · intro id run held running
    rcases Rows.getElem?_concat held with old | ⟨last, rfl⟩
    · exact absurd ⟨run, List.mem_of_getElem? old, running⟩ idle
    · simp [runs, last]
  · intro id run payload held job
    rcases Rows.getElem?_concat held with old | ⟨last, rfl⟩
    · exact (rows.inherits id run payload old (earlier old job)).append runs
    · subst last
      rw [← rows.aligned, List.getElem?_concat_length] at job
      obtain rfl := Option.some.inj job
      exact (rows.inherits_started found).append runs
  · intro id run payload held job key text saved offered kept
    rcases Rows.getElem?_concat held with old | ⟨_, rfl⟩
    · exact rows.agrees id run payload old (earlier old job) key text saved offered kept
    · contradiction
  · intro position run payload offered held job
    obtain ⟨other, old, _⟩ := rows.seeded.offers position offered
    rcases Rows.getElem?_concat held with also | ⟨last, _⟩
    · exact rows.offers position run payload offered also (earlier also job)
    · have bound := (List.getElem?_eq_some_iff.mp old).1
      omega

theorem saving_chunks (run : GenerationRun) (chunk : Chunk) (now : Int) :
    (run.saving chunk now).chunks = (run.bank chunk).chunks := by
  unfold GenerationRun.saving
  dsimp only
  split <;> rfl

theorem saving_status (run : GenerationRun) (chunk : Chunk) (now : Int) :
    (run.saving chunk now).status = run.status := by
  unfold GenerationRun.saving
  dsimp only
  split <;> simp

theorem savedText_saving (run : GenerationRun) (chunk : Chunk) (now : Int) (key : String) :
    (run.saving chunk now).savedText key =
      (run.savedText key).or (if chunk.key = key then some chunk.content else none) := by
  rw [savedText_congr (saving_chunks run chunk now), savedText_bank]

theorem keys_saving {run : GenerationRun} {chunk : Chunk} (inPlan : chunk.key ∈ plan)
    (keys : run.bankedKeys.Nodup ∧ ∀ key ∈ run.bankedKeys, key ∈ plan) :
    (run.saving chunk now).bankedKeys.Nodup ∧ ∀ key ∈ (run.saving chunk now).bankedKeys, key ∈ plan := by
  have same : (run.saving chunk now).bankedKeys = (run.bank chunk).bankedKeys := by
    simp [GenerationRun.bankedKeys, saving_chunks]
  rw [same]
  by_cases banked : chunk.key ∈ run.bankedKeys
  · have kept : run.bank chunk = run := if_pos banked
    rw [kept]
    exact keys
  · have more : run.bank chunk = { run with chunks := run.chunks ++ [chunk] } := if_neg banked
    have added : (run.bank chunk).bankedKeys = run.bankedKeys ++ [chunk.key] := by
      simp [more, GenerationRun.bankedKeys]
    rw [added]
    refine ⟨List.nodup_append.mpr ⟨keys.1, List.nodup_singleton _, ?_⟩, ?_⟩
    · intro key member last final same
      exact banked (List.mem_singleton.mp final ▸ same ▸ member)
    · intro key member
      rcases List.mem_append.mp member with old | new
      · exact keys.2 key old
      · exact List.mem_singleton.mp new ▸ inPlan

theorem saving_chunkPlan (run : GenerationRun) (chunk : Chunk) (now : Int) :
    (run.saving chunk now).chunkPlan = run.chunkPlan := by
  unfold GenerationRun.saving GenerationRun.bank
  dsimp only
  split <;> split <;> rfl

theorem Commits.saves {id : Nat} {run : GenerationRun} {chunk : Chunk}
    (commits : Commits checks around now record (.checkpointChunk id chunk) committed)
    (found : record.runs[id]? = some run) : committed.record.runs[id]? = some (run.saving chunk now) := by
  cases commits with
  | checkpointChunk text =>
      have runs := getElem?_withRun (fun run => run.saving chunk now) found id
      rw [if_pos rfl] at runs
      exact runs

theorem Commits.gate_of_saves {id : Nat} {chunk : Chunk}
    (commits : Commits checks around now record (.checkpointChunk id chunk) committed) :
    committed.record.stage.gate = record.stage.gate := by
  cases commits with
  | checkpointChunk => rfl

theorem Rows.checkpointed (rows : Rows type plan record payloads) {id : Nat} {run : GenerationRun}
    {payload : Payload} {chunk : Chunk} (found : record.runs[id]? = some run)
    (job : payloads[id]? = some payload) (latest : id + 1 = record.runs.length) (inPlan : chunk.key ∈ plan)
    (agrees : ∀ text, payload.lookup chunk.key = some text → chunk.content = text)
    (commits : Commits checks around now record (.checkpointChunk id chunk) committed) :
    Rows type plan committed.record payloads := by
  have lineage := commits.lineage rows.lineage
  have seeded := commits.seeded rows.seeded
  have length := commits.moves.length rfl
  cases commits with
  | checkpointChunk text =>
      have runs : ∀ other, (record.checkpointed now id chunk).runs[other]? =
          if other = id then some (run.saving chunk now) else record.runs[other]? :=
        getElem?_withRun (fun run => run.saving chunk now) found
      have cases_of {other : Nat} {next : GenerationRun}
          (later : (record.checkpointed now id chunk).runs[other]? = some next) :
          (other = id ∧ next = run.saving chunk now) ∨ (other ≠ id ∧ record.runs[other]? = some next) := by
        rw [runs] at later
        split at later
        · rename_i own
          exact Or.inl ⟨own, (Option.some.inj later).symm⟩
        · rename_i different
          exact Or.inr ⟨different, later⟩
      have progress : run.Progress (.checkpointChunk id chunk) (run.saving chunk now) :=
        progress_saving run text
      refine ⟨lineage, seeded, ?_, ?_, ?_, ?_, ?_, ?_, ?_, ?_⟩
      · rw [length]
        exact rows.aligned
      · intro other next later
        rcases cases_of later with ⟨rfl, rfl⟩ | ⟨_, old⟩
        · rw [progress.chunkPlan, progress.totalParts]
          exact rows.planned other run found
        · exact rows.planned other next old
      · intro other next later
        rcases cases_of later with ⟨rfl, rfl⟩ | ⟨_, old⟩
        · exact keys_saving inPlan (rows.keys other run found)
        · exact rows.keys other next old
      · intro other next later running
        rcases cases_of later with ⟨rfl, rfl⟩ | ⟨_, old⟩
        · simp [GenerationRun.saving, progress.running running]
        · exact rows.counted other next old running
      · intro other next later running
        rw [length]
        rcases cases_of later with ⟨rfl, rfl⟩ | ⟨_, old⟩
        · exact latest
        · exact rows.last other next old running
      · intro other next carried later also
        have inherits : Inherits record payloads other next carried := by
          rcases cases_of later with ⟨rfl, rfl⟩ | ⟨_, old⟩
          · rw [Inherits, progress.resumeSource]
            exact rows.inherits other run carried found also
          · exact rows.inherits other next carried old also
        rcases inherits with fresh | ⟨position, source, former, resumes, before, held, rest⟩
        · exact Or.inl fresh
        · have bound := (List.getElem?_eq_some_iff.mp later).1
          refine Or.inr ⟨position, source, former, resumes, before, ?_, rest⟩
          rw [runs, if_neg (by omega)]
          exact held
      · intro other next carried later also key text saved offered kept
        rcases cases_of later with ⟨rfl, rfl⟩ | ⟨_, old⟩
        · obtain rfl := Option.some.inj (job.symm.trans also)
          rw [savedText_saving, Option.or_eq_some_iff] at kept
          rcases kept with before | ⟨_, new⟩
          · exact rows.agrees other run payload found job key text saved offered before
          · split at new
            · rename_i own
              exact (Option.some.inj new).symm.trans (agrees text (own ▸ offered))
            · exact nomatch new
        · exact rows.agrees other next carried old also key text saved offered kept
      · intro source next carried offered later also
        rcases cases_of later with ⟨rfl, rfl⟩ | ⟨_, old⟩
        · intro entry member
          have banked := savedText_isSome.mpr (rows.offers source run carried offered found also entry member)
          refine savedText_isSome.mp ?_
          rw [savedText_saving]
          simp [banked]
        · exact rows.offers source next carried offered old also

theorem Rows.beside {after : StageRecord} (rows : Rows type plan record payloads)
    (beside : Beside record after) : Rows type plan after payloads := by
  have runs := beside.runs
  refine ⟨rows.lineage.beside beside, rows.seeded.beside beside, ?_, ?_, ?_, ?_, ?_, ?_, ?_, ?_⟩
  · rw [runs]
    exact rows.aligned
  · rw [runs]
    exact rows.planned
  · rw [runs]
    exact rows.keys
  · rw [runs]
    exact rows.counted
  · rw [runs]
    exact rows.last
  · unfold Inherits
    rw [runs]
    exact rows.inherits
  · rw [runs]
    exact rows.agrees
  · rw [runs, beside.gate]
    exact rows.offers

end

theorem lookup_filter_ne {α β : Type} [DecidableEq α] (entries : List (α × β)) (key other : α) :
    (entries.filter (·.1 ≠ key)).lookup other = if other = key then none else entries.lookup other := by
  induction entries with
  | nil => simp
  | cons entry rest ih =>
      obtain ⟨name, value⟩ := entry
      rw [List.filter_cons]
      by_cases dropped : name = key
      · subst dropped
        rw [if_neg (by simp), ih]
        by_cases same : other = name
        · rw [if_pos same, if_pos same]
        · have differs : (other == name) = false := by simpa using same
          rw [if_neg same, if_neg same, List.lookup_cons, differs]
      · rw [if_pos (by simpa using dropped), List.lookup_cons, List.lookup_cons, ih]
        by_cases same : other = name
        · subst same
          simp [dropped]
        · have differs : (other == name) = false := by simpa using same
          rw [differs]

theorem lookup_filterMap {α β : Type} [DecidableEq α] (keys : List α) (text : α → Option β) (key : α) :
    (keys.filterMap fun key => (text key).map fun value => (key, value)).lookup key =
      if key ∈ keys then text key else none := by
  induction keys with
  | nil => simp
  | cons first rest ih =>
      by_cases same : key = first
      · subst same
        cases known : text key with
        | none => simp [known, ih]
        | some value => simp [known]
      · have differs : (key == first) = false := by simpa using same
        cases known : text first with
        | none => simp [known, ih, same]
        | some value => simp [known, List.lookup_cons, differs, ih, same]

/-- A worker knows every text that its run has saved and every text that its job has brought along, and
while the run is running, or offered to a resume, it knows nothing else. -/
structure Memory (waves : List (List String)) (offered : Prop) (run : GenerationRun) (payload : Payload)
    (worker : Worker) : Prop where
  planned : ∀ key text, worker.completed key = some text → key ∈ waves.flatten
  remembers : ∀ key text, run.savedText key = some text → worker.completed key = some text
  seeded : ∀ key text, key ∈ waves.flatten → payload.lookup key = some text →
    worker.completed key = some text
  saved : run.status = .running ∨ offered → ∀ key text, worker.completed key = some text →
    run.savedText key = some text ∨ worker.unbanked.lookup key = some text
  unbanked : ∀ key text, worker.unbanked.lookup key = some text → worker.completed key = some text
  asked : ∀ key ∈ worker.asked, key ∈ waves.flatten ∧ worker.completed key = none
  progress : ∀ key ∈ (waves.take worker.wave).flatten, ∃ text, worker.completed key = some text

section

variable {waves : List (List String)} {offered : Prop} {run next : GenerationRun} {payload : Payload}
  {worker : Worker} {operation : Operation} {now : Int}

theorem Memory.moved {offers : Prop} (memory : Memory waves offered run payload worker)
    (progress : run.Progress operation next) (saves : operation.savesChunk = false)
    (keeps : next.status = .running ∨ offers →
      (run.status = .running ∨ offered) ∧ next.chunks = run.chunks) :
    Memory waves offers next payload worker where
  planned := memory.planned
  remembers key text saved := memory.remembers key text (progress.savedText saves saved)
  seeded := memory.seeded
  saved := by
    intro open_ key text known
    obtain ⟨before, same⟩ := keeps open_
    rw [savedText_congr same]
    exact memory.saved before key text known
  unbanked := memory.unbanked
  asked := memory.asked
  progress := memory.progress

theorem Memory.bank (memory : Memory waves offered run payload worker) {chunk : Chunk}
    (seeded : worker.unbanked.lookup chunk.key = some chunk.content) :
    Memory waves offered (run.saving chunk now) payload
      { worker with unbanked := worker.unbanked.filter (·.1 ≠ chunk.key) } where
  planned := memory.planned
  remembers := by
    intro key text saved
    rw [savedText_saving, Option.or_eq_some_iff] at saved
    rcases saved with before | ⟨_, new⟩
    · exact memory.remembers key text before
    · split at new
      · rename_i own
        subst own
        exact memory.unbanked chunk.key text (seeded.trans new)
      · contradiction
  seeded := memory.seeded
  saved := by
    intro open_ key text known
    rw [savedText_saving, lookup_filter_ne]
    by_cases own : key = chunk.key
    · subst own
      have same := memory.unbanked chunk.key chunk.content seeded
      rw [known] at same
      cases before : run.savedText chunk.key with
      | none => simp [same]
      | some held =>
          have also := memory.remembers chunk.key held before
          exact Or.inl (also.symm.trans known)
    · rw [saving_status] at open_
      rcases memory.saved open_ key text known with before | left
      · exact Or.inl (by simp [before])
      · exact Or.inr (by simp [own, left])
  unbanked := by
    intro key text left
    rw [lookup_filter_ne] at left
    split at left
    · contradiction
    · exact memory.unbanked key text left
  asked := memory.asked
  progress := memory.progress

theorem Memory.answer (memory : Memory waves offered run payload worker) {chunk : Chunk}
    (asked : chunk.key ∈ worker.asked) :
    Memory waves offered (run.saving chunk now) payload
      { worker with
        completed := Function.update worker.completed chunk.key (some chunk.content)
        asked := worker.asked.filter (· ≠ chunk.key) } := by
  obtain ⟨inPlan, unknown⟩ := memory.asked chunk.key asked
  have known_ne {key text : String} (known : worker.completed key = some text) : key ≠ chunk.key := by
    rintro rfl
    rw [unknown] at known
    contradiction
  have unsaved : run.savedText chunk.key = none := by
    rw [Option.eq_none_iff_forall_ne_some]
    intro text saved
    exact known_ne (memory.remembers chunk.key text saved) rfl
  constructor
  · intro key text known
    by_cases own : key = chunk.key
    · exact own ▸ inPlan
    · exact memory.planned key text (by simpa [own] using known)
  · intro key text saved
    rw [savedText_saving, Option.or_eq_some_iff] at saved
    rcases saved with before | ⟨_, new⟩
    · have known := memory.remembers key text before
      simpa [known_ne known] using known
    · split at new
      · rename_i own
        subst own
        simpa using new
      · contradiction
  · intro key text planned brought
    have known := memory.seeded key text planned brought
    simpa [known_ne known] using known
  · intro open_ key text known
    rw [savedText_saving]
    by_cases own : key = chunk.key
    · subst own
      left
      simpa [unsaved] using known
    · rw [saving_status] at open_
      have before : worker.completed key = some text := by simpa [own] using known
      rcases memory.saved open_ key text before with saved | left
      · exact Or.inl (by simp [saved])
      · exact Or.inr left
  · intro key text left
    have known := memory.unbanked key text left
    simpa [known_ne known] using known
  · intro key member
    obtain ⟨kept, differs⟩ := List.mem_filter.mp member
    obtain ⟨planned, open_⟩ := memory.asked key kept
    have other : key ≠ chunk.key := by simpa using differs
    exact ⟨planned, by simpa [other] using open_⟩
  · intro key earlier
    obtain ⟨text, known⟩ := memory.progress key earlier
    exact ⟨text, by simpa [known_ne known] using known⟩

theorem Memory.ask (memory : Memory waves offered run payload worker) {key : String}
    (inWave : key ∈ waves.getD worker.wave []) (unknown : worker.completed key = none) :
    Memory waves offered run payload { worker with asked := worker.asked ++ [key] } := by
  refine { memory with asked := ?_ }
  intro other member
  rcases List.mem_append.mp member with old | new
  · exact memory.asked other old
  · rw [List.mem_singleton.mp new]
    refine ⟨?_, unknown⟩
    by_cases bound : worker.wave < waves.length
    · rw [List.getD_eq_getElem _ _ bound] at inWave
      exact List.mem_flatten.mpr ⟨_, List.getElem_mem bound, inWave⟩
    · rw [List.getD_eq_default _ _ (by omega)] at inWave
      contradiction

theorem Memory.advance (memory : Memory waves offered run payload worker) (bound : worker.wave < waves.length)
    (complete : ∀ key ∈ waves.getD worker.wave [], worker.completed key ≠ none) :
    Memory waves offered run payload { worker with wave := worker.wave + 1, asked := [] } := by
  refine { memory with asked := by simp, progress := ?_ }
  intro key earlier
  rw [List.take_succ_eq_append_getElem bound, List.flatten_append, List.mem_append] at earlier
  rcases earlier with old | new
  · exact memory.progress key old
  · have inWave : key ∈ waves.getD worker.wave [] := by
      rw [List.getD_eq_getElem _ _ bound]
      simpa using new
    exact Option.ne_none_iff_exists'.mp (complete key inWave)

end

section

variable {type : StageType} {waves : List (List String)} {record : StageRecord} {payloads : List Payload}
  {worker : Worker}

def Tied (waves : List (List String)) (record : StageRecord) (payloads : List Payload) (worker : Worker) :
    Prop :=
  ∃ run payload, record.runs[worker.runId]? = some run ∧ payloads[worker.runId]? = some payload ∧
    worker.runId + 1 = record.runs.length ∧ run.chunkPlan = some waves.flatten ∧
      Memory waves (record.stage.gate.offer = some worker.runId) run payload worker

theorem Rows.payload_texts {plan : List String} (rows : Rows type plan record payloads) {id : Nat}
    {run : GenerationRun} {payload : Payload} (found : record.runs[id]? = some run)
    (job : payloads[id]? = some payload) {key text : String} (brought : payload.lookup key = some text) :
    strip text ≠ "" ∧ key ∈ plan := by
  rcases rows.inherits id run payload found job with ⟨_, rfl⟩ |
    ⟨position, source, _, _, _, held, _, _, _, same⟩
  · contradiction
  · rw [same] at brought
    refine ⟨?_, (rows.keys position source held).2 key (savedText_isSome.mp (by simp [brought]))⟩
    obtain ⟨chunk, member, rfl⟩ := Option.map_eq_some_iff.mp brought
    exact rows.seeded.texts position source held chunk (List.mem_of_find?_eq_some member)

theorem Rows.saved_text {plan : List String} (rows : Rows type plan record payloads) {id : Nat}
    {run : GenerationRun} (found : record.runs[id]? = some run) {key text : String}
    (saved : run.savedText key = some text) : strip text ≠ "" ∧ key ∈ plan := by
  refine ⟨?_, (rows.keys id run found).2 key (savedText_isSome.mp (by simp [saved]))⟩
  obtain ⟨chunk, member, rfl⟩ := Option.map_eq_some_iff.mp saved
  exact rows.seeded.texts id run found chunk (List.mem_of_find?_eq_some member)

theorem Rows.memory (rows : Rows type waves.flatten record payloads) {id : Nat} {run : GenerationRun}
    {payload : Payload} (found : record.runs[id]? = some run) (job : payloads[id]? = some payload)
    (type : StageType) (offered : Prop) :
    let completed := Fleet.seeds waves.flatten payload run
    Memory waves offered run payload {
      type, runId := id, completed
      unbanked := waves.flatten.filterMap fun key => (completed key).map fun text => (key, text) } := by
  intro completed
  have listed (key : String) : (waves.flatten.filterMap fun key =>
      (completed key).map fun text => (key, text)).lookup key = completed key := by
    rw [lookup_filterMap]
    split
    · rfl
    · rename_i unplanned
      simp [completed, Fleet.seeds, unplanned]
  have saved {key text : String} (saved : run.savedText key = some text) : completed key = some text := by
    obtain ⟨nonblank, planned⟩ := rows.saved_text found saved
    simp [completed, Fleet.seeds, planned, loadCheckpointMap, saved, nonblank]
  constructor
  · intro key text known
    by_contra unplanned
    simp [completed, Fleet.seeds, unplanned] at known
  · intro key text held
    exact saved held
  · intro key text planned brought
    cases held : run.savedText key with
    | some other =>
        have same := rows.agrees id run payload found job key text other brought held
        exact (saved held).trans (congrArg some same)
    | none =>
        have nonblank := (rows.payload_texts found job brought).1
        simp [completed, Fleet.seeds, planned, loadCheckpointMap, held, brought, nonblank]
  · intro _ key text known
    exact Or.inr ((listed key).trans known)
  · intro key text left
    exact (listed key).symm.trans left
  · simp
  · simp

theorem Tied.beside {after : StageRecord} (tied : Tied waves record payloads worker)
    (beside : Beside record after) : Tied waves after payloads worker := by
  unfold Tied
  rw [beside.runs, beside.gate]
  exact tied

theorem Tied.moved {checks : Checks} {around : Surroundings} {now : Int} {operation : Operation}
    {committed : Committed} (seeded : record.Seeded) (tied : Tied waves record payloads worker)
    (commits : Commits checks around now record operation committed)
    (starts : operation.begins = false) (saves : operation.savesChunk = false) :
    Tied waves committed.record payloads worker := by
  obtain ⟨run, payload, found, job, last, plan, memory⟩ := tied
  obtain ⟨next, later, progress⟩ := commits.moves.forward found
  refine ⟨next, payload, later, job, ?_, progress.chunkPlan.trans plan, memory.moved progress saves ?_⟩
  · rw [commits.moves.length starts]
    exact last
  · rintro (running | offered)
    · refine ⟨Or.inl (progress.running running), ?_⟩
      exact (progress.saved saves).resolve_right fun stopped => stopped.1 running
    · rcases commits.offer offered with before | ⟨former, after, _, _, _, was, ran, kept, _, _, same, _⟩
      · obtain ⟨former, was, ended, _⟩ := seeded.offers worker.runId before
        obtain rfl := Option.some.inj (was.symm.trans found)
        exact ⟨Or.inr before, by rw [progress.eq_of_ended saves ended]⟩
      · obtain rfl := Option.some.inj (was.symm.trans found)
        obtain rfl := Option.some.inj (kept.symm.trans later)
        exact ⟨Or.inl ran, same⟩

end

namespace Fleet

variable {checks : Checks} {rewrites : StageType → String → String → String} {fleet : Fleet}
  {event : Event} {type : StageType} {position : Nat} {worker next : Worker}

/-- What sequential acts keep: the rows of every stage, and at most one worker for each, with a memory
that agrees with them. -/
structure Sound (checks : Checks) (fleet : Fleet) : Prop where
  rows : ∀ type, Rows type (fleet.waves checks type).flatten (fleet.workspace.record type)
    (fleet.payloads type)
  tied : ∀ worker ∈ fleet.workers, worker.alive = true → Tied (fleet.waves checks worker.type)
    (fleet.workspace.record worker.type) (fleet.payloads worker.type) worker
  single : ∀ (first second : Nat) (worker other : Worker), fleet.workers[first]? = some worker →
    fleet.workers[second]? = some other → worker.alive = true → other.alive = true →
      worker.type = other.type → first = second

theorem fresh_sound (inputs : WorkspaceInputs) (now : Int) : (fresh inputs now).Sound checks where
  rows type := by
    have lineage := (Workspace.fresh_tracked inputs now).lineage type
    have seeded := Workspace.fresh_seeded inputs now type
    constructor
    · exact lineage
    · exact seeded
    all_goals simp [fresh, Workspace.fresh, QualityGate.offer]
  tied := by simp [fresh]
  single := by simp [fresh]

theorem mem_setWorker {other : Worker} (member : other ∈ (fleet.setWorker position next).workers) :
    other = next ∨ other ∈ fleet.workers := by
  exact (List.mem_or_eq_of_mem_set member).symm

theorem getElem?_setWorker {place : Nat} {other : Worker}
    (found : (fleet.setWorker position next).workers[place]? = some other) :
    (place = position ∧ other = next) ∨ (place ≠ position ∧ fleet.workers[place]? = some other) := by
  simp only [setWorker, List.getElem?_set] at found
  split at found
  · rename_i own
    split at found
    · exact Or.inl ⟨own.symm, (Option.some.inj found).symm⟩
    · contradiction
  · rename_i different
    exact Or.inr ⟨Ne.symm different, found⟩

theorem Sound.setWorker (sound : fleet.Sound checks) (found : fleet.workers[position]? = some worker)
    (type : next.type = worker.type) (alive : next.alive = true → worker.alive = true)
    (tied : next.alive = true → Tied (fleet.waves checks next.type) (fleet.workspace.record next.type)
      (fleet.payloads next.type) next) : (fleet.setWorker position next).Sound checks where
  rows := sound.rows
  tied := by
    intro other member living
    rcases mem_setWorker member with rfl | old
    · exact tied living
    · exact sound.tied other old living
  single := by
    intro first second one other held also living lively same
    rcases getElem?_setWorker held with ⟨rfl, rfl⟩ | ⟨_, before⟩
    · rcases getElem?_setWorker also with ⟨rfl, rfl⟩ | ⟨_, before'⟩
      · rfl
      · exact sound.single _ _ worker other found before' (alive living) lively (type.symm.trans same)
    · rcases getElem?_setWorker also with ⟨rfl, rfl⟩ | ⟨_, before'⟩
      · exact sound.single _ _ one worker before found living (alive lively) (same.trans type)
      · exact sound.single _ _ one other before before' living lively same

theorem Sound.commit (sound : fleet.Sound checks) {committed : Committed} (now : Int)
    {workers : List Worker} {jobs : List Payload}
    (rows : Rows type (fleet.waves checks type).flatten committed.record jobs)
    (places : ∀ (place : Nat) (later : Worker), workers[place]? = some later → later.alive = true →
      ∃ former, fleet.workers[place]? = some former ∧ former.alive = true ∧ later.type = former.type ∧
        (later.type ≠ type → later = former))
    (tied : ∀ later ∈ workers, later.alive = true → later.type = type →
      Tied (fleet.waves checks type) committed.record jobs later) :
    Sound checks {
      workspace := fleet.workspace.commit type committed now
      payloads := Function.update fleet.payloads type jobs
      workers } where
  rows := by
    intro other
    dsimp only
    by_cases own : other = type
    · subst own
      rw [Workspace.commit_self, Function.update_self]
      exact rows
    · rw [Function.update_of_ne own]
      exact (sound.rows other).beside (Workspace.commit_beside own)
  tied := by
    intro later member alive
    dsimp only
    by_cases own : later.type = type
    · have holds := tied later member alive own
      subst own
      rw [Workspace.commit_self, Function.update_self]
      exact holds
    · obtain ⟨place, found⟩ := List.getElem?_of_mem member
      obtain ⟨former, held, living, _, same⟩ := places place later found alive
      obtain rfl := same own
      rw [Function.update_of_ne own]
      exact (sound.tied later (List.mem_of_getElem? held) living).beside (Workspace.commit_beside own)
  single := by
    intro first second one other held also living lively same
    obtain ⟨former, was, lived, type_eq, _⟩ := places first one held living
    obtain ⟨before, came, lasted, type_eq', _⟩ := places second other also lively
    exact sound.single first second former before was came lived lasted
      (type_eq.symm.trans (same.trans type_eq'))

theorem savesChunk_of_byWorker {operation : Operation} (other : operation.byWorker = false) :
    operation.savesChunk = false := by
  cases operation <;> first | rfl | contradiction

theorem transact_of_ok {committed : Committed} (done : fleet.workspace.transact checks event = .ok committed)
    (starts : event.operation.begins = false) : fleet.transact checks event = {
      fleet with
      workspace := fleet.workspace.commit event.type committed event.now
      payloads := Function.update fleet.payloads event.type (fleet.payloads event.type) } := by
  rw [Function.update_eq_self]
  unfold transact
  rw [done]
  obtain ⟨type, operation, now⟩ := event
  cases operation <;> first | rfl | contradiction

theorem Sound.transact (sound : fleet.Sound checks) (other : event.operation.byWorker = false)
    (sequential : fleet.Sequential checks (.transact event)) : (fleet.transact checks event).Sound checks := by
  obtain ⟨unattended, rebanked⟩ := sequential
  cases done : fleet.workspace.transact checks event with
  | error _ =>
      unfold Fleet.transact
      rw [done]
      exact sound
  | ok committed =>
      have commits := Operation.commits done
      have places (place : Nat) (later : Worker) (found : fleet.workers[place]? = some later)
          (alive : later.alive = true) : ∃ former, fleet.workers[place]? = some former ∧
            former.alive = true ∧ later.type = former.type ∧ (later.type ≠ event.type → later = former) :=
        ⟨later, found, alive, rfl, fun _ => rfl⟩
      cases starts : event.operation.begins with
      | true =>
          obtain ⟨request, begun⟩ : ∃ request, event.operation = .generate request := by
            revert starts
            cases event.operation <;> simp [Operation.begins]
          have idle := unattended starts (by rw [done]; rfl)
          unfold Fleet.transact
          rw [done]
          rw [begun] at commits
          simp only [begun]
          refine sound.commit event.now ((sound.rows event.type).started commits rfl) places ?_
          intro later member alive own
          exact absurd own (idle later member alive)
      | false =>
          have saves := savesChunk_of_byWorker other
          rw [transact_of_ok done starts]
          refine sound.commit event.now ((sound.rows event.type).moved commits starts saves rebanked) places ?_
          intro later member alive own
          have tied := sound.tied later member alive
          rw [own] at tied
          exact tied.moved (sound.rows event.type).seeded commits starts saves

theorem Sound.alone (sound : fleet.Sound checks) (found : fleet.workers[position]? = some worker)
    (alive : worker.alive = true) {later : Worker}
    (member : later ∈ (fleet.setWorker position next).workers) (living : later.alive = true)
    (same : later.type = worker.type) : later = next := by
  obtain ⟨place, held⟩ := List.getElem?_of_mem member
  rcases getElem?_setWorker held with ⟨_, own⟩ | ⟨elsewhere, before⟩
  · exact own
  · exact absurd (sound.single place position later worker before found living alive same) elsewhere

theorem Sound.commit_own (sound : fleet.Sound checks) (found : fleet.workers[position]? = some worker)
    (alive : worker.alive = true) (type : next.type = worker.type) {committed : Committed} {now : Int}
    (rows : Rows worker.type (fleet.waves checks worker.type).flatten committed.record
      (fleet.payloads worker.type))
    (tied : next.alive = true → Tied (fleet.waves checks worker.type) committed.record
      (fleet.payloads worker.type) next) :
    Sound checks {
      fleet.setWorker position next with
      workspace := fleet.workspace.commit worker.type committed now } := by
  have places (place : Nat) (later : Worker)
      (held : (fleet.setWorker position next).workers[place]? = some later) (living : later.alive = true) :
      ∃ former, fleet.workers[place]? = some former ∧ former.alive = true ∧ later.type = former.type ∧
        (later.type ≠ worker.type → later = former) := by
    rcases getElem?_setWorker held with ⟨rfl, rfl⟩ | ⟨_, before⟩
    · exact ⟨worker, found, alive, type, fun other => absurd type other⟩
    · exact ⟨later, before, living, rfl, fun _ => rfl⟩
  have committed := sound.commit now rows places (by
    intro later member living same
    obtain rfl := sound.alone found alive member living same
    exact tied living)
  rw [Function.update_eq_self] at committed
  exact committed

theorem Sound.checkpoint (sound : fleet.Sound checks) (found : fleet.workers[position]? = some worker)
    (alive : worker.alive = true) (same : next.type = worker.type ∧ next.runId = worker.runId)
    {key text : String} {now : Int}
    (inPlan : ∀ offered run payload, Memory (fleet.waves checks worker.type) offered run payload worker →
      key ∈ (fleet.waves checks worker.type).flatten)
    (agrees : ∀ offered run payload, Memory (fleet.waves checks worker.type) offered run payload worker →
      ∀ brought, payload.lookup key = some brought → text = brought)
    (memory : ∀ offered run payload chunk, chunk.key = key → chunk.content = text →
      Memory (fleet.waves checks worker.type) offered run payload worker →
        Memory (fleet.waves checks worker.type) offered (run.saving chunk now) payload next) :
    (fleet.checkpoint checks position worker next key text now).Sound checks := by
  unfold Fleet.checkpoint
  dsimp only
  split
  · exact sound.setWorker found rfl (fun _ => alive) Bool.noConfusion
  · rename_i committed done
    have commits := Operation.commits done
    obtain ⟨run, payload, held, job, last, plan, remembered⟩ :=
      sound.tied worker (List.mem_of_getElem? found) alive
    refine sound.commit_own found alive same.1 ?_ ?_
    · exact (sound.rows worker.type).checkpointed held job last (inPlan _ run payload remembered)
        (agrees _ run payload remembered) commits
    · intro _
      have length := commits.moves.length rfl
      have later := commits.saves held
      refine ⟨_, payload, same.2 ▸ later, same.2 ▸ job, ?_, ?_, ?_⟩
      · rw [length, same.2]
        exact last
      · rw [saving_chunkPlan]
        exact plan
      · rw [commits.gate_of_saves, same.2]
        exact memory _ run payload _ rfl rfl remembered

theorem Sound.save (sound : fleet.Sound checks) (found : fleet.workers[position]? = some worker)
    (alive : worker.alive = true) {advisories : List Finding} {now : Int} :
    (fleet.saveArtifact checks rewrites position worker advisories now).Sound checks := by
  unfold saveArtifact
  dsimp only
  rcases Workspace.step_cases checks fleet.workspace _ with refused | ⟨committed, _, commits, stepped⟩
  · rw [refused]
    exact sound.setWorker found rfl (fun _ => alive) Bool.noConfusion
  · rw [stepped]
    apply sound.commit_own found alive
    · rfl
    · exact (sound.rows worker.type).moved commits rfl rfl (by simp [Operation.interruption?])
    · exact Bool.noConfusion

theorem Sound.work (sound : fleet.Sound checks) (found : fleet.workers[position]? = some worker)
    (alive : worker.alive = true) (move : Move) (now : Int) :
    (fleet.work checks rewrites position worker now move).Sound checks := by
  have tied := sound.tied worker (List.mem_of_getElem? found) alive
  cases move with
  | bank key =>
      unfold Fleet.work
      dsimp only
      split
      · exact sound
      · rename_i text seeded
        apply sound.checkpoint found alive
        · exact ⟨rfl, rfl⟩
        · intro _ run payload memory
          exact memory.planned key text (memory.unbanked key text seeded)
        · intro _ run payload memory brought carried
          have known := memory.unbanked key text seeded
          have also := memory.seeded key brought (memory.planned key text known) carried
          exact Option.some.inj (known.symm.trans also)
        · rintro _ run payload chunk rfl rfl memory
          exact memory.bank seeded
  | ask key =>
      unfold Fleet.work
      dsimp only
      split
      · rename_i asks
        obtain ⟨run, payload, held, job, last, plan, memory⟩ := tied
        refine sound.setWorker found rfl (fun _ => alive) ?_
        intro _
        exact ⟨run, payload, held, job, last, plan, memory.ask asks.2.2.1 asks.2.2.2⟩
      · exact sound
  | answer key text =>
      unfold Fleet.work
      dsimp only
      split
      · rename_i asked
        apply sound.checkpoint found alive
        · exact ⟨rfl, rfl⟩
        · intro _ run payload memory
          exact (memory.asked key asked).1
        · intro _ run payload memory brought carried
          obtain ⟨planned, unknown⟩ := memory.asked key asked
          exact (Option.some_ne_none _ ((memory.seeded key brought planned carried).symm.trans unknown)).elim
        · rintro _ run payload chunk rfl rfl memory
          exact memory.answer asked
      · exact sound
  | advance =>
      unfold Fleet.work
      dsimp only
      split
      · rename_i complete
        obtain ⟨run, payload, held, job, last, plan, memory⟩ := tied
        refine sound.setWorker found rfl (fun _ => alive) ?_
        intro _
        exact ⟨run, payload, held, job, last, plan, memory.advance complete.2.1 complete.2.2⟩
      · exact sound
  | save advisories =>
      unfold Fleet.work
      dsimp only
      split
      · exact sound.save found alive
      · exact sound
  | stop => exact sound.setWorker found rfl (fun _ => alive) Bool.noConfusion

theorem Sound.deliver (sound : fleet.Sound checks) {id : Nat}
    (sequential : fleet.Sequential checks (.deliver type id)) : (fleet.deliver checks type id).Sound checks := by
  unfold Fleet.deliver
  split
  · rename_i run payload held job
    split
    · rename_i takes
      obtain ⟨running, planned⟩ := takes
      have idle := sequential run held running
      have rows := sound.rows type
      refine { sound with tied := ?_, single := ?_ }
      · intro worker member alive
        rcases List.mem_append.mp member with old | new
        · exact sound.tied worker old alive
        · obtain rfl := List.mem_singleton.mp new
          exact ⟨run, payload, held, job, rows.last id run held running,
            (rows.planned id run held).1.resolve_left planned, rows.memory held job type _⟩
      · intro first second one other found also living lively same
        rcases Rows.getElem?_concat found with before | ⟨last, rfl⟩
        · rcases Rows.getElem?_concat also with before' | ⟨_, rfl⟩
          · exact sound.single first second one other before before' living lively same
          · exact absurd same (idle one (List.mem_of_getElem? before) living)
        · rcases Rows.getElem?_concat also with before' | ⟨last', _⟩
          · exact absurd same.symm (idle other (List.mem_of_getElem? before') lively)
          · exact last.trans last'.symm
    · exact sound
  · exact sound

theorem Sound.step (sound : fleet.Sound checks) {act : Act} (sequential : fleet.Sequential checks act) :
    (fleet.step checks rewrites act).Sound checks := by
  cases act with
  | transact event =>
      unfold Fleet.step
      dsimp only
      split
      · exact sound
      · rename_i other
        exact sound.transact (Bool.eq_false_iff.mpr other) sequential
  | deliver type id => exact sound.deliver sequential
  | work position move now =>
      unfold Fleet.step
      dsimp only
      split
      · exact sound
      · rename_i worker found
        split
        · rename_i alive
          exact sound.work found alive move now
        · exact sound

end Fleet

end Thought2Build.Pipeline
