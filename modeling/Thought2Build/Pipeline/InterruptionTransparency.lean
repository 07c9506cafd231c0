import Thought2Build.Pipeline.DurableGeneration

/-!
What sequential workers deliver: the texts that the run and the runs before it have saved, each
generated once.
-/

namespace Thought2Build.Pipeline

open StageRecord GenerationRun

inductive Resumes (record : StageRecord) : Nat → Nat → Prop where
  | self (id : Nat) : Resumes record id id
  | back {id source root : Nat} {run : GenerationRun} (found : record.runs[id]? = some run)
      (resumes : run.resumeSource = some source) (rest : Resumes record source root) : Resumes record id root

section

variable {type : StageType} {plan : List String} {record : StageRecord} {payloads : List Payload}

theorem Rows.resumes (rows : Rows type plan record payloads) {id root : Nat} (resumes : Resumes record id root)
    {former run : GenerationRun} {payload : Payload} (origin : record.runs[root]? = some former)
    (found : record.runs[id]? = some run) (job : payloads[id]? = some payload) {key text : String}
    (saved : former.savedText key = some text) :
    run.savedText key = some text ∨ payload.lookup key = some text := by
  induction resumes generalizing run payload with
  | self id =>
      obtain rfl := Option.some.inj (origin.symm.trans found)
      exact Or.inl saved
  | @back id source root own held resumed rest ih =>
      obtain rfl := Option.some.inj (held.symm.trans found)
      right
      rcases rows.inherits id own payload found job with ⟨none, _⟩ |
        ⟨position, before, carried, resumes, _, was, brought, _, rebanked, same⟩
      · exact (Option.some_ne_none source (resumed.symm.trans none)).elim
      · obtain rfl : source = position := Option.some.inj (resumed.symm.trans resumes)
        rw [same]
        rcases ih origin was brought with direct | inherited
        · exact direct
        · have member : ∃ entry ∈ carried, entry = (key, text) := by
            obtain ⟨front, back, split, _⟩ := List.lookup_eq_some_iff.mp inherited
            exact ⟨(key, text), by simp [split], rfl⟩
          obtain ⟨_, member, rfl⟩ := member
          obtain ⟨kept, banked⟩ := Option.isSome_iff_exists.mp
            (savedText_isSome.mpr (rebanked _ member))
          rw [banked, rows.agrees source before carried was brought key text kept inherited banked]

end

section

variable {checks : Checks} {around : Surroundings} {now : Int} {record : StageRecord}
  {operation : Operation} {committed : Committed} {id : Nat} {run next : GenerationRun}

theorem update_of_withRun {written : StageRecord} {other : Nat} {update : GenerationRun → GenerationRun}
    (runs : written.runs = record.runs) (later : (written.withRun other update).runs[id]? = some next)
    (found : record.runs[id]? = some run) (changed : next ≠ run) : other = id ∧ next = update run := by
  simp only [withRun_runs, List.getElem?_modify, runs, found, Option.map_eq_map, Option.map_some,
    Option.some.injEq] at later
  by_cases same : other = id
  · rw [if_pos same] at later
    exact ⟨same, later.symm⟩
  · rw [if_neg same] at later
    exact absurd later.symm changed

theorem Commits.succeeds (commits : Commits checks around now record operation committed)
    (found : record.runs[id]? = some run) (running : run.status = .running) (planned : run.chunkPlan ≠ none)
    (later : committed.record.runs[id]? = some next) (ended : next.status = .ended .succeeded) :
    ∃ content advisories, operation = .succeed id content advisories ∧
      committed.record.stage.content = some content ∧ run.completedParts = run.totalParts ∧
        next.chunks = run.chunks := by
  obtain ⟨after, kept, progress⟩ := commits.moves.forward found
  obtain rfl := Option.some.inj (kept.symm.trans later)
  have changed : after ≠ run := by
    rintro rfl
    rw [running] at ended
    contradiction
  have settles : operation.settles = true := by
    by_contra quiet
    rw [progress.quiet (Bool.eq_false_iff.mpr quiet), running] at ended
    contradiction
  cases commits with
  | succeed locked counted =>
      obtain ⟨held, _⟩ := lockRunningRun_eq_ok.mp locked
      obtain ⟨rfl, rfl⟩ := update_of_withRun rfl later found changed
      obtain rfl := Option.some.inj (held.symm.trans found)
      exact ⟨_, _, rfl, rfl, counted, rfl⟩
  | replay locked unplanned =>
      obtain ⟨held, _⟩ := lockRunningRun_eq_ok.mp locked
      obtain ⟨rfl, _⟩ := update_of_withRun rfl later found changed
      obtain rfl := Option.some.inj (held.symm.trans found)
      exact absurd unplanned planned
  | persistQualityGateBlocked =>
      obtain ⟨_, rfl⟩ := update_of_withRun rfl later found changed
      simp at ended
  | settledBefore => exact absurd (Option.some.inj (later.symm.trans found)) changed
  | @interruptEmpty _ _ interruption | @interruptSaved _ _ interruption =>
      obtain ⟨_, rfl⟩ := update_of_withRun rfl later found changed
      exact absurd (RunStatus.ended.inj ended) interruption.stop.outcome_ne_succeeded
  | _ => exact Bool.noConfusion settles

end

namespace Fleet

variable {checks : Checks} {rewrites : StageType → String → String → String} {fleet : Fleet} {act : Act}

def InUse (fleet : Fleet) (type : StageType) (id : Nat) (run : GenerationRun) : Prop :=
  run.status = .running ∨ (fleet.workspace.record type).stage.gate.offer = some id

/-- A request to the provider carries the saved texts of the earlier waves, and asks for nothing that the
run or one before it has saved. What a run delivers is what it has saved: one text for each chunk of its
plan, among them every text that the runs before it have saved. -/
structure Transparent (checks : Checks) (rewrites : StageType → String → String → String) (fleet : Fleet)
    (act : Act) : Prop where
  prior : ∀ call ∈ fleet.call checks act, ∀ run ∈ fleet.workspace.run? call.type call.runId,
    fleet.InUse call.type call.runId run →
      call.key ∈ (fleet.waves checks call.type).getD call.wave [] ∧
        (((fleet.waves checks call.type).take call.wave).flatten.map run.savedText) = call.prior.map some
  once : ∀ call ∈ fleet.call checks act, ∀ root,
    Resumes (fleet.workspace.record call.type) call.runId root →
      ∀ former ∈ fleet.workspace.run? call.type root, former.savedText call.key = none
  content : ∀ type id, ∀ run ∈ fleet.workspace.run? type id, ∀ plan ∈ run.chunkPlan,
    ∀ next ∈ (fleet.step checks rewrites act).workspace.run? type id,
      run.status = .running → next.status = .ended .succeeded →
        ∃ texts, plan.map next.savedText = texts.map some ∧ next.bankedKeys.Perm plan ∧
          ((fleet.step checks rewrites act).workspace.record type).stage.content =
            some (rewrites type (strip ("\n\n".intercalate texts)) fleet.workspace.inputs.mode)
  kept : ∀ type id, ∀ run ∈ fleet.workspace.run? type id, run.chunkPlan ≠ none →
    ∀ next ∈ (fleet.step checks rewrites act).workspace.run? type id,
      run.status = .running → next.status = .ended .succeeded →
        ∀ root, Resumes (fleet.workspace.record type) id root → ∀ former ∈ fleet.workspace.run? type root,
          ∀ key text, former.savedText key = some text → next.savedText key = some text

theorem call_eq_some {call : Call} (asks : fleet.call checks act = some call) :
    ∃ worker ∈ fleet.workers, fleet.CanAsk checks worker call.key ∧ call = {
      type := worker.type, runId := worker.runId, wave := worker.wave, key := call.key
      prior := fleet.prior checks worker } := by
  unfold Fleet.call at asks
  split at asks
  · simp only [bind, Option.bind_eq_some_iff, Option.guard_eq_some', pure, Option.some.injEq] at asks
    obtain ⟨worker, found, _, canAsk, rfl⟩ := asks
    exact ⟨worker, List.mem_of_getElem? found, canAsk, rfl⟩
  · contradiction

theorem map_of_known {keys : List String} {saved completed : String → Option String}
    (known : ∀ key ∈ keys, ∃ text, completed key = some text ∧ saved key = some text) :
    keys.map saved = (keys.filterMap completed).map some := by
  induction keys with
  | nil => rfl
  | cons key rest ih =>
      obtain ⟨text, complete, same⟩ := known key (by simp)
      have later := ih fun other member => known other (by simp [member])
      simp [complete, same, later]

theorem Sound.prior (sound : fleet.Sound checks) {call : Call} (asks : fleet.call checks act = some call)
    {run : GenerationRun} (found : fleet.workspace.run? call.type call.runId = some run)
    (inUse : fleet.InUse call.type call.runId run) :
    call.key ∈ (fleet.waves checks call.type).getD call.wave [] ∧
      (((fleet.waves checks call.type).take call.wave).flatten.map run.savedText) = call.prior.map some := by
  obtain ⟨worker, member, ⟨alive, banked, inWave, _⟩, same⟩ := call_eq_some asks
  obtain ⟨own, payload, held, _, _, _, memory⟩ := sound.tied worker member alive
  generalize call.key = key at same inWave
  subst same
  obtain rfl := Option.some.inj (held.symm.trans found)
  refine ⟨inWave, map_of_known ?_⟩
  intro key earlier
  obtain ⟨text, known⟩ := memory.progress key earlier
  have saved := memory.saved inUse key text known
  rw [banked] at saved
  exact ⟨text, known, saved.resolve_right (by simp)⟩

theorem Sound.once (sound : fleet.Sound checks) {call : Call} (asks : fleet.call checks act = some call)
    {root : Nat} {former : GenerationRun}
    (resumes : Resumes (fleet.workspace.record call.type) call.runId root)
    (origin : fleet.workspace.run? call.type root = some former) : former.savedText call.key = none := by
  obtain ⟨worker, member, ⟨alive, _, _, unknown⟩, same⟩ := call_eq_some asks
  obtain ⟨own, payload, held, job, _, _, memory⟩ := sound.tied worker member alive
  rw [same] at resumes origin
  generalize call.key = key at unknown
  have rows := sound.rows worker.type
  rw [Option.eq_none_iff_forall_ne_some]
  intro text saved
  rcases rows.resumes resumes origin held job saved with direct | brought
  · exact Option.some_ne_none text ((memory.remembers key text direct).symm.trans unknown)
  · have planned := (rows.payload_texts held job brought).2
    exact Option.some_ne_none text ((memory.seeded key text planned brought).symm.trans unknown)

def Complete (checks : Checks) (fleet : Fleet) (worker : Worker) : Prop :=
  worker ∈ fleet.workers ∧ worker.alive = true ∧ worker.unbanked = [] ∧
    worker.wave = (fleet.waves checks worker.type).length

inductive Commitment (checks : Checks) (rewrites : StageType → String → String → String) (fleet : Fleet) :
    Event → Prop where
  | other {event : Event} (others : event.operation.byWorker = false) : Commitment checks rewrites fleet event
  | saves {event : Event} (saves : event.operation.savesChunk = true) : Commitment checks rewrites fleet event
  | succeeds {worker : Worker} {advisories : List Finding} {now : Int}
      (complete : fleet.Complete checks worker) : Commitment checks rewrites fleet {
        type := worker.type, now, operation := .succeed worker.runId
          (rewrites worker.type (fleet.assembled checks worker) fleet.workspace.inputs.mode) advisories }

theorem checkpoint_commits {position : Nat} {worker next : Worker} {key text : String} {now : Int} :
    (fleet.checkpoint checks position worker next key text now).workspace = fleet.workspace ∨
      ∃ event, Commitment checks rewrites fleet event ∧
        (fleet.checkpoint checks position worker next key text now).workspace =
          fleet.workspace.step checks event := by
  unfold Fleet.checkpoint
  dsimp only
  split
  · exact Or.inl rfl
  · rename_i committed done
    exact Or.inr ⟨_, .saves rfl, (Workspace.step_of_ok done).symm⟩

theorem work_commits {position : Nat} {worker : Worker} (found : fleet.workers[position]? = some worker)
    (alive : worker.alive = true) (move : Move) (now : Int) :
    (fleet.work checks rewrites position worker now move).workspace = fleet.workspace ∨
      ∃ event, Commitment checks rewrites fleet event ∧
        (fleet.work checks rewrites position worker now move).workspace =
          fleet.workspace.step checks event := by
  cases move with
  | bank key =>
      unfold Fleet.work
      dsimp only
      split
      · exact Or.inl rfl
      · exact checkpoint_commits
  | answer key text =>
      unfold Fleet.work
      dsimp only
      split
      · exact checkpoint_commits
      · exact Or.inl rfl
  | ask key | advance =>
      unfold Fleet.work
      dsimp only
      split
      · exact Or.inl rfl
      · exact Or.inl rfl
  | save advisories =>
      unfold Fleet.work
      dsimp only
      split
      · rename_i complete
        exact Or.inr ⟨_, .succeeds ⟨List.mem_of_getElem? found, alive, complete.1, complete.2⟩, rfl⟩
      · exact Or.inl rfl
  | stop => exact Or.inl rfl

theorem step_commits (checks : Checks) (rewrites : StageType → String → String → String) (fleet : Fleet)
    (act : Act) : (fleet.step checks rewrites act).workspace = fleet.workspace ∨
    ∃ event, Commitment checks rewrites fleet event ∧
      (fleet.step checks rewrites act).workspace = fleet.workspace.step checks event := by
  cases act with
  | transact event =>
      unfold Fleet.step
      dsimp only
      split
      · exact Or.inl rfl
      · rename_i other
        unfold Fleet.transact
        split
        · exact Or.inl rfl
        · rename_i committed done
          exact Or.inr ⟨event, .other (Bool.eq_false_iff.mpr other), (Workspace.step_of_ok done).symm⟩
  | deliver type id =>
      unfold Fleet.step Fleet.deliver
      dsimp only
      split
      · split
        · exact Or.inl rfl
        · exact Or.inl rfl
      · exact Or.inl rfl
  | work position move now =>
      unfold Fleet.step
      dsimp only
      split
      · exact Or.inl rfl
      · rename_i worker found
        split
        · rename_i alive
          exact work_commits found alive move now
        · exact Or.inl rfl

theorem succeeds {type : StageType} {id : Nat} {run next : GenerationRun}
    (found : fleet.workspace.run? type id = some run) (running : run.status = .running)
    (planned : run.chunkPlan ≠ none)
    (later : (fleet.step checks rewrites act).workspace.run? type id = some next)
    (ended : next.status = .ended .succeeded) :
    ∃ worker, fleet.Complete checks worker ∧ worker.type = type ∧ worker.runId = id ∧
      ((fleet.step checks rewrites act).workspace.record type).stage.content =
        some (rewrites type (fleet.assembled checks worker) fleet.workspace.inputs.mode) ∧
          run.completedParts = run.totalParts ∧ next.chunks = run.chunks := by
  have changed : next ≠ run := by
    rintro rfl
    rw [running] at ended
    contradiction
  have unmoved {after : Workspace} (same : (after.record type).runs = (fleet.workspace.record type).runs)
      (kept : after.run? type id = some next) : False := by
    rw [Workspace.run?, same] at kept
    exact changed (Option.some.inj (kept.symm.trans found))
  rcases step_commits checks rewrites fleet act with same | ⟨event, commitment, stepped⟩
  · rw [same] at later
    exact (unmoved rfl later).elim
  · rw [stepped] at later ⊢
    rcases Workspace.step_cases checks fleet.workspace event with refused | ⟨committed, _, commits, made⟩
    · rw [refused] at later
      exact (unmoved rfl later).elim
    · rw [made] at later ⊢
      by_cases own : type = event.type
      · subst own
        rw [Workspace.run?, Workspace.commit_self] at later
        rw [Workspace.commit_self]
        obtain ⟨content, advisories, operation, head, counted, chunks⟩ :=
          commits.succeeds found running planned later ended
        cases commitment with
        | other others =>
            rw [operation] at others
            contradiction
        | saves saves =>
            rw [operation] at saves
            contradiction
        | succeeds complete =>
            cases operation
            exact ⟨_, complete, rfl, rfl, head, counted, chunks⟩
      · exact (unmoved (Workspace.commit_beside own).runs later).elim

theorem Sound.complete (sound : fleet.Sound checks) {worker : Worker} (complete : fleet.Complete checks worker)
    {run : GenerationRun} (found : fleet.workspace.run? worker.type worker.runId = some run)
    (running : run.status = .running) {plan : List String} (planned : run.chunkPlan = some plan) :
    (fleet.waves checks worker.type).flatten = plan ∧
      (∀ key text, worker.completed key = some text → run.savedText key = some text) ∧
        plan.map run.savedText = (plan.filterMap worker.completed).map some := by
  obtain ⟨member, alive, banked, wave⟩ := complete
  obtain ⟨own, payload, held, _, _, same, memory⟩ := sound.tied worker member alive
  obtain rfl := Option.some.inj (held.symm.trans found)
  obtain rfl := Option.some.inj (same.symm.trans planned)
  have saved (key text : String) (known : worker.completed key = some text) :
      own.savedText key = some text := by
    have saved := memory.saved (Or.inl running) key text known
    rw [banked] at saved
    exact saved.resolve_right (by simp)
  refine ⟨rfl, saved, map_of_known ?_⟩
  intro key inPlan
  rw [← List.take_length (l := fleet.waves checks worker.type), ← wave] at inPlan
  obtain ⟨text, known⟩ := memory.progress key inPlan
  exact ⟨text, known, saved key text known⟩

theorem Sound.content (sound : fleet.Sound checks) {type : StageType} {id : Nat} {run next : GenerationRun}
    {plan : List String} (found : fleet.workspace.run? type id = some run) (planned : run.chunkPlan = some plan)
    (later : (fleet.step checks rewrites act).workspace.run? type id = some next)
    (running : run.status = .running) (ended : next.status = .ended .succeeded) :
    ∃ texts, plan.map next.savedText = texts.map some ∧ next.bankedKeys.Perm plan ∧
      ((fleet.step checks rewrites act).workspace.record type).stage.content =
        some (rewrites type (strip ("\n\n".intercalate texts)) fleet.workspace.inputs.mode) := by
  obtain ⟨worker, complete, rfl, rfl, head, counted, chunks⟩ :=
    succeeds found running (by simp [planned]) later ended
  obtain ⟨rfl, _, texts⟩ := sound.complete complete found running planned
  have rows := sound.rows worker.type
  refine ⟨_, ?_, ?_, head⟩
  · rw [← texts]
    exact List.map_congr_left fun key _ => savedText_congr chunks key
  · have keys : next.bankedKeys = run.bankedKeys := by rw [bankedKeys, bankedKeys, chunks]
    obtain ⟨distinct, inPlan⟩ := rows.keys worker.runId run found
    have all : run.bankedKeys.length = (fleet.waves checks worker.type).flatten.length := by
      rw [bankedKeys, List.length_map, ← rows.counted worker.runId run found running, counted,
        (rows.planned worker.runId run found).2]
    rw [keys]
    exact (List.subperm_of_subset distinct inPlan).perm_of_length_le all.ge

theorem Sound.kept (sound : fleet.Sound checks) {type : StageType} {id root : Nat}
    {run next former : GenerationRun} (found : fleet.workspace.run? type id = some run)
    (planned : run.chunkPlan ≠ none)
    (later : (fleet.step checks rewrites act).workspace.run? type id = some next)
    (running : run.status = .running) (ended : next.status = .ended .succeeded)
    (resumes : Resumes (fleet.workspace.record type) id root)
    (origin : fleet.workspace.run? type root = some former) {key text : String}
    (saved : former.savedText key = some text) : next.savedText key = some text := by
  obtain ⟨worker, complete, rfl, rfl, _, _, chunks⟩ := succeeds found running planned later ended
  rw [savedText_congr chunks]
  have rows := sound.rows worker.type
  obtain ⟨own, payload, held, job, _, _, memory⟩ := sound.tied worker complete.1 complete.2.1
  obtain rfl := Option.some.inj (held.symm.trans found)
  rcases rows.resumes resumes origin held job saved with direct | brought
  · exact direct
  · obtain ⟨plan, planned⟩ := Option.ne_none_iff_exists'.mp planned
    have known := memory.seeded key text (rows.payload_texts held job brought).2 brought
    exact (sound.complete complete held running planned).2.1 key text known

theorem Sound.transparent (sound : fleet.Sound checks) (act : Act) :
    Transparent checks rewrites fleet act where
  prior := by
    intro call asks run found inUse
    exact sound.prior asks found inUse
  once := by
    intro call asks root resumes former origin
    exact sound.once asks resumes origin
  content := by
    intro type id run found plan planned next later running ended
    exact sound.content found planned later running ended
  kept := by
    intro type id run found planned next later running ended root resumes former origin key text saved
    exact sound.kept found planned later running ended resumes origin saved

open Histories in
/-- As long as the workers of a stage take turns and no interruption cuts off the banking of a resumed
run's chunks, interruptions do not show. -/
theorem sequential_workers_are_transparent (checks : Checks)
    (rewrites : StageType → String → String → String) (inputs : WorkspaceInputs) (now : Int) (acts : List Act)
    (sequential : Along (step checks rewrites) (Sequential checks) (fresh inputs now) acts)
    (front back : List Act) (act : Act) (split : acts = front ++ act :: back) :
    Transparent checks rewrites (play (step checks rewrites) (fresh inputs now) front) act := by
  subst split
  have before := (along_append.mp sequential).1
  have sound : (play (step checks rewrites) (fresh inputs now) front).Sound checks :=
    before.invariant (fun _ _ sound meets => sound.step meets) (fresh_sound inputs now)
  exact sound.transparent act

def threeWaves : Checks where
  __ := sampleChecks
  chunkWaves _ _ := [["first"], ["second"], ["third"]]

def generating (action : GenerationAction) (id : Nat) : List Act :=
  [ .transact { type := .spec, operation := .generate (sampleRequest action), now := 1 }
  , .transact { type := .spec, operation := .preparePrompt id "prompt", now := 2 }
  , .deliver .spec id ]

def fetching (position : Nat) (key text : String) : List Act :=
  [.work position (.ask key) 3, .work position (.answer key text) 3, .work position .advance 3]

def losing (position : Nat) : List Act :=
  [ .work position .stop 4
  , .transact { type := .spec, operation := .terminalizeInterruptedRun position sampleLoss, now := 5 } ]

def sampleFetches : List Act :=
  generating .generate 0 ++ fetching 0 "first" "alpha" ++ fetching 0 "second" "beta" ++ losing 0 ++
    generating .resume 1 ++
    [ .work 1 (.bank "first") 6, .work 1 (.bank "second") 6, .work 1 .advance 6, .work 1 .advance 6 ] ++
    fetching 1 "third" "gamma"

theorem sequential_workers_are_transparent_sample :
    let delivery : Act := .work 1 (.save []) 7
    Transparent threeWaves (fun _ text _ => text)
        (Histories.play (step threeWaves fun _ text _ => text) (fresh {} 0) sampleFetches) delivery ∧
      ((Histories.play (step threeWaves fun _ text _ => text) (fresh {} 0)
        (sampleFetches ++ [delivery])).workspace.record .spec).stage.content = some "alpha\n\nbeta\n\ngamma" :=
  ⟨sequential_workers_are_transparent threeWaves (fun _ text _ => text) {} 0
    (sampleFetches ++ [.work 1 (.save []) 7]) (by decide) sampleFetches [] _ rfl, by decide⟩

def cutBanking : List Act :=
  generating .generate 0 ++ fetching 0 "first" "alpha" ++ fetching 0 "second" "beta" ++ losing 0 ++
    generating .resume 1 ++ [.work 1 (.bank "first") 6] ++ losing 1 ++
    generating .resume 2 ++ [.work 2 (.bank "first") 6, .work 2 .advance 6]

theorem Transparent.unsaved (transparent : Transparent checks rewrites fleet act) {call : Call}
    (asks : fleet.call checks act = some call) {root : Nat}
    (resumes : Resumes (fleet.workspace.record call.type) call.runId root) :
    (fleet.workspace.run? call.type root).bind (·.savedText call.key) = none := by
  rw [Option.bind_eq_none_iff]
  intro former found
  exact transparent.once call asks root resumes former found

theorem resumes_back {record : StageRecord} {id source root : Nat}
    (found : record.runs[id]?.bind (·.resumeSource) = some source) (rest : Resumes record source root) :
    Resumes record id root := by
  obtain ⟨run, held, resumes⟩ := Option.bind_eq_some_iff.mp found
  exact .back held resumes rest

theorem cut_banking_repeats_chunk : ¬Transparent threeWaves (fun _ text _ => text)
    (Histories.play (step threeWaves fun _ text _ => text) (fresh {} 0) cutBanking)
    (.work 2 (.ask "second") 8) := by
  intro transparent
  have asks : Fleet.call threeWaves
      (Histories.play (step threeWaves fun _ text _ => text) (fresh {} 0) cutBanking)
      (.work 2 (.ask "second") 8) =
        some { type := .spec, runId := 2, wave := 1, key := "second", prior := ["alpha"] } := by
    decide
  have unsaved := transparent.unsaved asks
    (resumes_back (by decide : _ = some 1) (resumes_back (by decide : _ = some 0) (.self 0)))
  revert unsaved
  decide

theorem second_worker_repeats_chunk : ¬Transparent threeWaves (fun _ text _ => text)
    (Histories.play (step threeWaves fun _ text _ => text) (fresh {} 0)
      (generating .generate 0 ++ [.deliver .spec 0] ++ fetching 0 "first" "alpha" ++ [.work 0 .stop 4]))
    (.work 1 (.ask "first") 8) := by
  intro transparent
  have asks : Fleet.call threeWaves
      (Histories.play (step threeWaves fun _ text _ => text) (fresh {} 0)
        (generating .generate 0 ++ [.deliver .spec 0] ++ fetching 0 "first" "alpha" ++ [.work 0 .stop 4]))
      (.work 1 (.ask "first") 8) =
        some { type := .spec, runId := 0, wave := 0, key := "first", prior := [] } := by
    decide
  have unsaved := transparent.unsaved asks (.self 0)
  revert unsaved
  decide

end Fleet

end Thought2Build.Pipeline
