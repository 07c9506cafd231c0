import Mathlib.Data.List.Nodup
import Thought2Build.Integrations.ExportJobsCore
import Thought2Build.Library.Histories

/-!
Which steps of the export jobs keep the drift sweep off live exports, and older jobs off pushes that have ended.
The sweep looks for a job under the id of the push; a throttled job goes on under another.
-/

namespace Thought2Build.Integrations

open Histories

theorem PushRow.write_id (row : PushRow) (now : Nat) (status : PushStatus) : (row.write now status).id = row.id := by
  unfold PushRow.write
  split <;> rfl

theorem PushRow.write_status (row : PushRow) (now : Nat) (status : PushStatus) :
    (row.write now status).status = status := by
  unfold PushRow.write
  split
  · assumption
  · rfl

namespace Exports

variable {exports : Exports}

def Ended (row : PushRow) : Prop := row.status = .failed ∨ row.status = .completed

instance (row : PushRow) : Decidable (Ended row) := inferInstanceAs (Decidable (_ ∨ _))

def swept (exports : Exports) : ExportEvent → List Nat
  | .commitSweep sweep => if sweep ∈ exports.sweeps ∧ sweep.unchecked = [] then sweep.dead else []
  | _ => []

def authors (exports : Exports) : ExportEvent → List (Nat × Nat)
  | .begin key | .refresh key | .complete key | .raise key _ | .settle key | .crash key | .drop key =>
      (exports.job key).toList.map fun job => (job.push, job.born)
  | .commitSweep sweep => sweep.dead.map fun push => (push, sweep.born)
  | _ => []

/-- No live export is swept, and no job changes a push that has ended after the job was created. -/
structure Respects (exports : Exports) (event : ExportEvent) : Prop where
  live : ∀ job ∈ exports.jobs, job.push ∉ exports.swept event
  ended : ∀ row ∈ exports.pushes, Ended row → ∀ author ∈ exports.authors event,
    author.1 = row.id → author.2 < row.since → row ∈ (exports.step event).pushes

def Gone (exports : Exports) (push : Nat) : Prop :=
  (∀ job ∈ exports.jobs, job.push ≠ push) ∧ ∀ row ∈ exports.pushes, row.id = push → row.status ≠ .completed

def Sole (exports : Exports) (job : ExportJob) : Prop :=
  (∀ row ∈ exports.pushes, row.id = job.push → row.status = .failed → row.since ≤ job.born) ∧
    ∀ other ∈ exports.jobs, other.push = job.push → other.isRunning = false

/-- The request reaches no push that a sweep is about to fail; nor one that is being exported, where it ends it. -/
def Undisturbed (exports : Exports) (request : ExportRequest) (queueUp : Bool) : Prop :=
  (queueUp = true ∨ request.restored = .completed → ∀ sweep ∈ exports.sweeps, request.push ∉ sweep.dead) ∧
    (queueUp = false ∧ (request.restored = .failed ∨ request.restored = .completed) →
      ∀ job ∈ exports.jobs, job.push = request.push → job.isRunning = false)

/-- The steps on which the sweep and the jobs do not get in each other's way. -/
def Careful (exports : Exports) : ExportEvent → Prop
  | .checkNext sweep => ∀ push ∈ sweep.unchecked.head?, exports.isJobAlive push = false → exports.Gone push
  | .submit request queueUp => exports.Undisturbed request queueUp
  | .begin key => ∀ job ∈ exports.job key, job.phase = .queued → exports.Sole job
  | _ => True

instance (push : Nat) : Decidable (exports.Gone push) := by unfold Gone; infer_instance

instance (job : ExportJob) : Decidable (exports.Sole job) := by unfold Sole; infer_instance

instance (request : ExportRequest) (queueUp : Bool) : Decidable (exports.Undisturbed request queueUp) := by
  unfold Undisturbed; infer_instance

instance (event : ExportEvent) : Decidable (exports.Careful event) := by
  unfold Careful
  split <;> infer_instance

structure Sound (exports : Exports) : Prop where
  ids : (exports.pushes.map (·.id)).Nodup
  keys : (exports.jobs.map (·.key)).Nodup
  fresh : ∀ job ∈ exports.jobs, ∀ number, job.key = .fresh number → number < exports.nextKey
  running : ∀ job ∈ exports.jobs, job.isRunning = true → ∀ row ∈ exports.pushes, row.id = job.push →
    Ended row → row.since ≤ job.born
  alone : ∀ job ∈ exports.jobs, ∀ other ∈ exports.jobs, job.isRunning = true → other.isRunning = true →
    job.push = other.push → job.key = other.key
  dead : ∀ sweep ∈ exports.sweeps, ∀ push ∈ sweep.dead, exports.Gone push

variable {push : Nat} {key : JobKey} {job : ExportJob} {status : PushStatus}

theorem mem_of_job (found : exports.job key = some job) : job ∈ exports.jobs ∧ job.key = key :=
  ⟨List.mem_of_find?_eq_some found, by simpa using List.find?_some found⟩

theorem Sound.same_key (sound : exports.Sound) {other : ExportJob} (found : exports.job key = some job)
    (member : other ∈ exports.jobs) (same : other.key = key) : other = job :=
  List.inj_on_of_nodup_map sound.keys member (mem_of_job found).1 (same.trans (mem_of_job found).2.symm)

theorem write_cases {row : PushRow} (held : row ∈ (exports.write push status).pushes) :
    (row ∈ exports.pushes ∧ row.id ≠ push) ∨
      ∃ former ∈ exports.pushes, former.id = push ∧ row = former.write exports.clock status := by
  obtain ⟨former, member, rfl⟩ := List.mem_map.mp held
  by_cases own : former.id = push
  · rw [if_pos own]
    exact Or.inr ⟨former, member, own, rfl⟩
  · rw [if_neg own]
    exact Or.inl ⟨member, own⟩

theorem Sound.withRows (sound : exports.Sound) {pushes : List PushRow} (ids : (pushes.map (·.id)).Nodup)
    (earlier : ∀ row ∈ pushes, row ∈ exports.pushes ∨
      ((Ended row → ∀ job ∈ exports.jobs, job.push = row.id → job.isRunning = false) ∧
        (row.status = .completed → ∀ sweep ∈ exports.sweeps, row.id ∉ sweep.dead))) :
    Sound { exports with pushes } where
  ids := ids
  keys := sound.keys
  fresh := sound.fresh
  running job member runs row held own ended := by
    rcases earlier row held with before | ⟨idle, _⟩
    · exact sound.running job member runs row before own ended
    · rw [idle ended job member own.symm] at runs
      contradiction
  alone := sound.alone
  dead sweep member gone lost := by
    refine ⟨(sound.dead sweep member gone lost).1, ?_⟩
    intro row held own completed
    rcases earlier row held with before | ⟨_, kept⟩
    · exact (sound.dead sweep member gone lost).2 row before own completed
    · exact kept completed sweep member (own ▸ lost)

theorem ids_map {pushes : List PushRow} (change : PushRow → PushRow) (kept : ∀ row, (change row).id = row.id)
    (ids : (pushes.map (·.id)).Nodup) : ((pushes.map change).map (·.id)).Nodup := by
  rw [List.map_map]
  convert ids using 2
  funext row
  exact kept row

theorem Sound.write (sound : exports.Sound)
    (idle : status = .failed ∨ status = .completed → ∀ job ∈ exports.jobs, job.push = push → job.isRunning = false)
    (kept : status = .completed → ∀ sweep ∈ exports.sweeps, push ∉ sweep.dead) :
    (exports.write push status).Sound := by
  refine sound.withRows (ids_map _ ?_ sound.ids) ?_
  · intro row
    split
    · exact row.write_id ..
    · rfl
  · intro row held
    rcases write_cases held with ⟨before, _⟩ | ⟨former, _, target, rfl⟩
    · exact Or.inl before
    · rw [Ended, PushRow.write_status, PushRow.write_id, target]
      exact Or.inr ⟨idle, kept⟩

theorem Sound.flush (sound : exports.Sound) {seen : PushStatus}
    (idle : status = .failed ∨ status = .completed → ∀ job ∈ exports.jobs, job.push = push → job.isRunning = false)
    (kept : status = .completed → ∀ sweep ∈ exports.sweeps, push ∉ sweep.dead) :
    (exports.flush push seen status).Sound := by
  unfold Exports.flush
  split
  · exact sound.write idle kept
  · exact sound

theorem incomplete_of_loadPush (sound : exports.Sound) {seen : PushStatus}
    (loads : loadPush (exports.row push) = .running seen) {row : PushRow} (held : row ∈ exports.pushes)
    (own : row.id = push) : row.status ≠ .completed := by
  cases found : exports.row push with
  | none =>
      rw [found] at loads
      simp [loadPush] at loads
  | some first =>
      have same : first = row := by
        refine List.inj_on_of_nodup_map sound.ids (List.mem_of_find?_eq_some found) held ?_
        rw [own]
        simpa using List.find?_some found
      rw [found, same] at loads
      intro completed
      simp [loadPush, completed] at loads

theorem Sound.withJobs (sound : exports.Sound) {jobs : List ExportJob} (key : JobKey)
    (keys : (jobs.map (·.key)).Nodup)
    (earlier : ∀ job ∈ jobs, ∃ former ∈ exports.jobs, former.key = job.key ∧ former.push = job.push ∧
      former.born = job.born ∧ (job.isRunning = true → former.isRunning = true ∨ (job.key = key ∧
        exports.Sole former ∧ ∀ row ∈ exports.pushes, row.id = job.push → row.status ≠ .completed))) :
    Sound { exports with jobs } where
  ids := sound.ids
  keys := keys
  fresh job member number own := by
    obtain ⟨former, held, same, _⟩ := earlier job member
    exact sound.fresh former held number (same.trans own)
  running job member runs row held own ended := by
    obtain ⟨former, before, _, push, born, begun⟩ := earlier job member
    rw [← born]
    rcases begun runs with running | ⟨_, sole, incomplete⟩
    · exact sound.running former before running row held (own.trans push.symm) ended
    · rcases ended with failed | completed
      · exact sole.1 row held (own.trans push.symm) failed
      · exact absurd completed (incomplete row held own)
  alone job member other held runs also same := by
    obtain ⟨former, before, key_, push, _, begun⟩ := earlier job member
    obtain ⟨rival, present, keyOther, pushOther, _, begunOther⟩ := earlier other held
    have pushes : former.push = rival.push := by rw [push, pushOther, same]
    rcases begun runs with running | ⟨own, sole, _⟩ <;>
      rcases begunOther also with runningOther | ⟨ownOther, soleOther, _⟩
    · rw [← key_, ← keyOther]
      exact sound.alone former before rival present running runningOther pushes
    · rw [soleOther.2 former before pushes] at running
      contradiction
    · rw [sole.2 rival present pushes.symm] at runningOther
      contradiction
    · rw [own, ownOther]
  dead sweep member gone lost := by
    refine ⟨?_, (sound.dead sweep member gone lost).2⟩
    intro job held
    obtain ⟨former, before, _, push, _⟩ := earlier job held
    rw [← push]
    exact (sound.dead sweep member gone lost).1 former before

theorem mem_setPhase {phase : JobPhase} : job ∈ (exports.setPhase key phase).jobs ↔
    ∃ former ∈ exports.jobs, job = if former.key = key then { former with phase } else former := by
  simp [setPhase, eq_comm]

theorem Sound.setPhase (sound : exports.Sound) (key : JobKey) {phase : JobPhase}
    (ends : ∀ seen, phase = .running seen → ∀ job ∈ exports.jobs, job.key = key → job.isRunning = true) :
    (exports.setPhase key phase).Sound := by
  refine sound.withJobs key ?_ ?_
  · rw [List.map_map]
    convert sound.keys using 2
    funext job
    simp only [Function.comp_apply]
    split <;> rfl
  · intro job member
    obtain ⟨former, held, rfl⟩ := mem_setPhase.mp member
    refine ⟨former, held, ?_⟩
    split
    · rename_i own
      refine ⟨rfl, rfl, rfl, ?_⟩
      intro runs
      cases phase with
      | running seen => exact Or.inl (ends seen rfl former held own)
      | queued | returning => simp [ExportJob.isRunning] at runs
    · exact ⟨rfl, rfl, rfl, Or.inl⟩

theorem Sound.remove (sound : exports.Sound) (key : JobKey) : (exports.remove key).Sound := by
  refine sound.withJobs key (sound.keys.sublist (List.filter_sublist.map _)) ?_
  intro job member
  exact ⟨job, (List.mem_filter.mp member).1, rfl, rfl, rfl, Or.inl⟩

theorem Sound.append (sound : exports.Sound) {job : ExportJob} (nextKey : Nat) (queued : job.phase = .queued)
    (new : ∀ other ∈ exports.jobs, other.key ≠ job.key) (later : exports.nextKey ≤ nextKey)
    (below : ∀ number, job.key = .fresh number → number < nextKey)
    (alive : ∀ sweep ∈ exports.sweeps, job.push ∉ sweep.dead) :
    Sound { exports with jobs := exports.jobs ++ [job], nextKey } where
  ids := sound.ids
  keys := by
    rw [List.map_append]
    refine List.Nodup.append sound.keys (List.nodup_singleton _) ?_
    simpa using new
  fresh other member number own := by
    rcases List.mem_append.mp member with old | last
    · exact Nat.lt_of_lt_of_le (sound.fresh other old number own) later
    · rw [List.mem_singleton.mp last] at own
      exact below number own
  running other member runs := by
    rcases List.mem_append.mp member with old | last
    · exact sound.running other old runs
    · rw [List.mem_singleton.mp last] at runs
      simp [ExportJob.isRunning, queued] at runs
  alone first member second held runs also := by
    have idle : job.isRunning = false := by simp [ExportJob.isRunning, queued]
    rcases List.mem_append.mp member with old | last
    · rcases List.mem_append.mp held with before | final
      · exact sound.alone first old second before runs also
      · rw [List.mem_singleton.mp final, idle] at also
        contradiction
    · rw [List.mem_singleton.mp last, idle] at runs
      contradiction
  dead sweep member gone lost := by
    refine ⟨?_, (sound.dead sweep member gone lost).2⟩
    intro other held
    rcases List.mem_append.mp held with old | last
    · exact (sound.dead sweep member gone lost).1 other old
    · rw [List.mem_singleton.mp last]
      rintro rfl
      exact alive sweep member lost

theorem Sound.prepare (sound : exports.Sound) (push : Nat) : (exports.prepare push).Sound := by
  unfold Exports.prepare
  split
  · exact { @Sound.write _ push .pending sound (by simp) (by simp) with }
  · rename_i absent
    have new : ∀ row ∈ exports.pushes, row.id ≠ push := by simpa [row] using absent
    have appended : Sound { exports with pushes := exports.pushes ++ [{ id := push, since := exports.clock }] } := by
      refine sound.withRows ?_ ?_
      · rw [List.map_append]
        refine List.Nodup.append sound.ids (List.nodup_singleton _) ?_
        simpa using new
      · intro row held
        rcases List.mem_append.mp held with before | last
        · exact Or.inl before
        · rw [List.mem_singleton.mp last]
          exact Or.inr (by simp [Ended])
    exact { appended with }

theorem Sound.resync (sound : exports.Sound) (push : Nat) : (exports.resync push).Sound := by
  unfold Exports.resync
  split
  · exact sound
  · split
    · exact sound
    · exact { @Sound.write _ push .pending sound (by simp) (by simp) with }

theorem Sound.enqueue (sound : exports.Sound) {push : Nat} (alive : ∀ sweep ∈ exports.sweeps, push ∉ sweep.dead) :
    (exports.enqueue push).Sound := by
  unfold Exports.enqueue
  split
  · exact sound
  · rename_i absent
    have new : ∀ other ∈ exports.jobs, other.key ≠ .push push := by simpa [Exports.job] using absent
    exact sound.append exports.nextKey rfl new (Nat.le_refl _) (by simp) alive

theorem Sound.submit (sound : exports.Sound) {request : ExportRequest} {queueUp : Bool}
    (careful : exports.Undisturbed request queueUp) : (exports.submit request queueUp).Sound := by
  unfold Exports.submit
  split
  · split
    · rename_i up
      exact { sound.enqueue (careful.1 (Or.inl up)) with }
    · rename_i down
      have flushed : (exports.flush request.push .pending request.restored).Sound := by
        refine sound.flush ?_ fun completed => careful.1 (Or.inr completed)
        exact fun ended => careful.2 ⟨by simpa using down, ended⟩
      exact { flushed with }
  · exact sound

theorem Sound.markStale (sound : exports.Sound) (push : Nat) : (exports.markStale push).Sound := by
  refine sound.withRows (ids_map _ ?_ sound.ids) ?_
  · intro row
    split
    · exact row.write_id ..
    · rfl
  · intro row held
    obtain ⟨former, member, rfl⟩ := List.mem_map.mp held
    split
    · refine Or.inr ?_
      simp [Ended, PushRow.write_status]
    · exact Or.inl member

theorem Sound.begin (sound : exports.Sound) {key : JobKey} (careful : exports.Careful (.begin key)) :
    (exports.begin key).Sound := by
  unfold Exports.begin
  split
  · exact sound
  · rename_i job found
    split
    · exact sound
    · rename_i queued
      split
      · exact sound.remove key
      · refine sound.withJobs key ?_ ?_
        · rw [List.map_map]
          convert sound.keys using 2
          funext other
          simp only [Function.comp_apply]
          split <;> rfl
        · intro after member
          obtain ⟨former, held, rfl⟩ := List.mem_map.mp member
          refine ⟨former, held, ?_⟩
          split
          · rename_i own
            rw [sound.same_key found held own] at *
            refine ⟨rfl, rfl, rfl, ?_⟩
            intro runs
            refine Or.inr ⟨own, careful job found (not_not.mp queued), ?_⟩
            intro row held push
            cases loads : loadPush (exports.row job.push) with
            | running seen => exact incomplete_of_loadPush sound loads held push
            | queued | returning => simp [ExportJob.isRunning, loads] at runs
          · exact ⟨rfl, rfl, rfl, Or.inl⟩

theorem Sound.refresh (sound : exports.Sound) (key : JobKey) : (exports.refresh key).Sound := by
  unfold Exports.refresh
  split
  · exact sound
  · rename_i job found
    split
    · exact sound
    · split
      · rename_i running
        refine sound.setPhase key ?_
        intro seen _ other member own
        rwa [sound.same_key found member own]
      · exact sound

theorem Sound.return (sound : exports.Sound) (found : exports.job key = some job) (running : job.isRunning = true)
    (seen status : PushStatus) (again : Bool) :
    ((exports.flush job.push seen status).setPhase key (.returning again)).Sound := by
  have swapped : (exports.flush job.push seen status).setPhase key (.returning again) =
      (exports.setPhase key (.returning again)).flush job.push seen status := by
    unfold Exports.flush
    split <;> rfl
  obtain ⟨member, own⟩ := mem_of_job found
  have returned : (exports.setPhase key (.returning again)).Sound := sound.setPhase key nofun
  rw [swapped]
  refine returned.flush ?_ ?_
  · intro _ other held same
    obtain ⟨former, before, rfl⟩ := mem_setPhase.mp held
    split
    · rfl
    · rename_i differs
      -- no second attempt of the push is under way
      rw [if_neg differs] at same
      by_contra runs
      exact differs ((sound.alone former before job member (by simpa using runs) running same).trans own)
  · intro _ sweep swept lost
    exact (sound.dead sweep swept job.push lost).1 job member rfl

theorem Sound.complete (sound : exports.Sound) (key : JobKey) : (exports.complete key).Sound := by
  unfold Exports.complete
  split
  · exact sound
  · rename_i job found
    split
    · rename_i seen phase
      exact sound.return found (by simp [ExportJob.isRunning, phase]) seen .completed false
    · exact sound

theorem Sound.raise (sound : exports.Sound) (key : JobKey) (error : ExportError) :
    (exports.raise key error).Sound := by
  unfold Exports.raise
  split
  · exact sound
  · rename_i job found
    split
    · rename_i seen phase
      have running : job.isRunning = true := by simp [ExportJob.isRunning, phase]
      have member := (mem_of_job found).1
      cases error with
      | throttled requeued =>
          suffices queued : (if requeued then exports.requeueThrottled job.push else exports).Sound from
            queued.setPhase key nofun
          split
          · refine sound.append (exports.nextKey + 1) rfl ?_ (Nat.le_succ _) ?_ ?_
            · intro other held same
              exact absurd (sound.fresh other held exports.nextKey same) (Nat.lt_irrefl _)
            · rintro number ⟨⟩
              exact Nat.lt_succ_self _
            · intro sweep swept lost
              exact (sound.dead sweep swept job.push lost).1 job member rfl
          · exact sound
      | unavailable => exact sound.setPhase key nofun
      | permanent => exact sound.return found running seen .failed _
      | transient =>
          simp only
          split
          · exact sound.setPhase key nofun
          · exact sound.return found running seen .failed _
    · exact sound

theorem Sound.settle (sound : exports.Sound) (key : JobKey) : (exports.settle key).Sound := by
  unfold Exports.settle
  split
  · exact sound
  · split
    · exact sound.setPhase key nofun
    · exact sound.remove key
    · exact sound

theorem Sound.checkNext (sound : exports.Sound) {sweep : DriftSweep}
    (careful : exports.Careful (.checkNext sweep)) : (exports.checkNext sweep).Sound := by
  unfold Exports.checkNext
  split
  · exact sound
  · rename_i push rest unchecked
    split
    · rename_i member
      exact { sound with
        dead := by
          intro other held gone lost
          rcases List.mem_cons.mp held with rfl | before
          · cases alive : exports.isJobAlive push with
            | true =>
                rw [alive] at lost
                exact sound.dead sweep member gone lost
            | false =>
                rw [alive] at lost
                rcases List.mem_append.mp lost with old | new
                · exact sound.dead sweep member gone old
                · rw [List.mem_singleton.mp new]
                  exact careful push (by rw [unchecked]; rfl) alive
          · exact sound.dead other (List.mem_of_mem_erase before) gone lost }
    · exact sound

theorem Sound.commitSweep (sound : exports.Sound) (sweep : DriftSweep) : (exports.commitSweep sweep).Sound := by
  unfold Exports.commitSweep
  split
  · rename_i member
    have failed : Sound { exports with
        pushes := exports.pushes.map fun row =>
          if row.id ∈ sweep.dead then row.write exports.clock .failed else row } := by
      refine sound.withRows (ids_map _ ?_ sound.ids) ?_
      · intro row
        split
        · exact row.write_id ..
        · rfl
      · intro row held
        obtain ⟨former, before, rfl⟩ := List.mem_map.mp held
        split
        · rename_i lost
          refine Or.inr ⟨?_, ?_⟩
          · intro _ job live same
            rw [PushRow.write_id] at same
            exact absurd same ((sound.dead sweep member.1 former.id lost).1 job live)
          · intro completed
            rw [PushRow.write_status] at completed
            contradiction
        · exact Or.inl before
    exact { failed with dead := fun other held => failed.dead other (List.mem_of_mem_erase held) }
  · exact sound

theorem Sound.act (sound : exports.Sound) (event : ExportEvent) (careful : exports.Careful event) :
    (exports.act event).Sound := by
  cases event with
  | prepare push => exact sound.prepare push
  | resync push => exact sound.resync push
  | submit request queueUp => exact sound.submit careful
  | markStale push => exact sound.markStale push
  | begin key => exact sound.begin careful
  | refresh key => exact sound.refresh key
  | complete key => exact sound.complete key
  | raise key error => exact sound.raise key error
  | settle key => exact sound.settle key
  | crash key => exact sound.setPhase key nofun
  | drop key => exact sound.remove key
  | startSweep =>
      exact { sound with
        dead := by
          intro sweep held push lost
          rcases List.mem_append.mp held with before | new
          · exact sound.dead sweep before push lost
          · rw [List.mem_singleton.mp new] at lost
            simp at lost }
  | checkNext sweep => exact sound.checkNext careful
  | commitSweep sweep => exact sound.commitSweep sweep

theorem Sound.step (sound : exports.Sound) (event : ExportEvent) (careful : exports.Careful event) :
    (exports.step event).Sound :=
  { sound.act event careful with }

theorem sound_initial : Sound {} := by
  constructor <;> simp

theorem kept_of_flush {row : PushRow} {seen : PushStatus} (member : row ∈ exports.pushes) (other : row.id ≠ push) :
    row ∈ (exports.flush push seen status).pushes := by
  unfold Exports.flush
  split
  · exact List.mem_map.mpr ⟨row, member, if_neg other⟩
  · exact member

theorem Sound.kept_running (sound : exports.Sound) (found : exports.job key = some job)
    (running : job.isRunning = true) {row : PushRow} (member : row ∈ exports.pushes) (ended : Ended row)
    (older : job.born < row.since) : row.id ≠ job.push := by
  intro own
  have reach := sound.running job (mem_of_job found).1 running row member own ended
  omega

theorem Sound.kept_complete (sound : exports.Sound) (found : exports.job key = some job) {row : PushRow}
    (member : row ∈ exports.pushes) (ended : Ended row) (older : job.born < row.since) :
    row ∈ (exports.complete key).pushes := by
  simp only [Exports.complete, found]
  split
  · rename_i phase
    exact kept_of_flush member (sound.kept_running found (by simp [ExportJob.isRunning, phase]) member ended older)
  · exact member

theorem Sound.kept_raise (sound : exports.Sound) (error : ExportError) (found : exports.job key = some job)
    {row : PushRow} (member : row ∈ exports.pushes) (ended : Ended row) (older : job.born < row.since) :
    row ∈ (exports.raise key error).pushes := by
  simp only [Exports.raise, found]
  split
  · rename_i phase
    have other := sound.kept_running found (by simp [ExportJob.isRunning, phase]) member ended older
    cases error with
    | throttled requeued => cases requeued <;> exact member
    | unavailable => exact member
    | permanent => exact kept_of_flush member other
    | transient =>
        simp only
        split
        · exact member
        · exact kept_of_flush member other
  · exact member

theorem Sound.kept_commitSweep (sound : exports.Sound) {sweep : DriftSweep} {row : PushRow}
    (member : row ∈ exports.pushes) (ended : Ended row) : row ∈ (exports.commitSweep sweep).pushes := by
  unfold Exports.commitSweep
  split
  · rename_i swept
    refine List.mem_map.mpr ⟨row, member, ?_⟩
    split
    · rename_i lost
      have failed := ended.resolve_right ((sound.dead sweep swept.1 row.id lost).2 row member rfl)
      rw [PushRow.write, if_pos failed]
    · rfl
  · exact member

theorem Sound.respects (sound : exports.Sound) (event : ExportEvent) : exports.Respects event where
  live job member swept := by
    cases event with
    | commitSweep sweep =>
        simp only [Exports.swept] at swept
        split at swept
        · rename_i held
          exact (sound.dead sweep held.1 job.push swept).1 job member rfl
        · simp at swept
    | _ => simp [Exports.swept] at swept
  ended row member ended author wrote own older := by
    cases event with
    | commitSweep sweep => exact sound.kept_commitSweep member ended
    | complete key =>
        obtain ⟨job, found, rfl⟩ := by simpa [authors] using wrote
        exact sound.kept_complete found member ended older
    | raise key error =>
        obtain ⟨job, found, rfl⟩ := by simpa [authors] using wrote
        exact sound.kept_raise error found member ended older
    | begin key =>
        simp only [Exports.step, Exports.act, Exports.begin]
        split
        · exact member
        · split
          · exact member
          · split <;> exact member
    | refresh key =>
        simp only [Exports.step, Exports.act, Exports.refresh]
        split
        · exact member
        · split
          · exact member
          · split <;> exact member
    | settle key =>
        simp only [Exports.step, Exports.act, Exports.settle]
        split
        · exact member
        · split <;> exact member
    | crash | drop => exact member
    | prepare | resync | submit | markStale | startSweep | checkNext => simp [authors] at wrote

/-- In a run of careful steps every step respects live exports and ended pushes. -/
theorem live_exports_not_swept (events : List ExportEvent) (careful : Along Exports.step Careful {} events)
    (front : List ExportEvent) (event : ExportEvent) (back : List ExportEvent)
    (split : events = front ++ event :: back) : (play Exports.step {} front).Respects event := by
  subst split
  have kept : ∀ state event, Sound state → state.Careful event → (state.step event).Sound :=
    fun _ event sound careful => sound.step event careful
  exact ((along_append.mp careful).1.invariant kept sound_initial).respects event

def sampleExports : List ExportEvent :=
  [.prepare 1, .submit ⟨1, .failed⟩ true, .drop (.push 1), .startSweep, .checkNext ⟨3, [1], []⟩,
    .commitSweep ⟨3, [], [1]⟩, .prepare 1, .submit ⟨1, .failed⟩ true, .begin (.push 1)]

theorem live_exports_not_swept_sample :
    (play Exports.step {} sampleExports).Respects (.complete (.push 1)) :=
  live_exports_not_swept (sampleExports ++ [.complete (.push 1)]) (by decide) sampleExports _ [] rfl

def throttledExports : List ExportEvent :=
  [.prepare 1, .submit ⟨1, .failed⟩ true, .begin (.push 1), .raise (.push 1) (.throttled true), .settle (.push 1),
    .startSweep, .checkNext ⟨5, [1], []⟩]

theorem throttled_export_swept :
    ¬(play Exports.step {} throttledExports).Respects (.commitSweep ⟨5, [], [1]⟩) ∧
      ¬(play Exports.step {} (throttledExports ++ [.commitSweep ⟨5, [], [1]⟩, .begin (.fresh 0)])).Respects
        (.complete (.fresh 0)) := by
  constructor
  · intro respects
    exact respects.live ⟨.fresh 0, 1, 0, 3, .queued⟩ (by decide) (by decide)
  · intro respects
    have kept := respects.ended ⟨1, .failed, 7⟩ (by decide) (Or.inl rfl) (1, 3) (by decide) rfl (by decide)
    revert kept
    decide

end Exports

end Thought2Build.Integrations
