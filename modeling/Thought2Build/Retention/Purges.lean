import Thought2Build.Retention.RetentionCore

/-!
A row that a batch deletes is what it was selected as, unless its owner writes it between the two statements.
What makes a version or a storyboard one of the newest never comes back; a trashed workspace takes its rows along.
-/

namespace Thought2Build.Retention

open Histories

def Fresh (ids : List Nat) (nextId : Nat) : Prop := ids.Nodup ∧ ∀ id ∈ ids, id < nextId

instance (ids : List Nat) (nextId : Nat) : Decidable (Fresh ids nextId) := inferInstanceAs (Decidable (_ ∧ _))

theorem Fresh.sublist {ids fewer : List Nat} {nextId : Nat} (fresh : Fresh ids nextId) (some : fewer.Sublist ids) :
    Fresh fewer nextId :=
  ⟨fresh.1.sublist some, fun id member => fresh.2 id (some.subset member)⟩

theorem Fresh.mono {ids : List Nat} {nextId : Nat} (fresh : Fresh ids nextId) : Fresh ids (nextId + 1) :=
  ⟨fresh.1, fun id member => (fresh.2 id member).trans (Nat.lt_succ_self nextId)⟩

theorem Fresh.concat {ids : List Nat} {nextId : Nat} (fresh : Fresh ids nextId) :
    Fresh (ids ++ [nextId]) (nextId + 1) := by
  constructor
  · refine fresh.1.append (List.nodup_singleton nextId) ?_
    intro id before last
    rw [List.mem_singleton.mp last] at before
    exact absurd (fresh.2 nextId before) (Nat.lt_irrefl nextId)
  · intro id member
    rcases List.mem_append.mp member with before | last
    · exact (fresh.2 id before).trans (Nat.lt_succ_self nextId)
    · rw [List.mem_singleton.mp last]
      exact Nat.lt_succ_self nextId

section

variable {α : Type} {key : α → Nat} {change : α → α} {rows : List α} {id : Nat}

theorem map_update (keys : ∀ row, key (change row) = key row) :
    (rows.map fun row => if key row = id then change row else row).map key = rows.map key := by
  rw [List.map_map]
  refine List.map_congr_left fun row _ => ?_
  simp only [Function.comp_apply]
  split
  · exact keys row
  · rfl

theorem mem_update {row : α} (member : row ∈ rows.map fun row => if key row = id then change row else row)
    (keys : ∀ row, key (change row) = key row) (other : key row ≠ id) : row ∈ rows := by
  obtain ⟨former, before, rfl⟩ := List.mem_map.mp member
  split at other
  · rename_i own
    exact absurd ((keys former).trans own) other
  · rename_i differs
    rwa [if_neg differs]

end

namespace Database

variable {settings : RetentionSettings} {db later : Database} {clock now : Int} {id nextId : Nat} {ids : List Nat}

def GuardsWorkspace (settings : RetentionSettings) (clock : Int) (row : WorkspaceRow) : Prop :=
  isTrashed settings clock row = false

def GuardsPush (row : PushRow) : Prop := row.status ≠ .failed

def GuardsStoryboard (settings : RetentionSettings) (db : Database) (row : StoryboardRow) : Prop :=
  row.publicShareEnabled = true ∨ row.status = .generating ∨ db.storyboardRank row < settings.storyboardsKeep

def IsCurrent (db : Database) (row : VersionRow) : Prop :=
  ∃ stage ∈ db.stages, stage.id = row.stageId ∧ stage.currentVersion = row.version

def GuardsVersion (settings : RetentionSettings) (db : Database) (row : VersionRow) : Prop :=
  db.IsCurrent row ∨ db.versionRank row < settings.stageVersionsKeep ∨ db.isReferenced row.id = true

/-- What a batch of a job may hold: an id under which its table has no guarded row. The references to versions are
left to the foreign key. -/
def Unguarded (settings : RetentionSettings) (db : Database) (clock : Int) (id : Nat) : PurgeJob → Prop
  | .telemetry => True
  | .failedPushes => ∀ row ∈ db.pushes, row.id = id → ¬GuardsPush row
  | .stageVersions => ∀ row ∈ db.versions, row.id = id →
      ¬db.IsCurrent row ∧ settings.stageVersionsKeep ≤ db.versionRank row
  | .storyboards => ∀ row ∈ db.storyboards, row.id = id → ¬db.GuardsStoryboard settings row
  | .trashedWorkspaces => ∀ row ∈ db.workspaces, row.id = id → ¬GuardsWorkspace settings clock row

instance (row : WorkspaceRow) : Decidable (GuardsWorkspace settings clock row) :=
  inferInstanceAs (Decidable (_ = _))

instance (row : PushRow) : Decidable (GuardsPush row) := inferInstanceAs (Decidable (_ ≠ _))

instance (row : StoryboardRow) : Decidable (db.GuardsStoryboard settings row) :=
  inferInstanceAs (Decidable (_ ∨ _ ∨ _))

instance (row : VersionRow) : Decidable (db.IsCurrent row) :=
  inferInstanceAs (Decidable (∃ stage ∈ db.stages, _))

instance (row : VersionRow) : Decidable (db.GuardsVersion settings row) :=
  inferInstanceAs (Decidable (_ ∨ _ ∨ _))

structure Keyed (db : Database) (nextId : Nat) : Prop where
  rows : ∀ job, Fresh (db.ids job) nextId
  stages : Fresh (db.stages.map (·.id)) nextId
  versions : ∀ row ∈ db.versions, row.stageId < nextId

theorem Keyed.same (keyed : db.Keyed nextId) (rows : ∀ job, later.ids job = db.ids job)
    (stages : later.stages = db.stages) (versions : later.versions = db.versions) : later.Keyed nextId := by
  constructor
  · intro job
    rw [rows]
    exact keyed.rows job
  · rw [stages]
    exact keyed.stages
  · rw [versions]
    exact keyed.versions

theorem Keyed.insert (keyed : db.Keyed nextId)
    (rows : ∀ job, later.ids job = db.ids job ∨ later.ids job = db.ids job ++ [nextId])
    (stages : later.stages.map (·.id) = db.stages.map (·.id) ∨
      later.stages.map (·.id) = db.stages.map (·.id) ++ [nextId])
    (versions : ∀ row ∈ later.versions, row ∈ db.versions ∨ row.stageId ∈ db.stages.map (·.id)) :
    later.Keyed (nextId + 1) := by
  constructor
  · intro job
    rcases rows job with same | grown
    · rw [same]
      exact (keyed.rows job).mono
    · rw [grown]
      exact (keyed.rows job).concat
  · rcases stages with same | grown
    · rw [same]
      exact keyed.stages.mono
    · rw [grown]
      exact keyed.stages.concat
  · intro row member
    rcases versions row member with before | stage
    · exact (keyed.versions row before).trans (Nat.lt_succ_self nextId)
    · exact (keyed.stages.2 row.stageId stage).trans (Nat.lt_succ_self nextId)

theorem isTrashed_mono (le : now ≤ clock) {row : WorkspaceRow} (trashed : isTrashed settings now row = true) :
    isTrashed settings clock row = true := by
  unfold isTrashed at *
  rw [Bool.and_eq_true, Option.any_eq_true] at *
  obtain ⟨archived, archivedAt, known, expired⟩ := trashed
  refine ⟨archived, archivedAt, known, ?_⟩
  rw [decide_eq_true_eq] at *
  omega

theorem mem_ids_of_candidate {job : PurgeJob} (candidate : id ∈ db.candidates settings now job) :
    id ∈ db.ids job := by
  cases job <;>
  · obtain ⟨row, member, rfl⟩ := List.mem_map.mp candidate
    exact List.mem_map_of_mem (List.mem_filter.mp member).1

theorem unguarded_of_candidate (keyed : db.Keyed nextId) (le : now ≤ clock) {job : PurgeJob}
    (candidate : id ∈ db.candidates settings now job) : db.Unguarded settings clock id job := by
  have unique := (keyed.rows job).1
  cases job with
  | telemetry => trivial
  | failedPushes =>
      obtain ⟨found, member, rfl⟩ := List.mem_map.mp candidate
      obtain ⟨held, failed⟩ := List.mem_filter.mp member
      intro row present same
      obtain rfl := List.inj_on_of_nodup_map unique present held same
      exact not_not.mpr (of_decide_eq_true failed).1
  | stageVersions =>
      obtain ⟨found, member, rfl⟩ := List.mem_map.mp candidate
      obtain ⟨held, old⟩ := List.mem_filter.mp member
      intro row present same
      obtain rfl := List.inj_on_of_nodup_map unique present held same
      simp only [isOldVersion, Bool.and_eq_true, decide_eq_true_eq, List.any_eq_true] at old
      obtain ⟨⟨⟨rank, _⟩, stage, own, id, behind⟩, _⟩ := old
      refine ⟨?_, rank⟩
      rintro ⟨other, also, same, current⟩
      obtain rfl := List.inj_on_of_nodup_map keyed.stages.1 own also (id.trans same.symm)
      exact behind current.symm
  | storyboards =>
      obtain ⟨found, member, rfl⟩ := List.mem_map.mp candidate
      obtain ⟨held, old⟩ := List.mem_filter.mp member
      intro row present same
      obtain rfl := List.inj_on_of_nodup_map unique present held same
      simp only [isOldStoryboard, Bool.and_eq_true, decide_eq_true_eq, Bool.not_eq_true'] at old
      obtain ⟨⟨⟨rank, _⟩, private_⟩, settled⟩ := old
      rintro (shared | generating | newest)
      · rw [private_] at shared
        contradiction
      · exact settled generating
      · exact absurd rank (Nat.not_le.mpr newest)
  | trashedWorkspaces =>
      obtain ⟨found, member, rfl⟩ := List.mem_map.mp candidate
      obtain ⟨held, trashed⟩ := List.mem_filter.mp member
      intro row present same
      obtain rfl := List.inj_on_of_nodup_map unique present held same
      exact Bool.ne_false_iff.mpr (isTrashed_mono le trashed)

/-! What a write leaves of the rows that runs hold -/

structure Keeps (settings : RetentionSettings) (held : PurgeJob → Nat → Prop) (db later : Database) : Prop where
  workspaces : ∀ row ∈ later.workspaces, held .trashedWorkspaces row.id → row ∈ db.workspaces
  pushes : ∀ row ∈ later.pushes, held .failedPushes row.id → row ∈ db.pushes
  storyboards : ∀ row ∈ later.storyboards, held .storyboards row.id → row ∈ db.storyboards ∧
    (settings.storyboardsKeep ≤ db.storyboardRank row → settings.storyboardsKeep ≤ later.storyboardRank row)
  versions : ∀ row ∈ later.versions, held .stageVersions row.id → row ∈ db.versions ∧
    (later.IsCurrent row → db.IsCurrent row) ∧
      (settings.stageVersionsKeep ≤ db.versionRank row → settings.stageVersionsKeep ≤ later.versionRank row)

variable {held : PurgeJob → Nat → Prop} {job : PurgeJob}

theorem Keeps.refl : Keeps settings held db db where
  workspaces _ member _ := member
  pushes _ member _ := member
  storyboards _ member _ := ⟨member, id⟩
  versions _ member _ := ⟨member, id, id⟩

theorem Unguarded.carry (unguarded : db.Unguarded settings now id job) (keeps : Keeps settings held db later)
    (le : now ≤ clock) (holds : held job id) : later.Unguarded settings clock id job := by
  cases job with
  | telemetry => trivial
  | failedPushes =>
      rintro row member rfl
      exact unguarded row (keeps.pushes row member holds) rfl
  | stageVersions =>
      rintro row member rfl
      obtain ⟨before, current, rank⟩ := keeps.versions row member holds
      obtain ⟨behind, old⟩ := unguarded row before rfl
      exact ⟨fun now => behind (current now), rank old⟩
  | storyboards =>
      rintro row member rfl
      obtain ⟨before, rank⟩ := keeps.storyboards row member holds
      have free := unguarded row before rfl
      rintro (shared | generating | newest)
      · exact free (Or.inl shared)
      · exact free (Or.inr (Or.inl generating))
      · refine free (Or.inr (Or.inr (Nat.lt_of_not_le fun old => ?_)))
        exact absurd (rank old) (Nat.not_le.mpr newest)
  | trashedWorkspaces =>
      rintro row member rfl kept
      have trashed := Bool.ne_false_iff.mp (unguarded row (keeps.workspaces row member holds) rfl)
      exact Bool.ne_false_iff.mpr (isTrashed_mono le trashed) kept

theorem delete_eq (deletes : db.delete job ids = some later) :
    later = db.remove ids job ∧ db.breaks later = false := by
  unfold delete at deletes
  dsimp only at deletes
  split at deletes
  · contradiction
  · rename_i holds
    obtain rfl := Option.some.inj deletes
    exact ⟨rfl, Bool.eq_false_of_not_eq_true holds⟩

theorem ids_remove (job own : PurgeJob) : ((db.remove ids job).ids own).Sublist (db.ids own) := by
  cases job <;> cases own <;> first | exact List.Sublist.refl _ | exact List.filter_sublist.map _

theorem ids_remove_own (ids : List Nat) (job : PurgeJob) :
    (db.remove ids job).ids job = (db.ids job).filter (· ∉ ids) := by
  cases job <;> simp [Database.ids, remove, List.filter_map, Function.comp_def]

theorem length_remove (unique : (db.ids job).Nodup) (ids : List Nat) :
    (db.ids job).length - ((db.remove ids job).ids job).length ≤ ids.length := by
  have split := @List.length_eq_length_filter_add _ (db.ids job) (· ∉ ids)
  have batch : ((db.ids job).filter fun id => !decide (id ∉ ids)).length ≤ ids.length := by
    refine (List.subperm_of_subset (unique.filter _) ?_).length_le
    intro id member
    simpa using (List.mem_filter.mp member).2
  rw [ids_remove_own]
  omega

theorem Keyed.remove (keyed : db.Keyed nextId) (ids : List Nat) (job : PurgeJob) :
    (db.remove ids job).Keyed nextId := by
  refine ⟨fun own => (keyed.rows own).sublist (ids_remove job own), ?_, ?_⟩
  · refine keyed.stages.sublist ?_
    cases job <;> first | exact List.Sublist.refl _ | exact List.filter_sublist.map _
  · intro row member
    refine keyed.versions row ?_
    cases job <;> first | exact member | exact (List.mem_filter.mp member).1

theorem versionRank_remove {row : VersionRow} (member : row ∈ (db.remove ids .trashedWorkspaces).versions)
    (old : settings.stageVersionsKeep ≤ db.versionRank row) :
    settings.stageVersionsKeep ≤ (db.remove ids .trashedWorkspaces).versionRank row := by
  refine Newest.rank_filter _ ?_ old
  intro other _ leaves same
  have stays := (List.mem_filter.mp member).2
  rw [← same] at stays
  exact absurd (stays.symm.trans leaves) (by decide)

theorem storyboardRank_remove {row : StoryboardRow} (member : row ∈ (db.remove ids .trashedWorkspaces).storyboards)
    (old : settings.storyboardsKeep ≤ db.storyboardRank row) :
    settings.storyboardsKeep ≤ (db.remove ids .trashedWorkspaces).storyboardRank row := by
  refine Newest.rank_filter _ ?_ old
  intro other _ leaves same
  have stays := (List.mem_filter.mp member).2
  rw [← same] at stays
  exact absurd (stays.symm.trans leaves) (by decide)

theorem keeps_remove (unguarded : ∀ id ∈ ids, db.Unguarded settings clock id job) :
    Keeps settings held db (db.remove ids job) := by
  cases job with
  | telemetry => exact { Keeps.refl with }
  | failedPushes =>
      exact { Keeps.refl with pushes := fun row member _ => (List.mem_filter.mp member).1 }
  | stageVersions =>
      refine { Keeps.refl with versions := ?_ }
      intro row member _
      refine ⟨(List.mem_filter.mp member).1, id, Newest.rank_filter _ ?_⟩
      intro other before leaves _
      have batch : other.id ∈ ids := by simpa using leaves
      exact (unguarded other.id batch other before rfl).2
  | storyboards =>
      refine { Keeps.refl with storyboards := ?_ }
      intro row member _
      refine ⟨(List.mem_filter.mp member).1, Newest.rank_filter _ ?_⟩
      intro other before leaves _
      have batch : other.id ∈ ids := by simpa using leaves
      refine Nat.le_of_not_lt fun newest => ?_
      exact unguarded other.id batch other before rfl (Or.inr (Or.inr newest))
  | trashedWorkspaces =>
      constructor
      · exact fun row member _ => (List.mem_filter.mp member).1
      · exact fun row member _ => (List.mem_filter.mp member).1
      · exact fun row member _ => ⟨(List.mem_filter.mp member).1, storyboardRank_remove member⟩
      · intro row member _
        refine ⟨(List.mem_filter.mp member).1, ?_, versionRank_remove member⟩
        rintro ⟨stage, stays, current⟩
        exact ⟨stage, (List.mem_filter.mp stays).1, current⟩

theorem gone_cases {own : PurgeJob} (member : id ∈ db.ids own) (gone : id ∉ (db.remove ids job).ids own) :
    own = job ∧ id ∈ ids ∨ own ≠ job ∧ job = .trashedWorkspaces := by
  by_cases same : own = job
  · subst same
    refine Or.inl ⟨rfl, ?_⟩
    by_contra stays
    rw [ids_remove_own] at gone
    exact gone (List.mem_filter.mpr ⟨member, by simpa using stays⟩)
  · refine Or.inr ⟨same, ?_⟩
    cases job <;> cases own <;> first | rfl | exact absurd member gone | exact absurd rfl same

theorem mem_gone {workspaceId : Nat} (gone : workspaceId ∈ (db.workspaces.filter (·.id ∈ ids)).map (·.id)) :
    ∃ row ∈ db.workspaces, row.id = workspaceId ∧
      row.id ∉ (db.remove ids .trashedWorkspaces).ids .trashedWorkspaces := by
  obtain ⟨row, member, same⟩ := List.mem_map.mp gone
  obtain ⟨present, batch⟩ := List.mem_filter.mp member
  refine ⟨row, present, same, ?_⟩
  rw [ids_remove_own]
  intro stays
  simp_all

theorem not_isReferenced (unbroken : db.breaks (db.remove ids .stageVersions) = false) (member : id ∈ ids)
    (present : id ∈ db.ids .stageVersions) : db.isReferenced id = false := by
  by_contra referenced
  rw [Bool.not_eq_false, isReferenced, List.any_eq_true] at referenced
  obtain ⟨push, live, source⟩ := referenced
  obtain ⟨row, held, rfl⟩ := List.mem_map.mp present
  refine absurd unbroken (Bool.ne_false_iff.mpr (List.any_eq_true.mpr ⟨push, live, ?_⟩))
  rw [of_decide_eq_true source]
  simp only [Option.any_some, hasVersion, Bool.and_eq_true, Bool.not_eq_true', List.any_eq_true,
    List.any_eq_false, decide_eq_true_eq]
  refine ⟨⟨row, held, rfl⟩, ?_⟩
  intro other stays same
  exact absurd member (by simpa [same] using (List.mem_filter.mp stays).2)

theorem keeps_workspaces {workspaces : List WorkspaceRow}
    (rows : ∀ row ∈ workspaces, held .trashedWorkspaces row.id → row ∈ db.workspaces) :
    Keeps settings held db { db with workspaces } :=
  { Keeps.refl with workspaces := rows }

theorem keeps_pushes {pushes : List PushRow} (rows : ∀ row ∈ pushes, held .failedPushes row.id → row ∈ db.pushes) :
    Keeps settings held db { db with pushes } :=
  { Keeps.refl with pushes := rows }

theorem keeps_createStage (keyed : db.Keyed nextId) (workspaceId : Nat) :
    Keeps settings held db { db with stages := db.stages ++ [{ id := nextId, workspaceId }] } := by
  refine { Keeps.refl with versions := ?_ }
  intro row member _
  refine ⟨member, ?_, id⟩
  rintro ⟨stage, present, own, current⟩
  rcases List.mem_append.mp present with before | last
  · exact ⟨stage, before, own, current⟩
  · rw [List.mem_singleton.mp last] at own
    exact absurd (keyed.versions row member) (by rw [← own]; exact Nat.lt_irrefl nextId)

theorem keeps_addVersion (fresh : ∀ id, held .stageVersions id → id ≠ nextId) {stageId read : Nat}
    (unused : ¬∃ row ∈ db.versions, row.stageId = stageId ∧ row.version = read + 1) (createdAt : Int) :
    Keeps settings held db { db with
      stages := db.stages.map fun row => if row.id = stageId then { row with currentVersion := read + 1 } else row
      versions := db.versions ++ [{ id := nextId, stageId, version := read + 1, createdAt }] } := by
  refine { Keeps.refl with versions := ?_ }
  intro row member holds
  rcases List.mem_append.mp member with before | last
  · refine ⟨before, ?_, fun old => old.trans (Newest.rank_append _)⟩
    rintro ⟨stage, present, own, current⟩
    obtain ⟨former, also, rfl⟩ := List.mem_map.mp present
    by_cases written : former.id = stageId
    · rw [if_pos written] at own current
      exact absurd ⟨row, before, own.symm.trans written, current.symm⟩ unused
    · rw [if_neg written] at own current
      exact ⟨former, also, own, current⟩
  · rw [List.mem_singleton.mp last] at holds
    exact absurd rfl (fresh nextId holds)

theorem keeps_createStoryboard (fresh : ∀ id, held .storyboards id → id ≠ nextId) (workspaceId version : Nat)
    (createdAt : Int) : Keeps settings held db { db with
      storyboards := db.storyboards ++ [{ id := nextId, workspaceId, version, createdAt }] } := by
  refine { Keeps.refl with storyboards := ?_ }
  intro row member holds
  rcases List.mem_append.mp member with before | last
  · exact ⟨before, fun old => old.trans (Newest.rank_append _)⟩
  · rw [List.mem_singleton.mp last] at holds
    exact absurd rfl (fresh nextId holds)

theorem keeps_setStoryboard (free : ¬held .storyboards id) (status : StoryboardStatus) (publicShareEnabled : Bool) :
    Keeps settings held db { db with
      storyboards := db.storyboards.map fun row =>
        if row.id = id then { row with status, publicShareEnabled } else row } := by
  refine { Keeps.refl with storyboards := ?_ }
  intro row member holds
  have differs : row.id ≠ id := fun own => free (own ▸ holds)
  refine ⟨mem_update member (fun row => rfl) differs, fun old => old.trans ?_⟩
  have same := @Newest.rank_map StoryboardRow Nat _ StoryboardRow.workspaceId StoryboardRow.version db.storyboards
    (fun row => if row.id = id then { row with status, publicShareEnabled } else row)
    (fun other => by split <;> rfl) (fun other => by split <;> rfl) row
  rw [if_neg differs] at same
  exact same.ge

end Database

def RunPoint.Holds (job : PurgeJob) (id : Nat) : RunPoint → Prop
  | .between .. => False
  | .deleting own _ _ _ _ ids => own = job ∧ id ∈ ids

def RunPoint.Counts (settings : RetentionSettings) (clock : Int) : RunPoint → Prop
  | .between _ now counted removed => now ≤ clock ∧ removed ≤ counted ∧ counted ≤ settings.maxRowsPerRun
  | .deleting _ now counted removed _ ids =>
      now ≤ clock ∧ removed ≤ counted ∧ counted + ids.length ≤ settings.maxRowsPerRun

instance (job : PurgeJob) (id : Nat) (point : RunPoint) : Decidable (point.Holds job id) := by
  unfold RunPoint.Holds
  split <;> infer_instance

def Held (runs : Workers RunPoint) (job : PurgeJob) (id : Nat) : Prop :=
  ¬runs.All fun _ point => ¬point.Holds job id

instance (runs : Workers RunPoint) (job : PurgeJob) (id : Nat) : Decidable (Held runs job id) :=
  inferInstanceAs (Decidable (¬_))

section

variable {runs : Workers RunPoint} {job : PurgeJob} {id key : Nat} {point : RunPoint}

theorem held_of_lookup (found : runs.lookup key = some point) (holds : point.Holds job id) : Held runs job id :=
  fun none => none.at found holds

theorem held_insert (held : Held (runs.insert key point) job id) : point.Holds job id ∨ Held runs job id := by
  by_contra neither
  obtain ⟨own, others⟩ := not_or.mp neither
  exact held ((not_not.mp others).insert own)

theorem held_erase (held : Held (runs.erase key) job id) : Held runs job id :=
  fun none => held (none.erase key)

end

namespace Purges

open Database

variable {settings : RetentionSettings} {purges : Purges} {job : PurgeJob} {key id : Nat} {ids : List Nat}

def Careful (purges : Purges) : RetentionEvent → Prop
  | .archive loaded _ | .restore loaded => ¬Held purges.runs .trashedWorkspaces loaded.id
  | .setPush id _ _ => ¬Held purges.runs .failedPushes id
  | .setStoryboard id _ _ => ¬Held purges.runs .storyboards id
  | _ => True

instance (event : RetentionEvent) : Decidable (purges.Careful event) := by
  unfold Careful
  split <;> infer_instance

structure Sound (settings : RetentionSettings) (purges : Purges) : Prop where
  keyed : purges.db.Keyed purges.nextId
  counts : purges.runs.All fun _ point => point.Counts settings purges.clock
  held : ∀ job id, Held purges.runs job id → id < purges.nextId ∧ purges.db.Unguarded settings purges.clock id job
  finished : ∀ removed ∈ purges.finished, removed ≤ settings.maxRowsPerRun

theorem Sound.write (sound : purges.Sound settings) {db : Database} {nextId : Nat} (keyed : db.Keyed nextId)
    (keeps : Keeps settings (Held purges.runs) purges.db db) (le : purges.nextId ≤ nextId) :
    Sound settings { purges with db, nextId } where
  keyed := keyed
  counts := sound.counts
  held job id holds :=
    ⟨(sound.held job id holds).1.trans_le le, (sound.held job id holds).2.carry keeps (Int.le_refl _) holds⟩
  finished := sound.finished

theorem Sound.wait (sound : purges.Sound settings) (seconds : Nat) :
    Sound settings { purges with clock := purges.clock + seconds } := by
  have le : purges.clock ≤ purges.clock + seconds := by omega
  refine { sound with counts := sound.counts.mono ?_, held := ?_ }
  · intro key point counts
    cases point <;> exact ⟨counts.1.trans le, counts.2⟩
  · intro job id holds
    exact ⟨(sound.held job id holds).1, (sound.held job id holds).2.carry Keeps.refl le holds⟩

theorem Sound.moves (sound : purges.Sound settings) {point : RunPoint} (counts : point.Counts settings purges.clock)
    (free : ∀ job id, point.Holds job id → id < purges.nextId ∧ purges.db.Unguarded settings purges.clock id job)
    (key : Nat) : Sound settings { purges with runs := purges.runs.insert key point } where
  keyed := sound.keyed
  counts := sound.counts.insert counts
  held job id holds := (held_insert holds).elim (free job id) (sound.held job id)
  finished := sound.finished

theorem Sound.endRun (sound : purges.Sound settings) {removed : Nat} (le : removed ≤ settings.maxRowsPerRun)
    (key : Nat) : (purges.endRun key removed).Sound settings where
  keyed := sound.keyed
  counts := sound.counts.erase key
  held job id holds := sound.held job id (held_erase holds)
  finished := by
    intro other member
    rcases List.mem_append.mp member with before | last
    · exact sound.finished other before
    · rwa [List.mem_singleton.mp last]

theorem Sound.startRun (sound : purges.Sound settings) (key : Nat) (job : PurgeJob) :
    (purges.startRun key job).Sound settings := by
  unfold Purges.startRun
  split
  · exact sound
  · refine sound.moves ?_ ?_ key
    · exact ⟨Int.le_refl _, Nat.le_refl 0, Nat.zero_le _⟩
    · exact fun _ _ holds => holds.elim

theorem Sound.selectBatch (sound : purges.Sound settings) (key : Nat) (ids : List Nat) :
    (purges.selectBatch settings key ids).Sound settings := by
  unfold Purges.selectBatch
  split
  · rename_i job now counted removed found
    obtain ⟨past, within, capped⟩ := sound.counts.at found
    dsimp only
    split
    · exact sound.endRun (within.trans capped) key
    · split
      · rename_i answers
        obtain ⟨_, candidates, length⟩ := answers
        split
        · exact sound.endRun (within.trans capped) key
        · refine sound.moves ?_ ?_ key
          · have room : ids.length ≤ settings.maxRowsPerRun - counted :=
              length.le.trans ((min_le_left _ _).trans (min_le_right _ _))
            clear length
            exact ⟨past, within, by omega⟩
          · rintro own id ⟨rfl, member⟩
            have candidate := candidates id member
            exact ⟨(sound.keyed.rows job).2 id (mem_ids_of_candidate candidate),
              unguarded_of_candidate sound.keyed past candidate⟩
      · exact sound
  · exact sound

theorem Sound.deleteBatch (sound : purges.Sound settings) (key : Nat) :
    (purges.deleteBatch key).Sound settings := by
  unfold Purges.deleteBatch
  split
  · rename_i job now counted removed limit ids found
    obtain ⟨past, within, capped⟩ := sound.counts.at found
    split
    · exact sound.endRun (by omega) key
    · rename_i db deletes
      obtain ⟨rfl, _⟩ := delete_eq deletes
      have few := length_remove (sound.keyed.rows job).1 ids
      have unguarded : ∀ id ∈ ids, purges.db.Unguarded settings purges.clock id job :=
        fun id member => (sound.held job id (held_of_lookup found ⟨rfl, member⟩)).2
      have deleted := sound.write (sound.keyed.remove ids job) (keeps_remove unguarded) (Nat.le_refl _)
      dsimp only
      split
      · exact deleted.endRun (by omega) key
      · refine deleted.moves ?_ ?_ key
        · exact ⟨past, by omega, capped⟩
        · exact fun _ _ holds => holds.elim
  · exact sound

theorem Sound.failRun (sound : purges.Sound settings) (key : Nat) : (purges.failRun key).Sound settings := by
  unfold Purges.failRun
  split
  · rename_i found
    obtain ⟨_, within, capped⟩ := sound.counts.at found
    exact sound.endRun (within.trans capped) key
  · rename_i found
    obtain ⟨_, within, capped⟩ := sound.counts.at found
    exact sound.endRun (by omega) key
  · exact sound

theorem Sound.ne_next (sound : purges.Sound settings) (held : Held purges.runs job id) : id ≠ purges.nextId :=
  (sound.held job id held).1.ne

theorem Sound.insert (sound : purges.Sound settings) {db : Database}
    (rows : ∀ job, db.ids job = purges.db.ids job ∨ db.ids job = purges.db.ids job ++ [purges.nextId])
    (stages : db.stages.map (·.id) = purges.db.stages.map (·.id) ∨
      db.stages.map (·.id) = purges.db.stages.map (·.id) ++ [purges.nextId])
    (versions : ∀ row ∈ db.versions, row ∈ purges.db.versions ∨ row.stageId ∈ purges.db.stages.map (·.id))
    (keeps : Keeps settings (Held purges.runs) purges.db db) : (purges.insert db).Sound settings :=
  sound.write (sound.keyed.insert rows stages versions) keeps (Nat.le_succ _)

theorem Sound.update (sound : purges.Sound settings) {db : Database}
    (rows : ∀ job, db.ids job = purges.db.ids job) (stages : db.stages = purges.db.stages)
    (versions : db.versions = purges.db.versions)
    (keeps : Keeps settings (Held purges.runs) purges.db db) : (purges.write db).Sound settings :=
  sound.write (sound.keyed.same rows stages versions) keeps (Nat.le_refl _)

theorem Sound.createWorkspace (sound : purges.Sound settings) : (purges.insert { purges.db with
    workspaces := purges.db.workspaces ++ [{ id := purges.nextId }] }).Sound settings := by
  refine sound.insert ?_ (Or.inl rfl) (fun row member => Or.inl member) (keeps_workspaces ?_)
  · intro job
    cases job <;> simp [ids]
  · intro row member held
    rcases List.mem_append.mp member with before | last
    · exact before
    · rw [List.mem_singleton.mp last] at held
      exact absurd rfl (sound.ne_next held)

theorem Sound.writeWorkspace (sound : purges.Sound settings) {loaded : WorkspaceRow}
    (free : ¬Held purges.runs .trashedWorkspaces loaded.id) (written : WorkspaceRow) :
    (purges.writeWorkspace loaded written).Sound settings := by
  refine sound.update ?_ rfl rfl (keeps_workspaces ?_)
  · intro job
    cases job <;> first | rfl | exact map_update fun row => rfl
  · intro row member held
    exact mem_update member (fun row => rfl) fun own => free (own ▸ held)

theorem Sound.createStage (sound : purges.Sound settings) (workspaceId : Nat) :
    (purges.createStage workspaceId).Sound settings := by
  unfold Purges.createStage
  split
  · refine sound.insert (fun job => Or.inl rfl) (Or.inr (by simp)) (fun row member => Or.inl member) ?_
    exact keeps_createStage sound.keyed workspaceId
  · exact sound

theorem Sound.addVersion (sound : purges.Sound settings) (stageId read : Nat) :
    (purges.addVersion stageId read).Sound settings := by
  unfold Purges.addVersion
  split
  · rename_i possible
    obtain ⟨⟨stage, present, rfl⟩, unused⟩ := possible
    refine sound.insert ?_ (Or.inl (map_update fun row => rfl)) ?_ ?_
    · intro job
      cases job <;> simp [ids]
    · intro row member
      refine (List.mem_append.mp member).imp_right fun last => ?_
      rw [List.mem_singleton.mp last]
      exact List.mem_map_of_mem present
    · exact keeps_addVersion (fun id => sound.ne_next) unused purges.clock
  · exact sound

theorem Sound.createPush (sound : purges.Sound settings) (workspaceId : Nat) (source : Option Nat) :
    (purges.createPush workspaceId source).Sound settings := by
  unfold Purges.createPush
  split
  · refine sound.insert ?_ (Or.inl rfl) (fun row member => Or.inl member) (keeps_pushes ?_)
    · intro job
      cases job <;> simp [ids]
    · intro row member held
      rcases List.mem_append.mp member with before | last
      · exact before
      · rw [List.mem_singleton.mp last] at held
        exact absurd rfl (sound.ne_next held)
  · exact sound

theorem Sound.setPush (sound : purges.Sound settings) (free : ¬Held purges.runs .failedPushes id)
    (status : PushStatus) (source : Option Nat) : (purges.setPush id status source).Sound settings := by
  unfold Purges.setPush
  split
  · refine sound.update ?_ rfl rfl (keeps_pushes ?_)
    · intro job
      cases job <;> first | rfl | exact map_update fun row => rfl
    · intro row member held
      exact mem_update member (fun row => rfl) fun own => free (own ▸ held)
  · exact sound

theorem Sound.createStoryboard (sound : purges.Sound settings) (workspaceId version : Nat) :
    (purges.createStoryboard workspaceId version).Sound settings := by
  unfold Purges.createStoryboard
  split
  · refine sound.insert ?_ (Or.inl rfl) (fun row member => Or.inl member) ?_
    · intro job
      cases job <;> simp [ids]
    · exact keeps_createStoryboard (fun id => sound.ne_next) workspaceId version purges.clock
  · exact sound

theorem Sound.setStoryboard (sound : purges.Sound settings) (free : ¬Held purges.runs .storyboards id)
    (status : StoryboardStatus) (publicShareEnabled : Bool) :
    (purges.setStoryboard id status publicShareEnabled).Sound settings := by
  refine sound.update ?_ rfl rfl (keeps_setStoryboard free status publicShareEnabled)
  intro job
  cases job <;> first | rfl | exact map_update fun row => rfl

theorem Sound.createTelemetry (sound : purges.Sound settings) (row : TelemetryRow) :
    (purges.insert { purges.db with
      telemetry := purges.db.telemetry ++ [{ row with id := purges.nextId }] }).Sound settings := by
  refine sound.insert ?_ (Or.inl rfl) (fun row member => Or.inl member) { Keeps.refl with }
  intro job
  cases job <;> simp [ids]

theorem Sound.step (sound : purges.Sound settings) {event : RetentionEvent} (careful : purges.Careful event) :
    (purges.step settings event).Sound settings := by
  cases event with
  | startRun key job => exact sound.startRun key job
  | selectBatch key ids => exact sound.selectBatch key ids
  | deleteBatch key => exact sound.deleteBatch key
  | failRun key => exact sound.failRun key
  | createWorkspace => exact sound.createWorkspace
  | archive loaded ackVersion => exact sound.writeWorkspace careful _
  | restore loaded =>
      simp only [Purges.step, Purges.restore]
      split
      · exact sound.writeWorkspace careful _
      · exact sound
  | createStage workspaceId => exact sound.createStage workspaceId
  | addVersion stageId read => exact sound.addVersion stageId read
  | createPush workspaceId source => exact sound.createPush workspaceId source
  | setPush id status source => exact sound.setPush careful status source
  | createStoryboard workspaceId version => exact sound.createStoryboard workspaceId version
  | setStoryboard id status publicShareEnabled => exact sound.setStoryboard careful status publicShareEnabled
  | createTelemetry row => exact sound.createTelemetry row
  | wait seconds => exact sound.wait seconds

def Goes (settings : RetentionSettings) (purges : Purges) (event : RetentionEvent) (workspaceId : Nat) : Prop :=
  ∃ row ∈ purges.db.workspaces, row.id = workspaceId ∧
    row.id ∉ (purges.step settings event).db.ids .trashedWorkspaces

/-- No guarded row goes, unless its workspace goes, which is not guarded; and no run deletes more than the cap. -/
structure Respects (settings : RetentionSettings) (purges : Purges) (event : RetentionEvent) : Prop where
  workspaces : ∀ row ∈ purges.db.workspaces, row.id ∉ (purges.step settings event).db.ids .trashedWorkspaces →
    ¬GuardsWorkspace settings purges.clock row
  pushes : ∀ row ∈ purges.db.pushes, row.id ∉ (purges.step settings event).db.ids .failedPushes →
    ¬GuardsPush row ∨ purges.Goes settings event row.workspaceId
  storyboards : ∀ row ∈ purges.db.storyboards, row.id ∉ (purges.step settings event).db.ids .storyboards →
    ¬purges.db.GuardsStoryboard settings row ∨ purges.Goes settings event row.workspaceId
  versions : ∀ row ∈ purges.db.versions, row.id ∉ (purges.step settings event).db.ids .stageVersions →
    ¬purges.db.GuardsVersion settings row ∨
      ∃ stage ∈ purges.db.stages, stage.id = row.stageId ∧ purges.Goes settings event stage.workspaceId
  capped : ∀ removed ∈ (purges.step settings event).finished, removed ≤ settings.maxRowsPerRun

structure Deletes (purges : Purges) (db : Database) (job : PurgeJob) (ids : List Nat) : Prop where
  held : ∀ id ∈ ids, Held purges.runs job id
  deletes : purges.db.delete job ids = some db

theorem ids_deleteBatch (purges : Purges) (key : Nat) :
    (∃ job ids, purges.Deletes (purges.deleteBatch key).db job ids) ∨ (purges.deleteBatch key).db = purges.db := by
  unfold Purges.deleteBatch
  split
  · rename_i job now counted removed limit ids found
    split
    · exact Or.inr rfl
    · rename_i db deletes
      refine Or.inl ⟨job, ids, fun id member => held_of_lookup found ⟨rfl, member⟩, ?_⟩
      dsimp only
      split <;> exact deletes
  · exact Or.inr rfl

theorem ids_step (purges : Purges) (settings : RetentionSettings) (event : RetentionEvent) :
    (∃ job ids, purges.Deletes (purges.step settings event).db job ids) ∨
      ∀ own, purges.db.ids own ⊆ (purges.step settings event).db.ids own := by
  have updated : ∀ {db : Database}, (∀ own, db.ids own = purges.db.ids own) →
      ∀ own, purges.db.ids own ⊆ db.ids own := fun same own => (same own) ▸ List.Subset.refl _
  cases event with
  | deleteBatch key =>
      refine (ids_deleteBatch purges key).imp_right fun same own => ?_
      exact same ▸ List.Subset.refl _
  | startRun key job =>
      refine Or.inr fun own => ?_
      simp only [Purges.step, Purges.startRun]
      split <;> exact List.Subset.refl _
  | selectBatch key ids =>
      refine Or.inr fun own => ?_
      simp only [Purges.step, Purges.selectBatch, Purges.endRun]
      split
      · split_ifs <;> exact List.Subset.refl _
      · exact List.Subset.refl _
  | failRun key =>
      refine Or.inr fun own => ?_
      simp only [Purges.step, Purges.failRun, Purges.endRun]
      split <;> exact List.Subset.refl _
  | wait seconds => exact Or.inr fun own => List.Subset.refl _
  | createWorkspace => exact Or.inr fun own => by cases own <;> simp [Purges.step, Purges.insert, ids]
  | createTelemetry row => exact Or.inr fun own => by cases own <;> simp [Purges.step, Purges.insert, ids]
  | archive loaded ackVersion =>
      refine Or.inr (updated fun own => ?_)
      cases own <;> first | rfl | exact map_update fun row => rfl
  | restore loaded =>
      refine Or.inr (updated fun own => ?_)
      simp only [Purges.step, Purges.restore]
      split
      · cases own <;> first | rfl | exact map_update fun row => rfl
      · rfl
  | setStoryboard id status publicShareEnabled =>
      refine Or.inr (updated fun own => ?_)
      cases own <;> first | rfl | exact map_update fun row => rfl
  | setPush id status source =>
      refine Or.inr (updated fun own => ?_)
      simp only [Purges.step, Purges.setPush]
      split
      · cases own <;> first | rfl | exact map_update fun row => rfl
      · rfl
  | createStage workspaceId =>
      refine Or.inr fun own => ?_
      simp only [Purges.step, Purges.createStage]
      split <;> exact List.Subset.refl _
  | addVersion stageId read =>
      refine Or.inr fun own => ?_
      simp only [Purges.step, Purges.addVersion]
      split
      · cases own <;> simp [Purges.insert, ids]
      · exact List.Subset.refl _
  | createPush workspaceId source =>
      refine Or.inr fun own => ?_
      simp only [Purges.step, Purges.createPush]
      split
      · cases own <;> simp [Purges.insert, ids]
      · exact List.Subset.refl _
  | createStoryboard workspaceId version =>
      refine Or.inr fun own => ?_
      simp only [Purges.step, Purges.createStoryboard]
      split
      · cases own <;> simp [Purges.insert, ids]
      · exact List.Subset.refl _

theorem goes_of_gone {event : RetentionEvent} {workspaceId : Nat}
    (removed : (purges.step settings event).db = purges.db.remove ids .trashedWorkspaces)
    (gone : workspaceId ∈ (purges.db.workspaces.filter (·.id ∈ ids)).map (·.id)) :
    purges.Goes settings event workspaceId := by
  unfold Goes
  rw [removed]
  exact mem_gone gone

theorem Sound.respects_deletes (sound : purges.Sound settings) {event : RetentionEvent}
    (deletes : purges.Deletes (purges.step settings event).db job ids)
    (capped : ∀ removed ∈ (purges.step settings event).finished, removed ≤ settings.maxRowsPerRun) :
    purges.Respects settings event := by
  obtain ⟨held, deletes⟩ := deletes
  obtain ⟨removed, unbroken⟩ := delete_eq deletes
  have unguarded := fun id member => (sound.held job id (held id member)).2
  constructor
  · intro row member gone
    rw [removed] at gone
    rcases gone_cases (List.mem_map_of_mem member) gone with ⟨rfl, batch⟩ | ⟨differs, rfl⟩
    · exact unguarded row.id batch row member rfl
    · exact absurd rfl differs
  · intro row member gone
    rw [removed] at gone
    rcases gone_cases (List.mem_map_of_mem member) gone with ⟨rfl, batch⟩ | ⟨_, rfl⟩
    · exact Or.inl (unguarded row.id batch row member rfl)
    · refine Or.inr (goes_of_gone removed ?_)
      by_contra stays
      exact gone (List.mem_map_of_mem (List.mem_filter.mpr ⟨member, decide_eq_true stays⟩))
  · intro row member gone
    rw [removed] at gone
    rcases gone_cases (List.mem_map_of_mem member) gone with ⟨rfl, batch⟩ | ⟨_, rfl⟩
    · exact Or.inl (unguarded row.id batch row member rfl)
    · refine Or.inr (goes_of_gone removed ?_)
      by_contra stays
      exact gone (List.mem_map_of_mem (List.mem_filter.mpr ⟨member, decide_eq_true stays⟩))
  · intro row member gone
    rw [removed] at gone unbroken
    have present : row.id ∈ purges.db.ids .stageVersions := List.mem_map_of_mem member
    rcases gone_cases present gone with ⟨rfl, batch⟩ | ⟨_, rfl⟩
    · refine Or.inl ?_
      obtain ⟨behind, old⟩ := unguarded row.id batch row member rfl
      rintro (current | newest | referenced)
      · exact behind current
      · exact absurd old (Nat.not_le.mpr newest)
      · rw [not_isReferenced unbroken batch present] at referenced
        contradiction
    · refine Or.inr ?_
      by_contra none
      refine gone (List.mem_map_of_mem (List.mem_filter.mpr ⟨member, ?_⟩))
      rw [Bool.not_eq_true']
      refine List.any_eq_false.mpr fun stage held own => ?_
      obtain ⟨same, workspace⟩ := of_decide_eq_true own
      exact none ⟨stage, held, same, goes_of_gone removed workspace⟩
  · exact capped

theorem Sound.respects (sound : purges.Sound settings) {event : RetentionEvent} (careful : purges.Careful event) :
    purges.Respects settings event := by
  have capped := (sound.step careful).finished
  rcases ids_step purges settings event with ⟨job, ids, deletes⟩ | kept
  · exact sound.respects_deletes deletes capped
  · constructor
    · exact fun row member gone => absurd (kept _ (List.mem_map_of_mem member)) gone
    · exact fun row member gone => absurd (kept _ (List.mem_map_of_mem member)) gone
    · exact fun row member gone => absurd (kept _ (List.mem_map_of_mem member)) gone
    · exact fun row member gone => absurd (kept _ (List.mem_map_of_mem member)) gone
    · exact capped

/-- In every run where no owner writes a row that some batch holds, whatever the windows, the batches and the cap,
retention deletes no guarded row but those of a workspace that it may delete, and no run deletes more than the cap. -/
theorem retention_respects_guards (settings : RetentionSettings) {start : Purges}
    (keyed : start.db.Keyed start.nextId) (idle : start.runs = ∅) (none : start.finished = [])
    {events : List RetentionEvent} (careful : Along (step settings) Careful start events) :
    ∀ front event back, events = front ++ event :: back →
      (play (step settings) start front).Respects settings event := by
  have sound : start.Sound settings := by
    refine { keyed, counts := ?_, held := ?_, finished := ?_ }
    · rw [idle]
      exact Workers.all_empty
    · intro job id held
      rw [idle] at held
      exact absurd Workers.all_empty held
    · rw [none]
      exact fun removed member => absurd member List.not_mem_nil
  intro front event back split
  rw [split] at careful
  obtain ⟨before, now, _⟩ := along_append.mp careful
  have reached := before.invariant (fun _ _ sound careful => sound.step careful) sound
  exact reached.respects now

/-! A trashed workspace with a shared storyboard, whose window is over -/

def sampleSettings : RetentionSettings where
  failedPushes := 30
  stageVersionsKeep := 1
  stageVersionsMinAge := 30
  storyboardsKeep := 1
  storyboardsMinAge := 30
  trash := 10
  legacyArchived := 100
  telemetry := 30
  purgeBatchSize := 10
  maxRowsPerRun := 10

def trashed : WorkspaceRow :=
  { id := 0, archived := true, archivedAt := some 0, retentionAckVersion := some "v1" }

def sampleStart : Purges where
  db.workspaces := [trashed]
  db.storyboards :=
    [{ id := 1, workspaceId := 0, version := 1, status := .ready, publicShareEnabled := true, createdAt := 0 }]
  clock := 20
  nextId := 2

def purge : List RetentionEvent := [.startRun 0 .trashedWorkspaces, .selectBatch 0 [0]]

theorem retention_respects_guards_sample :
    (play (step sampleSettings) sampleStart (.restore { trashed with id := 7 } :: purge)).Respects sampleSettings
      (.deleteBatch 0) :=
  retention_respects_guards sampleSettings ⟨fun job => by cases job <;> decide, by decide, by decide⟩ rfl rfl
    (show Along (step sampleSettings) Careful sampleStart
      (.restore { trashed with id := 7 } :: purge ++ [.deleteBatch 0]) by decide) _ _ [] rfl

theorem retention_deletes_guarded :
    (∃ row ∈ (play (step sampleSettings) sampleStart purge).db.storyboards, row.publicShareEnabled = true ∧
      row.id ∉ (play (step sampleSettings) sampleStart (purge ++ [.deleteBatch 0])).db.ids .storyboards) ∧
    ∃ row ∈ (play (step sampleSettings) sampleStart (purge ++ [.restore trashed])).db.workspaces,
      row.archived = false ∧ row.id ∉
        (play (step sampleSettings) sampleStart (purge ++ [.restore trashed, .deleteBatch 0])).db.ids
          .trashedWorkspaces := by
  decide

end Purges

end Thought2Build.Retention
