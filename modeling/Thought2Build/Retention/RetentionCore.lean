import Thought2Build.Library.Histories
import Thought2Build.Library.Newest
import Thought2Build.Library.Workers

/-!
The purge jobs and the rows they delete. A job selects a batch of ids in one statement and deletes them in another;
the owner's transactions commit between any two statements.
-/

namespace Thought2Build.Retention

structure RetentionSettings where
  failedPushes : Int
  stageVersionsKeep : Nat
  stageVersionsMinAge : Int
  storyboardsKeep : Nat
  storyboardsMinAge : Int
  trash : Int
  legacyArchived : Int
  telemetry : Int
  purgeBatchSize : Nat
  maxRowsPerRun : Nat

/-! Rows -/

structure WorkspaceRow where
  id : Nat
  archived : Bool := false
  archivedAt : Option Int := none
  retentionAckVersion : Option String := none

structure StageRow where
  id : Nat
  workspaceId : Nat
  currentVersion : Nat := 0

structure VersionRow where
  id : Nat
  stageId : Nat
  version : Nat
  createdAt : Int

inductive PushStatus where
  | pending | completed | failed | stale
  deriving DecidableEq

structure PushRow where
  id : Nat
  workspaceId : Nat
  status : PushStatus := .pending
  createdAt : Int
  sourceStageVersionId : Option Nat := none

inductive StoryboardStatus where
  | generating | ready | failed | stale
  deriving DecidableEq

structure StoryboardRow where
  id : Nat
  workspaceId : Nat
  version : Nat
  status : StoryboardStatus := .generating
  publicShareEnabled : Bool := false
  createdAt : Int

structure TelemetryRow where
  id : Nat
  isGarbage : Bool
  since : Int

structure Database where
  workspaces : List WorkspaceRow := []
  stages : List StageRow := []
  versions : List VersionRow := []
  pushes : List PushRow := []
  storyboards : List StoryboardRow := []
  telemetry : List TelemetryRow := []

inductive PurgeJob where
  | telemetry | failedPushes | stageVersions | storyboards | trashedWorkspaces
  deriving DecidableEq

namespace Database

variable (settings : RetentionSettings) (db : Database)

/-- The versions of its stage that are newer: `row_number` less one, as numbers do not repeat. -/
def versionRank (row : VersionRow) : Nat := Newest.rank VersionRow.stageId VersionRow.version db.versions row

def storyboardRank (row : StoryboardRow) : Nat :=
  Newest.rank StoryboardRow.workspaceId StoryboardRow.version db.storyboards row

def isTrashed (now : Int) (row : WorkspaceRow) : Bool :=
  row.archived && row.archivedAt.any fun archivedAt =>
    decide (archivedAt < now - if row.retentionAckVersion.isSome then settings.trash else settings.legacyArchived)

def isReferenced (id : Nat) : Bool := db.pushes.any fun push => push.sourceStageVersionId = some id

def isOldVersion (now : Int) (row : VersionRow) : Bool :=
  settings.stageVersionsKeep ≤ db.versionRank row && row.createdAt < now - settings.stageVersionsMinAge &&
    (db.stages.any fun stage => stage.id = row.stageId ∧ row.version ≠ stage.currentVersion) &&
      !db.isReferenced row.id

def isOldStoryboard (now : Int) (row : StoryboardRow) : Bool :=
  settings.storyboardsKeep ≤ db.storyboardRank row && row.createdAt < now - settings.storyboardsMinAge &&
    !row.publicShareEnabled && row.status ≠ .generating

def candidates (now : Int) : PurgeJob → List Nat
  | .telemetry => (db.telemetry.filter fun row => row.isGarbage && row.since < now - settings.telemetry).map (·.id)
  | .failedPushes =>
      (db.pushes.filter fun row => row.status = .failed ∧ row.createdAt < now - settings.failedPushes).map (·.id)
  | .stageVersions => (db.versions.filter (db.isOldVersion settings now)).map (·.id)
  | .storyboards => (db.storyboards.filter (db.isOldStoryboard settings now)).map (·.id)
  | .trashedWorkspaces => (db.workspaces.filter (isTrashed settings now)).map (·.id)

def ids : PurgeJob → List Nat
  | .telemetry => db.telemetry.map (·.id)
  | .failedPushes => db.pushes.map (·.id)
  | .stageVersions => db.versions.map (·.id)
  | .storyboards => db.storyboards.map (·.id)
  | .trashedWorkspaces => db.workspaces.map (·.id)

def hasWorkspace (id : Nat) : Bool := db.workspaces.any (·.id = id)

def hasVersion (id : Nat) : Bool := db.versions.any (·.id = id)

def stageIsOf (workspaces : List Nat) (stageId : Nat) : Bool :=
  db.stages.any fun stage => stage.id = stageId ∧ stage.workspaceId ∈ workspaces

/-- A delete by ids with its cascades, before the check of the references between pushes and versions. -/
def remove (ids : List Nat) : PurgeJob → Database
  | .telemetry => { db with telemetry := db.telemetry.filter (·.id ∉ ids) }
  | .failedPushes => { db with pushes := db.pushes.filter (·.id ∉ ids) }
  | .stageVersions => { db with versions := db.versions.filter (·.id ∉ ids) }
  | .storyboards => { db with storyboards := db.storyboards.filter (·.id ∉ ids) }
  | .trashedWorkspaces =>
      let gone := (db.workspaces.filter (·.id ∈ ids)).map (·.id)
      { db with
        workspaces := db.workspaces.filter (·.id ∉ ids)
        stages := db.stages.filter (·.workspaceId ∉ gone)
        versions := db.versions.filter fun row => !db.stageIsOf gone row.stageId
        pushes := db.pushes.filter (·.workspaceId ∉ gone)
        storyboards := db.storyboards.filter (·.workspaceId ∉ gone) }

def breaks (later : Database) : Bool :=
  later.pushes.any fun push => push.sourceStageVersionId.any fun version =>
    db.hasVersion version && !later.hasVersion version

def delete (job : PurgeJob) (ids : List Nat) : Option Database :=
  let later := db.remove ids job
  if db.breaks later then none else some later

end Database

/-! Runs -/

/-- Where a run of a job stands: the ids counted and the rows deleted so far, and perhaps a batch of ids. -/
inductive RunPoint where
  | between (job : PurgeJob) (now : Int) (counted removed : Nat)
  | deleting (job : PurgeJob) (now : Int) (counted removed limit : Nat) (ids : List Nat)

structure Purges where
  db : Database
  runs : Workers RunPoint := ∅
  finished : List Nat := []
  clock : Int := 0
  nextId : Nat

inductive RetentionEvent where
  | startRun (key : Nat) (job : PurgeJob)
  | selectBatch (key : Nat) (ids : List Nat)
  | deleteBatch (key : Nat)
  | failRun (key : Nat)
  | createWorkspace
  /-- The row is as the request has loaded it, which may be out of date. -/
  | archive (loaded : WorkspaceRow) (ackVersion : Option String)
  | restore (loaded : WorkspaceRow)
  | createStage (workspaceId : Nat)
  /-- A generation, an edit or a rollback adds the version after the one it has read, which may be out of date. -/
  | addVersion (stageId read : Nat)
  | createPush (workspaceId : Nat) (source : Option Nat)
  | setPush (id : Nat) (status : PushStatus) (source : Option Nat)
  | createStoryboard (workspaceId : Nat) (version : Nat)
  | setStoryboard (id : Nat) (status : StoryboardStatus) (publicShareEnabled : Bool)
  | createTelemetry (row : TelemetryRow)
  | wait (seconds : Nat)

namespace Purges

variable (settings : RetentionSettings) (purges : Purges)

def startRun (key : Nat) (job : PurgeJob) : Purges :=
  if key ∈ purges.runs then purges
  else { purges with runs := purges.runs.insert key (.between job purges.clock 0 0) }

def endRun (key removed : Nat) : Purges :=
  { purges with runs := purges.runs.erase key, finished := purges.finished ++ [removed] }

def Answers (candidates : List Nat) (limit : Nat) (ids : List Nat) : Prop :=
  ids.Nodup ∧ (∀ id ∈ ids, id ∈ candidates) ∧ ids.length = min limit candidates.length

instance (candidates : List Nat) (limit : Nat) (ids : List Nat) : Decidable (Answers candidates limit ids) :=
  inferInstanceAs (Decidable (_ ∧ _ ∧ _))

def selectBatch (key : Nat) (ids : List Nat) : Purges :=
  match purges.runs.lookup key with
  | some (.between job now counted removed) =>
      let limit := min settings.purgeBatchSize (settings.maxRowsPerRun - counted)
      if settings.maxRowsPerRun ≤ counted then purges.endRun key removed
      else if Answers (purges.db.candidates settings now job) limit ids then
        if ids = [] then purges.endRun key removed
        else { purges with runs := purges.runs.insert key (.deleting job now counted removed limit ids) }
      else purges
  | _ => purges

def deleteBatch (key : Nat) : Purges :=
  match purges.runs.lookup key with
  | some (.deleting job now counted removed limit ids) =>
      match purges.db.delete job ids with
      | none => purges.endRun key removed
      | some db =>
          let removed := removed + ((purges.db.ids job).length - (db.ids job).length)
          let deleted := { purges with db }
          if ids.length < limit then deleted.endRun key removed
          else
            { deleted with
              runs := purges.runs.insert key (.between job now (counted + ids.length) removed) }
  | _ => purges

def failRun (key : Nat) : Purges :=
  match purges.runs.lookup key with
  | some (.between _ _ _ removed) | some (.deleting _ _ _ removed _ _) => purges.endRun key removed
  | none => purges

def write (db : Database) : Purges := { purges with db }

def insert (db : Database) : Purges := { purges with db, nextId := purges.nextId + 1 }

def writeWorkspace (loaded written : WorkspaceRow) : Purges :=
  purges.write { purges.db with
    workspaces := purges.db.workspaces.map fun row =>
      if row.id = loaded.id then
        { row with
          archived := if written.archived = loaded.archived then row.archived else written.archived
          archivedAt := if written.archivedAt = loaded.archivedAt then row.archivedAt else written.archivedAt
          retentionAckVersion :=
            if written.retentionAckVersion = loaded.retentionAckVersion then row.retentionAckVersion
            else written.retentionAckVersion }
      else row }

def archive (loaded : WorkspaceRow) (ackVersion : Option String) : Purges :=
  purges.writeWorkspace loaded
    { loaded with archived := true, archivedAt := some purges.clock, retentionAckVersion := ackVersion }

def restore (loaded : WorkspaceRow) : Purges :=
  if loaded.archived then
    purges.writeWorkspace loaded { loaded with archived := false, archivedAt := none, retentionAckVersion := none }
  else purges

def createStage (workspaceId : Nat) : Purges :=
  if purges.db.hasWorkspace workspaceId then
    purges.insert { purges.db with stages := purges.db.stages ++ [{ id := purges.nextId, workspaceId }] }
  else purges

def addVersion (stageId read : Nat) : Purges :=
  if (∃ stage ∈ purges.db.stages, stage.id = stageId) ∧
      ¬∃ row ∈ purges.db.versions, row.stageId = stageId ∧ row.version = read + 1 then
    purges.insert { purges.db with
      stages := purges.db.stages.map fun row =>
        if row.id = stageId then { row with currentVersion := read + 1 } else row
      versions := purges.db.versions ++
        [{ id := purges.nextId, stageId, version := read + 1, createdAt := purges.clock }] }
  else purges

def createPush (workspaceId : Nat) (source : Option Nat) : Purges :=
  if purges.db.hasWorkspace workspaceId ∧ source.all purges.db.hasVersion then
    purges.insert { purges.db with
      pushes := purges.db.pushes ++
        [{ id := purges.nextId, workspaceId, createdAt := purges.clock, sourceStageVersionId := source }] }
  else purges

def setPush (id : Nat) (status : PushStatus) (source : Option Nat) : Purges :=
  if source.all purges.db.hasVersion then
    purges.write { purges.db with
      pushes := purges.db.pushes.map fun row =>
        if row.id = id then { row with status, sourceStageVersionId := source.or row.sourceStageVersionId } else row }
  else purges

def createStoryboard (workspaceId version : Nat) : Purges :=
  if purges.db.hasWorkspace workspaceId ∧
      ¬∃ row ∈ purges.db.storyboards, row.workspaceId = workspaceId ∧ row.version = version then
    purges.insert { purges.db with
      storyboards := purges.db.storyboards ++
        [{ id := purges.nextId, workspaceId, version, createdAt := purges.clock }] }
  else purges

def setStoryboard (id : Nat) (status : StoryboardStatus) (publicShareEnabled : Bool) : Purges :=
  purges.write { purges.db with
    storyboards := purges.db.storyboards.map fun row =>
      if row.id = id then { row with status, publicShareEnabled } else row }

def step : RetentionEvent → Purges
  | .startRun key job => purges.startRun key job
  | .selectBatch key ids => purges.selectBatch settings key ids
  | .deleteBatch key => purges.deleteBatch key
  | .failRun key => purges.failRun key
  | .createWorkspace =>
      purges.insert { purges.db with workspaces := purges.db.workspaces ++ [{ id := purges.nextId }] }
  | .archive loaded ackVersion => purges.archive loaded ackVersion
  | .restore loaded => purges.restore loaded
  | .createStage workspaceId => purges.createStage workspaceId
  | .addVersion stageId read => purges.addVersion stageId read
  | .createPush workspaceId source => purges.createPush workspaceId source
  | .setPush id status source => purges.setPush id status source
  | .createStoryboard workspaceId version => purges.createStoryboard workspaceId version
  | .setStoryboard id status publicShareEnabled => purges.setStoryboard id status publicShareEnabled
  | .createTelemetry row =>
      purges.insert { purges.db with
        telemetry := purges.db.telemetry ++ [{ row with id := purges.nextId }] }
  | .wait seconds => { purges with clock := purges.clock + seconds }

end Purges

end Thought2Build.Retention
