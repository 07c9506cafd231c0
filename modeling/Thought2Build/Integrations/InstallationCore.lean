import Thought2Build.Library.Histories

/-!
GitHub App installations and the pushes of workspaces that sync under them. Each callback, export,
revocation and webhook is one transaction on the two tables.
-/

namespace Thought2Build.Integrations

structure InstallationAccount where
  accountLogin : String
  accountType : String
  repositorySelection : String

/-- A row of `github_installations`; `installationId` is GitHub's number, unique in the table. -/
structure GitHubInstallation where
  id : Nat
  installationId : Nat
  account : InstallationAccount
  user : Nat
  suspended : Bool := false

inductive PushStatus where
  | pending | completed | failed | stale
  deriving DecidableEq

inductive ExportMode where
  | filesToDefault | prWithTests
  deriving DecidableEq

structure IntegrationPush where
  workspace : Nat
  user : Nat
  /-- `installation_id`: the key of an installation's row. -/
  installation : Option Nat := none
  /-- `detached_installation_id`: GitHub's number. -/
  detachedInstallationId : Option Nat := none
  repoId : Option Nat := none
  exportMode : ExportMode := .filesToDefault
  status : PushStatus := .pending

structure Links where
  installations : List GitHubInstallation := []
  pushes : List IntegrationPush := []
  nextId : Nat := 0

inductive LifecycleAction where
  | suspend | unsuspend | deleted
  deriving DecidableEq

namespace IntegrationPush

def paused (push : IntegrationPush) : PushStatus := if push.status = .failed then .failed else .stale

def detach (id installationId : Nat) (push : IntegrationPush) : IntegrationPush :=
  if push.installation = some id then
    { push with
      status := push.paused, installation := none, detachedInstallationId := some installationId }
  else push

def readopt (id installationId user : Nat) (push : IntegrationPush) : IntegrationPush :=
  if push.installation = none ∧ push.detachedInstallationId = some installationId ∧ push.user = user then
    { push with installation := some id, detachedInstallationId := none }
  else push

/-- `_mark_pushes_stale` on one push; only those of some repositories, where the webhook names them. -/
def pause (id : Nat) (repositories : Option (List Nat)) (push : IntegrationPush) : IntegrationPush :=
  if push.installation = some id ∧ repositories.all (fun ids => push.repoId.any (· ∈ ids)) then
    { push with status := push.paused }
  else push

def claim (id : Nat) (exportMode : ExportMode) (push : IntegrationPush) : IntegrationPush :=
  { push with status := .pending, installation := some id, detachedInstallationId := none, exportMode }

end IntegrationPush

namespace Links

variable (links : Links)

def mapPushes (update : IntegrationPush → IntegrationPush) : Links :=
  { links with pushes := links.pushes.map update }

def mapInstallations (update : GitHubInstallation → GitHubInstallation) : Links :=
  { links with installations := links.installations.map update }

def byNumber (installationId : Nat) : Option GitHubInstallation :=
  links.installations.find? (·.installationId = installationId)

def byId (id : Nat) : Option GitHubInstallation := links.installations.find? (·.id = id)

/-- `_persist_installation`: the row of the number is updated in place; with the key of the row. -/
def persistInstallation (installationId user : Nat) (account : InstallationAccount) : Links × Nat :=
  match links.byNumber installationId with
  | none =>
      ({ links with
        installations := links.installations ++ [{ id := links.nextId, installationId, account, user }]
        nextId := links.nextId + 1 }, links.nextId)
  | some row =>
      (links.mapInstallations fun other =>
        if other.id = row.id then { other with account, user, suspended := false } else other, row.id)

def upsertInstallation (installationId user : Nat) (account : InstallationAccount) (adopts : Bool) : Links :=
  let (bound, id) := links.persistInstallation installationId user account
  if adopts then bound.mapPushes (·.readopt id installationId user) else bound

def remove (row : GitHubInstallation) : Links :=
  let detached := links.mapPushes (·.detach row.id row.installationId)
  { detached with installations := detached.installations.filter (·.id ≠ row.id) }

def revokeInstallation (id user : Nat) : Links :=
  match links.byId id with
  | none => links
  | some row => if row.user = user then links.remove row else links

def applyInstallationEvent (action : LifecycleAction) (installationId : Nat) : Links :=
  match links.byNumber installationId with
  | none => links
  | some row =>
      let suspend (suspended : Bool) := links.mapInstallations fun other =>
        if other.id = row.id then { other with suspended } else other
      match action with
      | .suspend => (suspend true).mapPushes (·.pause row.id none)
      | .unsuspend => suspend false
      | .deleted => links.remove row

/-- `apply_installation_repositories_event` for removed repositories. -/
def repositoriesRemoved (installationId : Nat) (repositories : List Nat) : Links :=
  match links.byNumber installationId with
  | none => links
  | some row => links.mapPushes (·.pause row.id (some repositories))

/-- The push that `_select_push_row` finds: the newest of the workspace. -/
def newestPush (workspace : Nat) : Option Nat :=
  (List.range links.pushes.length).reverse.find? fun position =>
    links.pushes[position]?.any (·.workspace = workspace)

def claimPush (workspace user id : Nat) (exportMode : ExportMode) : Links :=
  match links.newestPush workspace with
  | none => { links with
      pushes := links.pushes ++ [IntegrationPush.claim id exportMode { workspace, user }] }
  | some position => { links with pushes := links.pushes.modify position (·.claim id exportMode) }

/-- The installation under which a request of `export_workspace_to_github` is accepted, if it is; `ready`
where all stages are finalised. -/
def exportAccepted (owner : Nat → Nat) (workspace user id : Nat) (ready : Bool) : Bool :=
  match links.byId id with
  | none => false
  | some row => row.user = user && !row.suspended && owner workspace = user && ready

def exportToGithub (owner : Nat → Nat) (workspace user id : Nat) (exportMode : ExportMode) (ready : Bool) :
    Links :=
  if links.exportAccepted owner workspace user id ready then links.claimPush workspace user id exportMode
  else links

end Links

/-- A committed transaction; `bind` is a callback whose checks have passed. -/
inductive LinkEvent where
  | bind (installationId user : Nat) (account : InstallationAccount) (adopts : Bool)
  | exportGithub (workspace user id : Nat) (exportMode : ExportMode) (ready : Bool)
  | exported (position : Nat) (status : PushStatus) (repoId : Option Nat)
  | revoke (id user : Nat)
  | lifecycle (action : LifecycleAction) (installationId : Nat)
  | repositoriesRemoved (installationId : Nat) (repositories : List Nat)

def Links.step (owner : Nat → Nat) (links : Links) : LinkEvent → Links
  | .bind installationId user account adopts => links.upsertInstallation installationId user account adopts
  | .exportGithub workspace user id exportMode ready =>
      links.exportToGithub owner workspace user id exportMode ready
  | .exported position status repoId => { links with
      pushes := links.pushes.modify position fun push =>
        { push with status, repoId := repoId.or push.repoId } }
  | .revoke id user => links.revokeInstallation id user
  | .lifecycle action installationId => links.applyInstallationEvent action installationId
  | .repositoriesRemoved installationId repositories => links.repositoriesRemoved installationId repositories

end Thought2Build.Integrations
