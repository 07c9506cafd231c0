import Thought2Build.Integrations.InstallationCore
import Thought2Build.Library.Rows

/-!
Whose installation a push syncs under, and when a push that lost its installation gets one again.
-/

namespace Thought2Build.Integrations

open Histories

variable {owner : Nat → Nat} {links : Links} {row : GitHubInstallation} {push : IntegrationPush}

namespace IntegrationPush

variable {id installationId user : Nat} {repositories : Option (List Nat)}

section

attribute [local simp] Links.step

end

@[simp] theorem detach_user : (push.detach id installationId).user = push.user := by
  unfold detach
  split <;> rfl

@[simp] theorem detach_workspace : (push.detach id installationId).workspace = push.workspace := by
  unfold detach
  split <;> rfl

@[simp] theorem readopt_user : (push.readopt id installationId user).user = push.user := by
  unfold readopt
  split <;> rfl

@[simp] theorem readopt_workspace : (push.readopt id installationId user).workspace = push.workspace := by
  unfold readopt
  split <;> rfl

theorem pause_eq (id : Nat) (repositories : Option (List Nat)) (push : IntegrationPush) : ∃ status, push.pause id repositories = { push with status } := by
  unfold pause
  split
  · exact ⟨_, rfl⟩
  · exact ⟨_, rfl⟩

theorem readopt_installation {key : Nat} : (push.readopt id installationId user).installation = some key ↔
    push.installation = some key ∨ (push.installation = none ∧
      push.detachedInstallationId = some installationId ∧ push.user = user ∧ key = id) := by
  unfold readopt
  split
  · rename_i detached
    simp [detached, eq_comm]
  · rename_i other
    grind

theorem detach_installation {key : Nat} : (push.detach id installationId).installation = some key ↔
    push.installation = some key ∧ key ≠ id := by
  unfold detach
  split
  · rename_i attached
    simp [attached, eq_comm]
  · rename_i other
    grind

end IntegrationPush

namespace Links

/-- Rows are told apart by their keys and by GitHub's numbers, a push refers to a row, and it is of the
user of its workspace. -/
structure Sound (owner : Nat → Nat) (links : Links) : Prop where
  ids : ∀ first ∈ links.installations, ∀ second ∈ links.installations, first.id = second.id → first = second
  numbers : ∀ first ∈ links.installations, ∀ second ∈ links.installations,
    first.installationId = second.installationId → first = second
  fresh : ∀ row ∈ links.installations, row.id < links.nextId
  linked : ∀ push ∈ links.pushes, ∀ id, push.installation = some id → ∃ row ∈ links.installations, row.id = id
  users : ∀ push ∈ links.pushes, push.user = owner push.workspace

def Owned (links : Links) : Prop := ∀ push ∈ links.pushes, ∀ id, push.installation = some id →
  ∃ row ∈ links.installations, row.id = id ∧ row.user = push.user

theorem mem_of_byNumber {installationId : Nat} (found : links.byNumber installationId = some row) :
    row ∈ links.installations ∧ row.installationId = installationId :=
  ⟨List.mem_of_find?_eq_some found, by simpa using List.find?_some found⟩

theorem mem_of_byId {id : Nat} (found : links.byId id = some row) : row ∈ links.installations ∧ row.id = id :=
  ⟨List.mem_of_find?_eq_some found, by simpa using List.find?_some found⟩

theorem Sound.mapPushes {update : IntegrationPush → IntegrationPush} (sound : links.Sound owner)
    (user : ∀ push, (update push).user = push.user) (workspace : ∀ push, (update push).workspace = push.workspace)
    (linked : ∀ push ∈ links.pushes, ∀ id, (update push).installation = some id →
      ∃ row ∈ links.installations, row.id = id) : (links.mapPushes update).Sound owner where
  ids := sound.ids
  numbers := sound.numbers
  fresh := sound.fresh
  linked := by
    intro push member id attached
    obtain ⟨former, old, rfl⟩ := List.mem_map.mp member
    exact linked former old id attached
  users := by
    intro push member
    obtain ⟨former, old, rfl⟩ := List.mem_map.mp member
    rw [user, workspace]
    exact sound.users former old

theorem Sound.mapInstallations {update : GitHubInstallation → GitHubInstallation} (sound : links.Sound owner)
    (id : ∀ row, (update row).id = row.id) (number : ∀ row, (update row).installationId = row.installationId) :
    (links.mapInstallations update).Sound owner where
  ids := by
    intro first one second other same
    obtain ⟨left, hereLeft, rfl⟩ := List.mem_map.mp one
    obtain ⟨right, hereRight, rfl⟩ := List.mem_map.mp other
    rw [id, id] at same
    rw [sound.ids left hereLeft right hereRight same]
  numbers := by
    intro first one second other same
    obtain ⟨left, hereLeft, rfl⟩ := List.mem_map.mp one
    obtain ⟨right, hereRight, rfl⟩ := List.mem_map.mp other
    rw [number, number] at same
    rw [sound.numbers left hereLeft right hereRight same]
  fresh := by
    intro row member
    obtain ⟨former, old, rfl⟩ := List.mem_map.mp member
    rw [id]
    exact sound.fresh former old
  linked := by
    intro push member key attached
    obtain ⟨row, old, rfl⟩ := sound.linked push member key attached
    exact ⟨update row, List.mem_map_of_mem old, id row⟩
  users := sound.users

theorem Owned.mapInstallations {update : GitHubInstallation → GitHubInstallation} (owned : links.Owned)
    (id : ∀ row, (update row).id = row.id) (user : ∀ row, (update row).user = row.user) :
    (links.mapInstallations update).Owned := by
  intro push member key attached
  obtain ⟨row, old, rfl, mine⟩ := owned push member key attached
  exact ⟨update row, List.mem_map_of_mem old, id row, (user row).trans mine⟩

theorem Owned.mapPushes {update : IntegrationPush → IntegrationPush} (owned : links.Owned)
    (user : ∀ push, (update push).user = push.user)
    (attached : ∀ push ∈ links.pushes, ∀ id, (update push).installation = some id → push.installation = some id) :
    (links.mapPushes update).Owned := by
  intro push member key held
  obtain ⟨former, old, rfl⟩ := List.mem_map.mp member
  obtain ⟨row, inside, same, mine⟩ := owned former old key (attached former old key held)
  exact ⟨row, inside, same, by rw [user, mine]⟩

theorem Sound.remove (sound : links.Sound owner) (row : GitHubInstallation) : (links.remove row).Sound owner where
  ids first one second other := sound.ids first (List.mem_filter.mp one).1 second (List.mem_filter.mp other).1
  numbers first one second other :=
    sound.numbers first (List.mem_filter.mp one).1 second (List.mem_filter.mp other).1
  fresh other member := sound.fresh other (List.mem_filter.mp member).1
  linked := by
    intro push member id attached
    obtain ⟨former, old, rfl⟩ := List.mem_map.mp member
    obtain ⟨held, elsewhere⟩ := IntegrationPush.detach_installation.mp attached
    obtain ⟨other, inside, rfl⟩ := sound.linked former old id held
    exact ⟨other, List.mem_filter.mpr ⟨inside, by simpa using elsewhere⟩, rfl⟩
  users := by
    intro push member
    obtain ⟨former, old, rfl⟩ := List.mem_map.mp member
    simpa using sound.users former old

theorem Owned.remove (owned : links.Owned) (row : GitHubInstallation) : (links.remove row).Owned := by
  intro push member id attached
  obtain ⟨former, old, rfl⟩ := List.mem_map.mp member
  obtain ⟨held, elsewhere⟩ := IntegrationPush.detach_installation.mp attached
  obtain ⟨other, inside, rfl, mine⟩ := owned former old id held
  exact ⟨other, List.mem_filter.mpr ⟨inside, by simpa using elsewhere⟩, rfl, by simpa using mine⟩

theorem Sound.addInstallation (sound : links.Sound owner) (id : row.id = links.nextId)
    (unknown : ∀ other ∈ links.installations, other.installationId ≠ row.installationId) :
    Sound owner { links with installations := links.installations ++ [row], nextId := links.nextId + 1 } where
  ids := by
    intro first one second other same
    rcases List.mem_append.mp one with old | new
    · rcases List.mem_append.mp other with old' | new'
      · exact sound.ids first old second old' same
      · have := sound.fresh first old
        rw [same, List.mem_singleton.mp new', id] at this
        exact absurd this (Nat.lt_irrefl _)
    · rcases List.mem_append.mp other with old' | new'
      · have := sound.fresh second old'
        rw [← same, List.mem_singleton.mp new, id] at this
        exact absurd this (Nat.lt_irrefl _)
      · rw [List.mem_singleton.mp new, List.mem_singleton.mp new']
  numbers := by
    intro first one second other same
    rcases List.mem_append.mp one with old | new
    · rcases List.mem_append.mp other with old' | new'
      · exact sound.numbers first old second old' same
      · rw [List.mem_singleton.mp new'] at same
        exact absurd same (unknown first old)
    · rcases List.mem_append.mp other with old' | new'
      · rw [List.mem_singleton.mp new] at same
        exact absurd same.symm (unknown second old')
      · rw [List.mem_singleton.mp new, List.mem_singleton.mp new']
  fresh := by
    intro other member
    rcases List.mem_append.mp member with old | new
    · exact Nat.lt_succ_of_lt (sound.fresh other old)
    · rw [List.mem_singleton.mp new, id]
      exact Nat.lt_succ_self _
  linked := by
    intro push member key attached
    obtain ⟨other, inside, same⟩ := sound.linked push member key attached
    exact ⟨other, List.mem_append_left _ inside, same⟩
  users := sound.users

structure Binds (links bound : Links) (installationId user id : Nat) : Prop where
  pushes : bound.pushes = links.pushes
  row : ∃ row ∈ bound.installations, row.id = id ∧ row.installationId = installationId ∧ row.user = user
  others : ∀ row ∈ links.installations, row.id ≠ id → row ∈ bound.installations
  former : ∀ row ∈ links.installations, row.id = id → row.installationId = installationId

theorem persistInstallation_binds (sound : links.Sound owner) (installationId user : Nat)
    (account : InstallationAccount) :
    Binds links (links.persistInstallation installationId user account).1 installationId user
        (links.persistInstallation installationId user account).2 ∧
      (links.persistInstallation installationId user account).1.Sound owner := by
  unfold persistInstallation
  cases found : links.byNumber installationId with
  | none =>
      have unknown : ∀ row ∈ links.installations, row.installationId ≠ installationId := by
        simpa [byNumber] using found
      refine ⟨⟨rfl, ?_, fun row member _ => List.mem_append_left _ member, ?_⟩, ?_⟩
      · exact ⟨_, List.mem_append_right _ (List.mem_singleton_self _), rfl, rfl, rfl⟩
      · intro row member same
        exact absurd (sound.fresh row member) (by simp [same])
      · exact sound.addInstallation rfl unknown
  | some row =>
      obtain ⟨member, number⟩ := mem_of_byNumber found
      refine ⟨⟨rfl, ?_, ?_, ?_⟩, sound.mapInstallations ?_ ?_⟩
      · refine ⟨{ row with account, user, suspended := false }, List.mem_map.mpr ⟨row, member, by simp⟩, rfl,
          number, rfl⟩
      · intro other inside elsewhere
        exact List.mem_map.mpr ⟨other, inside, by simp [elsewhere]⟩
      · intro other inside same
        rw [sound.ids other inside row member same]
        exact number
      · intro other
        split <;> rfl
      · intro other
        split <;> rfl

def Vacant (links : Links) (installationId user : Nat) : Prop :=
  ∀ row ∈ links.installations, row.installationId = installationId →
    ∀ push ∈ links.pushes, push.installation = some row.id → push.user = user

variable {installationId user : Nat} {account : InstallationAccount} {adopts : Bool}

theorem mem_upsertInstallation (links : Links) (installationId user : Nat) (account : InstallationAccount)
    (adopts : Bool) : links.upsertInstallation installationId user account adopts =
      if adopts then (links.persistInstallation installationId user account).1.mapPushes
        (·.readopt (links.persistInstallation installationId user account).2 installationId user)
      else (links.persistInstallation installationId user account).1 := rfl

theorem Sound.upsertInstallation (sound : links.Sound owner) :
    (links.upsertInstallation installationId user account adopts).Sound owner := by
  obtain ⟨binds, after⟩ := persistInstallation_binds sound installationId user account
  rw [mem_upsertInstallation]
  split
  · refine after.mapPushes (fun _ => IntegrationPush.readopt_user) (fun _ => IntegrationPush.readopt_workspace) ?_
    intro push member id attached
    rcases IntegrationPush.readopt_installation.mp attached with held | ⟨_, _, _, rfl⟩
    · exact after.linked push member id held
    · obtain ⟨row, inside, same, _⟩ := binds.row
      exact ⟨row, inside, same⟩
  · exact after

theorem Owned.persistInstallation (owned : links.Owned) (sound : links.Sound owner)
    (vacant : links.Vacant installationId user) :
    (links.persistInstallation installationId user account).1.Owned := by
  obtain ⟨binds, _⟩ := persistInstallation_binds sound installationId user account
  intro push member id attached
  rw [binds.pushes] at member
  obtain ⟨row, inside, rfl, mine⟩ := owned push member id attached
  by_cases bound : row.id = (links.persistInstallation installationId user account).2
  · obtain ⟨next, there, same, _, theirs⟩ := binds.row
    have number := binds.former row inside bound
    exact ⟨next, there, same.trans bound.symm, theirs.trans (vacant row inside number push member attached).symm⟩
  · exact ⟨row, binds.others row inside bound, rfl, mine⟩

theorem Owned.upsertInstallation (owned : links.Owned) (sound : links.Sound owner)
    (vacant : links.Vacant installationId user) :
    (links.upsertInstallation installationId user account adopts).Owned := by
  have after : (links.persistInstallation installationId user account).1.Owned :=
    owned.persistInstallation sound vacant
  obtain ⟨binds, _⟩ := persistInstallation_binds sound installationId user account
  rw [mem_upsertInstallation]
  split
  · intro push member id attached
    obtain ⟨former, old, rfl⟩ := List.mem_map.mp member
    rcases IntegrationPush.readopt_installation.mp attached with held | ⟨_, _, mine, rfl⟩
    · obtain ⟨row, inside, same, mine⟩ := after former old id held
      exact ⟨row, inside, same, by simpa using mine⟩
    · obtain ⟨row, inside, same, _, theirs⟩ := binds.row
      exact ⟨row, inside, same, by simpa [theirs] using mine.symm⟩
  · exact after

variable {workspace id : Nat} {exportMode : ExportMode} {ready : Bool}

theorem newestPush_eq {position : Nat} (newest : links.newestPush workspace = some position) :
    ∃ push, links.pushes[position]? = some push ∧ push.workspace = workspace := by
  have found := List.find?_some newest
  obtain ⟨push, held, same⟩ := (Option.any_eq_true _ _).mp found
  exact ⟨push, held, by simpa using same⟩

theorem exportAccepted_eq_true : links.exportAccepted owner workspace user id ready = true ↔
    ∃ row, links.byId id = some row ∧ row.user = user ∧ row.suspended = false ∧ owner workspace = user ∧
      ready = true := by
  unfold exportAccepted
  cases links.byId id <;> simp [and_assoc]

theorem mem_claimPush {push : IntegrationPush} (member : push ∈ (links.claimPush workspace user id exportMode).pushes) :
    push ∈ links.pushes ∨ push.installation = some id ∧ push.workspace = workspace ∧
      (push.user = user ∨ ∃ former ∈ links.pushes, former.workspace = workspace ∧ push.user = former.user) := by
  unfold claimPush at member
  split at member
  · rcases List.mem_append.mp member with old | new
    · exact Or.inl old
    · obtain rfl := List.mem_singleton.mp new
      exact Or.inr ⟨rfl, rfl, Or.inl rfl⟩
  · rename_i position newest
    rcases Rows.mem_modify member with old | ⟨former, held, rfl⟩
    · exact Or.inl old
    · obtain ⟨found, here, same⟩ := newestPush_eq newest
      obtain rfl := Option.some.inj (here.symm.trans held)
      exact Or.inr ⟨rfl, same, Or.inr ⟨found, List.mem_of_getElem? here, same, rfl⟩⟩

theorem claimPush_installations : (links.claimPush workspace user id exportMode).installations = links.installations ∧
    (links.claimPush workspace user id exportMode).nextId = links.nextId := by
  unfold claimPush
  split <;> exact ⟨rfl, rfl⟩

theorem Sound.exportToGithub (sound : links.Sound owner) :
    (links.exportToGithub owner workspace user id exportMode ready).Sound owner := by
  unfold Links.exportToGithub
  split
  · rename_i accepted
    obtain ⟨row, found, _, _, owns, _⟩ := exportAccepted_eq_true.mp accepted
    obtain ⟨inside, same⟩ := mem_of_byId found
    obtain ⟨installations, next⟩ :
        (links.claimPush workspace user id exportMode).installations = links.installations ∧
          (links.claimPush workspace user id exportMode).nextId = links.nextId := claimPush_installations
    constructor
    · rw [installations]
      exact sound.ids
    · rw [installations]
      exact sound.numbers
    · rw [installations, next]
      exact sound.fresh
    · intro push member key attached
      rw [installations]
      rcases mem_claimPush member with old | ⟨claimed, _⟩
      · exact sound.linked push old key attached
      · obtain rfl := Option.some.inj (claimed.symm.trans attached)
        exact ⟨row, inside, same⟩
    · intro push member
      rcases mem_claimPush member with old | ⟨_, rfl, mine | ⟨former, old, here, kept⟩⟩
      · exact sound.users push old
      · rw [mine, owns]
      · rw [kept, sound.users former old, here]
  · exact sound

theorem Owned.exportToGithub (owned : links.Owned) (sound : links.Sound owner) :
    (links.exportToGithub owner workspace user id exportMode ready).Owned := by
  unfold Links.exportToGithub
  split
  · rename_i accepted
    obtain ⟨row, found, theirs, _, owns, _⟩ := exportAccepted_eq_true.mp accepted
    obtain ⟨inside, same⟩ := mem_of_byId found
    intro push member key attached
    rw [claimPush_installations.1]
    rcases mem_claimPush member with old | ⟨claimed, rfl, mine | ⟨former, old, here, kept⟩⟩
    · exact owned push old key attached
    · obtain rfl := Option.some.inj (claimed.symm.trans attached)
      exact ⟨row, inside, same, theirs.trans mine.symm⟩
    · obtain rfl := Option.some.inj (claimed.symm.trans attached)
      refine ⟨row, inside, same, ?_⟩
      rw [kept, sound.users former old, here, owns, theirs]
  · exact owned

variable {event : LinkEvent}

def TakesNone (links : Links) : LinkEvent → Prop
  | .bind installationId user _ _ => links.Vacant installationId user
  | _ => True

theorem pauses (id : Nat) (repositories : Option (List Nat)) (sound : links.Sound owner) :
    (links.mapPushes (·.pause id repositories)).Sound owner ∧
      (links.Owned → (links.mapPushes (·.pause id repositories)).Owned) := by
  have kept : ∀ push : IntegrationPush, (push.pause id repositories).user = push.user ∧
      (push.pause id repositories).workspace = push.workspace ∧
        (push.pause id repositories).installation = push.installation := by
    intro push
    obtain ⟨status, same⟩ := push.pause_eq id repositories
    rw [same]
    exact ⟨rfl, rfl, rfl⟩
  refine ⟨sound.mapPushes (fun push => (kept push).1) (fun push => (kept push).2.1) ?_, fun owned => ?_⟩
  · intro push member key attached
    exact sound.linked push member key ((kept push).2.2.symm.trans attached)
  · refine owned.mapPushes (fun push => (kept push).1) ?_
    intro push _ key attached
    exact (kept push).2.2.symm.trans attached

theorem suspends (id : Nat) (suspended : Bool) (sound : links.Sound owner) :
    (links.mapInstallations fun other => if other.id = id then { other with suspended } else other).Sound owner ∧
      (links.Owned → (links.mapInstallations fun other =>
        if other.id = id then { other with suspended } else other).Owned) := by
  refine ⟨sound.mapInstallations ?_ ?_, fun owned => owned.mapInstallations ?_ ?_⟩ <;>
    intro row <;> split <;> rfl

theorem lifecycle_keeps {action : LifecycleAction} (sound : links.Sound owner) :
    (links.applyInstallationEvent action installationId).Sound owner ∧
      (links.Owned → (links.applyInstallationEvent action installationId).Owned) := by
  unfold applyInstallationEvent
  split
  · exact ⟨sound, id⟩
  · rename_i row _
    cases action with
    | suspend =>
        obtain ⟨after, kept⟩ := suspends row.id true sound
        obtain ⟨final, keeps⟩ := pauses row.id none after
        exact ⟨final, fun owned => keeps (kept owned)⟩
    | unsuspend => exact suspends row.id false sound
    | deleted => exact ⟨sound.remove row, fun owned => owned.remove row⟩

theorem revoke_keeps (sound : links.Sound owner) : (links.revokeInstallation id user).Sound owner ∧
    (links.Owned → (links.revokeInstallation id user).Owned) := by
  unfold revokeInstallation
  split
  · exact ⟨sound, fun owned => owned⟩
  · rename_i row _
    split
    · exact ⟨sound.remove row, fun owned => owned.remove row⟩
    · exact ⟨sound, fun owned => owned⟩

theorem exported_keeps {position : Nat} {status : PushStatus} {repoId : Option Nat} (sound : links.Sound owner) :
    (links.step owner (.exported position status repoId)).Sound owner ∧
      (links.Owned → (links.step owner (.exported position status repoId)).Owned) := by
  have kept : ∀ push ∈ (links.step owner (.exported position status repoId)).pushes, ∃ former ∈ links.pushes,
      push.installation = former.installation ∧ push.user = former.user ∧ push.workspace = former.workspace := by
    intro push member
    rcases Rows.mem_modify member with old | ⟨former, held, rfl⟩
    · exact ⟨push, old, rfl, rfl, rfl⟩
    · exact ⟨former, List.mem_of_getElem? held, rfl, rfl, rfl⟩
  refine ⟨⟨sound.ids, sound.numbers, sound.fresh, ?_, ?_⟩, fun owned => ?_⟩
  · intro push member key attached
    obtain ⟨former, old, same, _, _⟩ := kept push member
    exact sound.linked former old key (same.symm.trans attached)
  · intro push member
    obtain ⟨former, old, _, user, workspace⟩ := kept push member
    rw [user, workspace]
    exact sound.users former old
  · intro push member key attached
    obtain ⟨former, old, same, user, _⟩ := kept push member
    rw [user]
    exact owned former old key (same.symm.trans attached)

theorem Sound.step (sound : links.Sound owner) (event : LinkEvent) : (links.step owner event).Sound owner := by
  cases event with
  | bind installationId user account adopts => exact sound.upsertInstallation
  | exportGithub workspace user id exportMode ready => exact sound.exportToGithub
  | exported position status repoId => exact (exported_keeps sound).1
  | revoke id user => exact (revoke_keeps sound).1
  | lifecycle action installationId => exact (lifecycle_keeps sound).1
  | repositoriesRemoved installationId repositories =>
      simp only [Links.step, Links.repositoriesRemoved]
      split
      · exact sound
      · exact (pauses _ _ sound).1

theorem Owned.step (owned : links.Owned) (sound : links.Sound owner) (none : links.TakesNone event) :
    (links.step owner event).Owned := by
  cases event with
  | bind installationId user account adopts => exact owned.upsertInstallation sound none
  | exportGithub workspace user id exportMode ready => exact owned.exportToGithub sound
  | exported position status repoId => exact (exported_keeps sound).2 owned
  | revoke id user => exact (revoke_keeps sound).2 owned
  | lifecycle action installationId => exact (lifecycle_keeps sound).2 owned
  | repositoriesRemoved installationId repositories =>
      simp only [Links.step, Links.repositoriesRemoved]
      split
      · exact owned
      · exact (pauses _ _ sound).2 owned

end Links

def IntegrationPush.DetachedFrom (installationId : Nat) (push : IntegrationPush) : Prop :=
  push.installation = none ∧ push.detachedInstallationId = some installationId

namespace Links

def Readopts (installationId : Nat) (push : IntegrationPush) : LinkEvent → Prop
  | .bind number user _ adopts => number = installationId ∧ user = push.user ∧ adopts = true
  | _ => False

def Claims (owner : Nat → Nat) (links : Links) (position : Nat) : LinkEvent → Prop
  | .exportGithub workspace user id _ ready =>
      links.exportAccepted owner workspace user id ready = true ∧ links.newestPush workspace = some position
  | _ => False

/-- What an event makes of a detached push: it is attached to the installation of its number, or of its
export, or it stays detached. -/
structure Moves (owner : Nat → Nat) (links : Links) (position installationId : Nat) (push : IntegrationPush)
    (event : LinkEvent) (next : IntegrationPush) : Prop where
  user : next.user = push.user
  readopted : Readopts installationId push event → ∃ row ∈ (links.step owner event).installations,
    row.installationId = installationId ∧ row.user = push.user ∧ next.installation = some row.id
  claimed : links.Claims owner position event → ∃ row ∈ (links.step owner event).installations,
    row.user = push.user ∧ next.installation = some row.id
  stays : ¬Readopts installationId push event → ¬links.Claims owner position event →
    next.DetachedFrom installationId

variable {position number installationId user workspace key : Nat} {account : InstallationAccount}
  {adopts ready : Bool} {exportMode : ExportMode} {event : LinkEvent}

theorem Moves.of_same {next : IntegrationPush} (user : next.user = push.user)
    (plain : ¬Readopts number push event ∧ ¬links.Claims owner position event)
    (detached : next.DetachedFrom number) : Moves owner links position number push event next where
  user := user
  readopted readopts := absurd readopts plain.1
  claimed claims := absurd claims plain.2
  stays _ _ := detached

theorem getElem?_mapPushes (update : IntegrationPush → IntegrationPush) (same : update push = push)
    (found : links.pushes[position]? = some push) : (links.mapPushes update).pushes[position]? = some push := by
  simp [mapPushes, found, same]

theorem detach_of_detached {id : Nat} (detached : push.DetachedFrom number) (from_ : Nat) :
    push.detach id from_ = push := by
  simp [IntegrationPush.detach, detached.1]

theorem pause_of_detached {id : Nat} {repositories : Option (List Nat)} (detached : push.DetachedFrom number) :
    push.pause id repositories = push := by
  simp [IntegrationPush.pause, detached.1]

theorem bind_moves (sound : links.Sound owner) (found : links.pushes[position]? = some push)
    (detached : push.DetachedFrom number) : ∃ next,
      (links.step owner (.bind installationId user account adopts)).pushes[position]? = some next ∧
        Moves owner links position number push (.bind installationId user account adopts) next := by
  obtain ⟨binds, _⟩ := persistInstallation_binds sound installationId user account
  have held : (links.persistInstallation installationId user account).1.pushes[position]? = some push := by
    rw [binds.pushes]
    exact found
  by_cases readopts : Readopts number push (.bind installationId user account adopts)
  · obtain ⟨rfl, rfl, rfl⟩ := readopts
    refine ⟨push.readopt (links.persistInstallation installationId push.user account).2 installationId push.user,
      by simp [step, mem_upsertInstallation, mapPushes, held], ?_⟩
    obtain ⟨row, inside, same, number, theirs⟩ := binds.row
    have attached : (push.readopt (links.persistInstallation installationId push.user account).2 installationId
        push.user).installation = some row.id :=
      IntegrationPush.readopt_installation.mpr (Or.inr ⟨detached.1, detached.2, rfl, same⟩)
    exact {
      user := IntegrationPush.readopt_user
      readopted := fun _ => ⟨row, inside, number, theirs, attached⟩
      claimed := fun claims => claims.elim
      stays := fun none _ => absurd ⟨rfl, rfl, rfl⟩ none }
  · refine ⟨push, ?_, .of_same rfl ⟨readopts, id⟩ detached⟩
    rw [step, mem_upsertInstallation]
    split
    · rename_i adopting
      refine getElem?_mapPushes _ ?_ held
      refine if_neg ?_
      rintro ⟨_, number_eq, mine⟩
      exact readopts ⟨Option.some.inj (number_eq.symm.trans detached.2), mine.symm, adopting⟩
    · exact held

theorem export_moves (sound : links.Sound owner) (found : links.pushes[position]? = some push)
    (detached : push.DetachedFrom number) : ∃ next,
      (links.step owner (.exportGithub workspace user key exportMode ready)).pushes[position]? = some next ∧
        Moves owner links position number push (.exportGithub workspace user key exportMode ready) next := by
  by_cases claims : links.Claims owner position (.exportGithub workspace user key exportMode ready)
  · obtain ⟨accepted, newest⟩ := claims
    obtain ⟨row, known, theirs, _, owns, _⟩ := exportAccepted_eq_true.mp accepted
    obtain ⟨inside, rfl⟩ := mem_of_byId known
    obtain ⟨former, held, rfl⟩ := newestPush_eq newest
    obtain rfl := Option.some.inj (held.symm.trans found)
    have mine : row.user = former.user := by
      rw [theirs, ← owns, sound.users former (List.mem_of_getElem? held)]
    refine ⟨former.claim row.id exportMode, ?_, rfl, fun readopts => readopts.elim, fun _ => ?_, fun _ none => ?_⟩
    · simp [step, exportToGithub, accepted, claimPush, newest, held]
    · refine ⟨row, ?_, mine, rfl⟩
      simpa [step, exportToGithub, accepted, claimPush_installations.1] using inside
    · exact absurd ⟨accepted, newest⟩ none
  · refine ⟨push, ?_, .of_same rfl ⟨id, claims⟩ detached⟩
    rw [step, exportToGithub]
    split
    · rename_i accepted
      unfold claimPush
      split
      · rw [List.getElem?_append_left (List.getElem?_eq_some_iff.mp found).1]
        exact found
      · rename_i place newest
        have elsewhere : place ≠ position := by
          rintro rfl
          exact claims ⟨accepted, newest⟩
        simp [elsewhere, found]
    · exact found

theorem step_moves (sound : links.Sound owner) (event : LinkEvent) (found : links.pushes[position]? = some push)
    (detached : push.DetachedFrom number) : ∃ next, (links.step owner event).pushes[position]? = some next ∧
      Moves owner links position number push event next := by
  have removed : ∀ row, (links.remove row).pushes[position]? = some push := fun row =>
    getElem?_mapPushes _ (detach_of_detached detached _) found
  have paused : ∀ {after : Links} (id : Nat) (repositories : Option (List Nat)), after.pushes = links.pushes →
      (after.mapPushes (·.pause id repositories)).pushes[position]? = some push := fun id repositories same =>
    getElem?_mapPushes _ (pause_of_detached detached) (same ▸ found)
  cases event with
  | bind installationId user account adopts => exact bind_moves sound found detached
  | exportGithub workspace user id exportMode ready => exact export_moves sound found detached
  | exported place status repoId =>
      by_cases same : place = position
      · subst same
        refine ⟨{ push with status, repoId := repoId.or push.repoId }, ?_, .of_same rfl ⟨id, id⟩ detached⟩
        simp [step, found]
      · refine ⟨push, ?_, .of_same rfl ⟨id, id⟩ detached⟩
        simp [step, found, same]
  | revoke key user =>
      refine ⟨push, ?_, .of_same rfl ⟨id, id⟩ detached⟩
      simp only [step, revokeInstallation]
      split
      · exact found
      · split
        · exact removed _
        · exact found
  | lifecycle action installationId =>
      refine ⟨push, ?_, .of_same rfl ⟨id, id⟩ detached⟩
      simp only [step, applyInstallationEvent]
      split
      · exact found
      · cases action with
        | suspend => exact paused _ none rfl
        | unsuspend => exact found
        | deleted => exact removed _
  | repositoriesRemoved installationId repositories =>
      refine ⟨push, ?_, .of_same rfl ⟨id, id⟩ detached⟩
      simp only [step, Links.repositoriesRemoved]
      split
      · exact found
      · exact paused _ _ rfl

theorem empty_sound (owner : Nat → Nat) : Sound owner {} := by
  constructor <;> simp

theorem play_sound (owner : Nat → Nat) (events : List LinkEvent) :
    (play (step owner) {} events).Sound owner :=
  invariant (fun _ event sound => sound.step event) (empty_sound owner) events

theorem play_owned {events : List LinkEvent} (owned : links.Owned) (sound : links.Sound owner)
    (along : Along (step owner) TakesNone links events) : (play (step owner) links events).Owned := by
  induction events generalizing links with
  | nil => exact owned
  | cons event rest ih => exact ih (owned.step sound along.1) (sound.step event) along.2

/-- Where no callback takes a row over, every attached push syncs under an installation of its own user; and a
detached push is attached again by its user's binding of the same number or by an export of its workspace,
and by nothing else. -/
theorem pushes_stay_with_their_users (owner : Nat → Nat) (events : List LinkEvent) :
    (Along (step owner) TakesNone {} events → (play (step owner) {} events).Owned) ∧
      ∀ event position push installationId, (play (step owner) {} events).pushes[position]? = some push →
        push.DetachedFrom installationId →
        ∃ next, ((play (step owner) {} events).step owner event).pushes[position]? = some next ∧
          Moves owner (play (step owner) {} events) position installationId push event next := by
  refine ⟨fun along => ?_, fun event position push installationId found detached =>
    step_moves (play_sound owner events) event found detached⟩
  have owned : Owned {} := by
    intro push member
    contradiction
  exact play_owned owned (empty_sound owner) along

def sampleAccount : InstallationAccount := ⟨"org", "Organization", "all"⟩

def sampleUninstall : List LinkEvent :=
  [ .bind 7 1 sampleAccount true, .exportGithub 0 1 0 .filesToDefault true
  , .exported 0 .completed (some 5), .lifecycle .deleted 7 ]

theorem pushes_stay_with_their_users_sample : (play (step fun _ => 1) {} sampleUninstall).Owned ∧
    ∃ next, ((play (step fun _ => 1) {} sampleUninstall).step (fun _ => 1)
      (.bind 7 1 sampleAccount true)).pushes[0]? = some next ∧
        ∃ row ∈ ((play (step fun _ => 1) {} sampleUninstall).step (fun _ => 1)
          (.bind 7 1 sampleAccount true)).installations, row.user = 1 ∧ next.installation = some row.id := by
  obtain ⟨owned, moves⟩ := pushes_stay_with_their_users (fun _ => 1) sampleUninstall
  refine ⟨owned (by simp [sampleUninstall, Along, TakesNone, Vacant]), ?_⟩
  obtain ⟨next, found, moved⟩ := moves (.bind 7 1 sampleAccount true) 0 _ 7 rfl ⟨rfl, rfl⟩
  obtain ⟨row, inside, _, mine, attached⟩ := moved.readopted ⟨rfl, rfl, rfl⟩
  exact ⟨next, found, row, inside, mine, attached⟩

theorem takeover_keeps_foreign_push :
    ¬(play (step fun _ => 1) {} (sampleUninstall.take 2 ++ [.bind 7 2 sampleAccount true])).Owned ∧
      (play (step fun _ => 1) {} sampleUninstall).pushes.map (·.detachedInstallationId) = [some 7] ∧
        (play (step fun _ => 1) {} (sampleUninstall ++
          [.bind 8 1 sampleAccount true, .exportGithub 0 1 1 .filesToDefault true])).pushes.map
            (·.installation) = [some 1] := by
  refine ⟨fun owned => ?_, rfl, rfl⟩
  obtain ⟨row, inside, _, mine⟩ := owned _ (List.mem_singleton_self _) 0 rfl
  obtain rfl := List.mem_singleton.mp inside
  contradiction

end Links

end Thought2Build.Integrations
